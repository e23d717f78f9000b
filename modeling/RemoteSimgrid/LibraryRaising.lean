import Mathlib.Data.Prod.Basic

/-! Computations that change a state and may raise, and the rules for what holds after them. What a
computation has changed before it raises stays changed. -/

namespace RemoteSimgrid.Raising

/-- A computation over states of type `S` that returns an `A` or raises an `E`. -/
abbrev Action (E S A : Type) := ExceptT E (StateM S) A

variable {E S A B : Type} {s t : S} {a : A} {e : E} {pre pre' : S → Prop} {post post' : A → S → Prop} {raised raised' : E → S → Prop}
  {x : Action E S A}

/-- What the computation comes to from a state, and the state it leaves. -/
def ending (x : Action E S A) (s : S) : Except E A × S := (x.run.run s).run

/-! ### Ends of compound computations -/

section

variable {f : A → Action E S B} {handler : E → Action E S A}

theorem ending_bind_ok (h : ending x s = (.ok a, t)) : ending (x >>= f) s = ending (f a) t := by
  unfold ending at *
  rw [ExceptT.run_bind, StateT.run_bind, Id.run_bind, h]

theorem ending_bind_error (h : ending x s = (.error e, t)) : ending (x >>= f) s = (.error e, t) := by
  unfold ending at *
  rw [ExceptT.run_bind, StateT.run_bind, Id.run_bind, h]
  rfl

theorem ending_tryCatch_ok (h : ending x s = (.ok a, t)) : ending (tryCatch x handler) s = (.ok a, t) := by
  unfold ending at *
  rw [ExceptT.run_tryCatch, StateT.run_bind, Id.run_bind, h]
  rfl

theorem ending_tryCatch_error (h : ending x s = (.error e, t)) :
    ending (tryCatch x handler) s = ending (handler e) t := by
  unfold ending at *
  rw [ExceptT.run_tryCatch, StateT.run_bind, Id.run_bind, h]

end

/-! ### Triples -/

/-- What has to hold of an end: `post` when the computation returns, `raised` when it raises. -/
def Ends (post : A → S → Prop) (raised : E → S → Prop) : Except E A × S → Prop
  | (.ok a, s) => post a s
  | (.error e, s) => raised e s

/-- From a state where `pre` holds, the computation returns with `post` or raises with `raised`. -/
def Triple (pre : S → Prop) (x : Action E S A) (post : A → S → Prop) (raised : E → S → Prop) : Prop :=
  ∀ s, pre s → Ends post raised (ending x s)

theorem Ends.weaken {result : Except E A × S} (h : Ends post raised result)
    (hpost : ∀ a s, post a s → post' a s) (hraised : ∀ e s, raised e s → raised' e s) :
    Ends post' raised' result := by
  rcases result with ⟨e | a, s⟩
  · exact hraised e s h
  · exact hpost a s h

namespace Triple

theorem weaken (h : Triple pre x post raised) (hpre : ∀ s, pre' s → pre s)
    (hpost : ∀ a s, post a s → post' a s) (hraised : ∀ e s, raised e s → raised' e s) :
    Triple pre' x post' raised' :=
  fun s hs => (h s (hpre s hs)).weaken hpost hraised

theorem weakenErrors (h : Triple pre x post raised) (hraised : ∀ e s, raised e s → raised' e s) :
    Triple pre x post raised' :=
  h.weaken (fun _ hs => hs) (fun _ _ hs => hs) hraised

/-- A state at a time. -/
theorem forward (h : ∀ s, pre s → Triple (fun s' => s' = s) x post raised) : Triple pre x post raised :=
  fun s hs => h s hs s rfl

theorem returns {a : A} (h : ∀ s, pre s → post a s) :
    Triple pre (pure a : Action E S A) post raised := h

theorem throws {e : E} (h : ∀ s, pre s → raised e s) :
    Triple pre (throw e : Action E S A) post raised := h

theorem modifies {g : S → S} {post : Unit → S → Prop} (h : ∀ s, pre s → post () (g s)) :
    Triple pre (modify g : Action E S Unit) post raised := h

theorem seq {f : A → Action E S B} {post : B → S → Prop} {m : A → S → Prop}
    (hx : Triple pre x m raised) (hf : ∀ a, Triple (m a) (f a) post raised) :
    Triple pre (x >>= f) post raised := by
  intro s hs
  have hends := hx s hs
  rcases hresult : ending x s with ⟨e | a, t⟩
  · rw [hresult] at hends
    rw [ending_bind_error hresult]
    exact hends
  · rw [hresult] at hends
    rw [ending_bind_ok hresult]
    exact hf a t hends

theorem handles {handler : E → Action E S A} {c : E → S → Prop} (hx : Triple pre x post c)
    (hhandler : ∀ e, Triple (c e) (handler e) post raised) :
    Triple pre (tryCatch x handler) post raised := by
  intro s hs
  have hends := hx s hs
  rcases hresult : ending x s with ⟨e | a, t⟩
  · rw [hresult] at hends
    rw [ending_tryCatch_error hresult]
    exact hhandler e t hends
  · rw [hresult] at hends
    rw [ending_tryCatch_ok hresult]
    exact hends

end Triple

end RemoteSimgrid.Raising
