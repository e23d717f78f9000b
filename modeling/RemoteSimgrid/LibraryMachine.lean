import Mathlib.Data.List.Basic
import Mathlib.Data.List.Induction

/-! Labelled machines with outputs. All nondeterminism of a machine is in its labels: under a label
it makes one step, with the outputs of that step, or none. A run is a finite sequence of steps; its
trace is the concatenation of their outputs. -/

namespace RemoteSimgrid.Machine

variable {S L O : Type*}

/-- A finite run from `s`: the labels of its steps, the state reached and the trace. -/
inductive Run (step : S → L → Option (S × List O)) (s : S) : List L → S → List O → Prop
  | nil : Run step s [] s []
  | snoc {labels t trace label u out} :
      Run step s labels t trace → step t label = some (u, out) →
      Run step s (labels ++ [label]) u (trace ++ out)

/-- Execution of a list of labels. -/
def exec (step : S → L → Option (S × List O)) : S → List L → Option (S × List O)
  | s, [] => some (s, [])
  | s, label :: labels =>
      match step s label with
      | none => none
      | some (t, out) =>
          match exec step t labels with
          | none => none
          | some (u, trace) => some (u, out ++ trace)

variable {step : S → L → Option (S × List O)} {s t u : S} {labels : List L} {trace out : List O}

theorem Run.cons {label : L} (hstep : step s label = some (t, out))
    (hrun : Run step t labels u trace) : Run step s (label :: labels) u (out ++ trace) := by
  induction hrun with
  | nil =>
      have h : Run step s ([] ++ [label]) t ([] ++ out) := Run.snoc Run.nil hstep
      simpa using h
  | snoc _ hlast ih =>
      have h := ih.snoc hlast
      rwa [List.cons_append, List.append_assoc] at h

theorem Run.of_exec (h : exec step s labels = some (u, trace)) : Run step s labels u trace := by
  induction labels generalizing s trace with
  | nil =>
      cases h
      exact Run.nil
  | cons label labels ih =>
      rw [exec] at h
      split at h
      · cases h
      · rename_i t out hstep
        split at h
        · cases h
        · rename_i v rest hrest
          cases h
          exact Run.cons hstep (ih hrest)

theorem exec_snoc {label : L} (h : exec step s labels = some (t, trace))
    (hlast : step t label = some (u, out)) :
    exec step s (labels ++ [label]) = some (u, trace ++ out) := by
  induction labels generalizing s trace with
  | nil =>
      cases h
      simp only [List.nil_append, exec, hlast, List.append_nil]
  | cons first labels ih =>
      rw [exec] at h
      split at h
      · cases h
      · rename_i v out' hfirst
        split at h
        · cases h
        · rename_i w rest hrest
          cases h
          simp only [List.cons_append, exec, hfirst, ih hrest, List.append_assoc]

theorem Run.exec_eq (h : Run step s labels t trace) : exec step s labels = some (t, trace) := by
  induction h with
  | nil => rfl
  | snoc _ hlast ih => exact exec_snoc ih hlast

/-- A run whose end passes a check. -/
theorem Run.of_check {check : S × List O → Bool} (h : (exec step s labels).any check = true) :
    ∃ t trace, Run step s labels t trace ∧ check (t, trace) = true := by
  obtain ⟨⟨t, trace⟩, hexec, hcheck⟩ := (Option.any_eq_true _ _).mp h
  exact ⟨t, trace, Run.of_exec hexec, hcheck⟩

/-- What holds at the start and is kept by every step holds at the end of every run. The invariant
may speak of the labels and of the trace so far. -/
theorem Run.invariant {P : List L → S → List O → Prop} (hrun : Run step s labels t trace)
    (hinit : P [] s [])
    (hstep : ∀ {labels t trace label u out}, Run step s labels t trace → P labels t trace →
      step t label = some (u, out) → P (labels ++ [label]) u (trace ++ out)) :
    P labels t trace := by
  induction hrun with
  | nil => exact hinit
  | snoc hrun hlast ih => exact hstep hrun ih hlast

/-- The states of a run: those that one of its prefixes reaches. -/
def Always (step : S → L → Option (S × List O)) (P : S → List O → Prop) (s : S)
    (labels : List L) : Prop :=
  ∀ before after t trace, labels = before ++ after → Run step s before t trace → P t trace

/-- The steps of a run: every label is taken in a state that meets the guard. -/
def Throughout (step : S → L → Option (S × List O)) (G : S → L → Prop) (s : S)
    (labels : List L) : Prop :=
  ∀ before label after t trace, labels = before ++ label :: after →
    Run step s before t trace → G t label

/-- The steps of a run with their outcomes: each has a property. -/
def EveryStep (step : S → L → Option (S × List O)) (P : S → L → S → List O → Prop) (s : S)
    (labels : List L) : Prop :=
  ∀ before label after t trace u out, labels = before ++ label :: after →
    Run step s before t trace → step t label = some (u, out) → P t label u out

theorem Always.before {P : S → List O → Prop} {before after : List L}
    (h : Always step P s (before ++ after)) : Always step P s before :=
  fun first second t trace heq hrun =>
    h first (second ++ after) t trace (by rw [heq, List.append_assoc]) hrun

theorem Throughout.before {G : S → L → Prop} {before after : List L}
    (h : Throughout step G s (before ++ after)) : Throughout step G s before :=
  fun first label second t trace heq hrun =>
    h first label (second ++ after) t trace (by rw [heq]; simp) hrun

theorem Throughout.nil {G : S → L → Prop} : Throughout step G s [] := by
  intro before label after t trace heq
  simp at heq

/-- The invariant rule for runs all of whose steps meet a guard. -/
theorem Run.guarded_invariant {G : S → L → Prop} {P : List L → S → List O → Prop}
    (hrun : Run step s labels t trace) (hguard : Throughout step G s labels)
    (hinit : P [] s [])
    (hstep : ∀ {labels t trace label u out}, Run step s labels t trace → P labels t trace →
      G t label → step t label = some (u, out) → P (labels ++ [label]) u (trace ++ out)) :
    P labels t trace := by
  induction hrun with
  | nil => exact hinit
  | snoc hrun hlast ih =>
      exact hstep hrun (ih hguard.before) (hguard _ _ [] _ _ rfl hrun) hlast

theorem Run.nil_inv (h : Run step s [] t trace) : t = s ∧ trace = [] := by
  generalize hl : [] = all at h
  cases h with
  | nil => exact ⟨rfl, rfl⟩
  | snoc => simp at hl

theorem Run.snoc_inv {label : L} (h : Run step s (labels ++ [label]) u trace) :
    ∃ t out out', Run step s labels t out ∧ step t label = some (u, out') ∧ trace = out ++ out' := by
  generalize hl : labels ++ [label] = all at h
  cases h with
  | nil => simp at hl
  | snoc hrun hlast =>
      obtain ⟨rfl, hlabel⟩ := List.append_inj' hl rfl
      cases hlabel
      exact ⟨_, _, _, hrun, hlast, rfl⟩

/-- The labels determine the run. -/
theorem Run.unique {v : S} {trace' : List O} (h : Run step s labels t trace)
    (h' : Run step s labels v trace') : v = t ∧ trace' = trace := by
  induction h generalizing v trace' with
  | nil => exact h'.nil_inv
  | snoc _ hlast ih =>
      obtain ⟨w, out, out', hrun', hlast', rfl⟩ := h'.snoc_inv
      obtain ⟨rfl, rfl⟩ := ih hrun'
      rw [hlast] at hlast'
      cases hlast'
      exact ⟨rfl, rfl⟩

/-- A run passes through the state that each of its prefixes reaches. -/
theorem Run.split {before after : List L} (h : Run step s (before ++ after) u trace) :
    ∃ t out, Run step s before t out := by
  induction after using List.reverseRecOn generalizing u trace with
  | nil => exact ⟨u, trace, by simpa using h⟩
  | append_singleton after label ih =>
      rw [← List.append_assoc] at h
      obtain ⟨t, out, out', hrun, -, -⟩ := h.snoc_inv
      exact ih hrun

/-- The rest of a run starts where its beginning ends. -/
theorem Run.rest {before after : List L} {first : List O} (h : Run step s (before ++ after) u trace)
    (hbefore : Run step s before t first) :
    ∃ out, Run step t after u out ∧ trace = first ++ out := by
  induction after using List.reverseRecOn generalizing u trace with
  | nil =>
      rw [List.append_nil] at h
      obtain ⟨rfl, rfl⟩ := hbefore.unique h
      exact ⟨[], Run.nil, by simp⟩
  | append_singleton after label ih =>
      rw [← List.append_assoc] at h
      obtain ⟨v, out, out', hrun, hlast, rfl⟩ := h.snoc_inv
      obtain ⟨out'', hrest, rfl⟩ := ih hrun
      exact ⟨out'' ++ out', hrest.snoc hlast, by rw [List.append_assoc]⟩

theorem Run.split_step {before after : List L} {label : L}
    (h : Run step s (before ++ label :: after) u trace) :
    ∃ t out v out', Run step s before t out ∧ step t label = some (v, out') ∧
      Run step s (before ++ [label]) v (out ++ out') := by
  rw [show before ++ label :: after = (before ++ [label]) ++ after by simp] at h
  obtain ⟨v, all, hv⟩ := h.split
  obtain ⟨t, out, out', hrun, hlast, -⟩ := hv.snoc_inv
  exact ⟨t, out, v, out', hrun, hlast, hrun.snoc hlast⟩

/-- Among the runs whose steps all meet an assumption `F`, a property is kept by the steps that meet
a guard and broken by any other step. Then it holds all along such a run exactly when every step of
the run meets the guard. -/
theorem always_iff_throughout {F G : S → L → Prop} {I P : S → List O → Prop}
    (hrun : Run step s labels u trace) (hassumed : Throughout step F s labels) (hinit : I s [])
    (hP : ∀ t trace, I t trace → P t trace)
    (hkeep : ∀ t trace label v out, I t trace → F t label → G t label →
      step t label = some (v, out) → I v (trace ++ out))
    (hbreak : ∀ t trace label v out, I t trace → F t label → ¬G t label →
      step t label = some (v, out) → ¬P v (trace ++ out)) :
    Always step P s labels ↔ Throughout step G s labels := by
  have hinv : ∀ {labels t trace}, Run step s labels t trace → Throughout step F s labels →
      Throughout step G s labels → I t trace := by
    intro labels t trace hrun hassumed hguard
    have hboth : Throughout step (fun t label => F t label ∧ G t label) s labels :=
      fun before label after t trace heq hbefore =>
        ⟨hassumed before label after t trace heq hbefore,
          hguard before label after t trace heq hbefore⟩
    exact hrun.guarded_invariant (P := fun _ => I) hboth hinit
      (fun _ ht hg hs => hkeep _ _ _ _ _ ht hg.1 hg.2 hs)
  constructor
  · intro halways
    suffices h : ∀ {labels t trace}, Run step s labels t trace → Throughout step F s labels →
        Always step P s labels → Throughout step G s labels from h hrun hassumed halways
    intro labels t trace hrun
    induction hrun with
    | nil => exact fun _ _ => Throughout.nil
    | @snoc labels t trace label u out hrun hlast ih =>
        intro hassumed halways before label' after t' trace' heq hbefore
        have hearlier := ih hassumed.before halways.before
        rcases List.eq_nil_or_concat after with rfl | ⟨after', last, rfl⟩
        · obtain ⟨rfl, hlabel⟩ := List.append_inj' heq rfl
          cases hlabel
          obtain ⟨rfl, rfl⟩ := hrun.unique hbefore
          by_contra hbad
          exact hbreak _ _ _ _ _ (hinv hrun hassumed.before hearlier)
            (hassumed _ _ [] _ _ rfl hrun) hbad hlast
            (halways _ [] _ _ (by simp) (hrun.snoc hlast))
        · have heq' : labels ++ [label] = (before ++ label' :: after') ++ [last] := by
            rw [heq]; simp
          obtain ⟨rfl, -⟩ := List.append_inj' heq' rfl
          exact hearlier _ _ _ _ _ rfl hbefore
  · intro hguard before after t trace heq hbefore
    subst heq
    exact hP _ _ (hinv hbefore hassumed.before hguard.before)

/-- A property that, in the states reached, the steps that meet a guard have, and no other step. -/
theorem everyStep_iff_throughout {G : S → L → Prop} {P : S → L → S → List O → Prop}
    (hrun : Run step s labels u trace)
    (hstep : ∀ before t first label v out, Run step s before t first → step t label = some (v, out) →
      (P t label v out ↔ G t label)) :
    EveryStep step P s labels ↔ Throughout step G s labels := by
  constructor
  · intro hevery before label after t trace heq hbefore
    subst heq
    obtain ⟨t', out, v, out', hbefore', hlast, -⟩ := hrun.split_step
    obtain ⟨rfl, -⟩ := hbefore.unique hbefore'
    exact (hstep _ _ _ _ _ _ hbefore hlast).mp (hevery before label after _ _ _ _ rfl hbefore hlast)
  · intro hguard before label after t trace v out heq hbefore hlast
    exact (hstep _ _ _ _ _ _ hbefore hlast).mpr (hguard before label after t trace heq hbefore)

/-- A check that every step of a run meets a guard. -/
def checkThroughout (step : S → L → Option (S × List O)) (G : S → L → Prop)
    [∀ s label, Decidable (G s label)] : S → List L → Bool
  | _, [] => true
  | s, label :: labels =>
      decide (G s label) &&
        match step s label with
        | none => true
        | some (t, _) => checkThroughout step G t labels

theorem Throughout.of_check {G : S → L → Prop} [∀ s label, Decidable (G s label)]
    (h : checkThroughout step G s labels = true) : Throughout step G s labels := by
  induction labels generalizing s with
  | nil => exact Throughout.nil
  | cons label labels ih =>
      simp only [checkThroughout, Bool.and_eq_true, decide_eq_true_eq] at h
      intro before label' after t trace heq hrun
      cases before with
      | nil =>
          obtain ⟨rfl, rfl⟩ := hrun.nil_inv
          cases heq
          exact h.1
      | cons first before =>
          cases heq
          have hsplit : Run step s ([label] ++ before) t trace := hrun
          obtain ⟨u, out, hu⟩ := hsplit.split
          have hfirst : Run step s ([] ++ [label]) u out := hu
          obtain ⟨v, out₁, out₂, hv, hstep, -⟩ := hfirst.snoc_inv
          obtain ⟨rfl, rfl⟩ := hv.nil_inv
          obtain ⟨rest, hrest, -⟩ := hsplit.rest hu
          rw [hstep] at h
          exact ih h.2 before label' after t rest rfl hrest

end RemoteSimgrid.Machine
