import Mathlib.Data.Finset.Filter
import RemoteSimgrid.MutexRefinement
import RemoteSimgrid.SimulationSuspended
import RemoteSimgrid.SimulationTurns

/-! The critical sections of the clients. A client is inside one from the answer that gives it a mutex
to the next decision that gives the mutex up, which is an unlock or a wait on a condition variable. The
S4U mutexes and condition variables are those of ordinary monitors. -/

namespace RemoteSimgrid

open Machine Pb

/-- The mutex that a client holds when the stub of its decision returns. -/
def Pb.DecisionType.acquires : DecisionType → Option Address
  | .mutexLock mutex => some mutex.address
  | .mutexTryLock mutex => some mutex.address
  | type => type.lockWait.map Prod.snd

/-- The mutex that a client does not hold any more when it sends a decision. -/
def Pb.DecisionType.givesUp : DecisionType → Option Address
  | .mutexUnlock mutex => some mutex.address
  | type => type.lockWait.map Prod.snd

/-- The stub returns, and for `try_lock` it returns true. -/
def Pb.DecisionType.acquired (ack : DecisionAck) : DecisionType → Bool
  | .mutexTryLock _ => ack.success && ack.mutexTryLock
  | _ => ack.success

/-- The decision that each actor handles, or handled last, and the clients that are in a critical
section, with its mutex. -/
structure Sections where
  asked : Pid → Option DecisionType := fun _ => none
  inside : Finset (Pid × Address) := ∅

namespace Sections

def ask (c : Sections) (p : Pid) (type : DecisionType) : Sections where
  asked := Function.update c.asked p (some type)
  inside :=
    match type.givesUp with
    | some a => c.inside.erase (p, a)
    | none => c.inside

def tell (c : Sections) (p : Pid) (ack : DecisionAck) : Sections :=
  match c.asked p with
  | some type =>
      match type.acquires with
      | some a => if type.acquired ack then { c with inside := insert (p, a) c.inside } else c
      | none => c
  | none => c

/-- A mutex that is created is held by nobody: the one that was at its address is gone. -/
def create (c : Sections) (a : Address) : Sections :=
  { c with inside := c.inside.filter fun x => x.2 ≠ a }

def observe (c : Sections) : SimOutput → Sections
  | .dispatched p d => c.ask p d.type
  | .writeAck p _ ack => c.tell p ack
  | .served _ .mutexCreate (.address a) => c.create a
  | _ => c

def observeAll (c : Sections) (out : List SimOutput) : Sections := out.foldl observe c

end Sections

/-- After this trace the client of an actor is in a critical section of the mutex at an address. -/
def InSection (trace : List SimOutput) (p : Pid) (a : Address) : Prop :=
  (p, a) ∈ (({} : Sections).observeAll trace).inside

instance (trace : List SimOutput) (p : Pid) (a : Address) : Decidable (InSection trace p a) :=
  inferInstanceAs (Decidable (_ ∈ _))

/-! ### Monitors -/

/-- The lock that a wait on a condition variable gives to S4U. -/
def S4uCall.lock : S4uCall → Option Ptr
  | .conditionVariableWait _ lock | .conditionVariableWaitUntil _ lock _
  | .conditionVariableWaitFor _ lock _ => some lock
  | _ => none

/-- What a served call does to the owners of the mutexes. A wait on a condition variable returns when
the mutex of its lock is free, and takes it. -/
def MonitorStep (mutexOf : Ptr → Address) (owner owner' : Address → Option Pid) (p : Pid)
    (call : S4uCall) (ret : S4uReturn) : Prop :=
  match call, ret with
  | .conditionVariableWait _ lock, .done | .conditionVariableWaitUntil _ lock _, .cvStatus _
  | .conditionVariableWaitFor _ lock _, .cvStatus _ =>
      owner (mutexOf lock) = none ∧ owner' = Function.update owner (mutexOf lock) (some p)
  | call, ret => OwnerStep owner owner' p call ret

/-- The S4U mutexes and condition variables are those of monitors. A call that is issued takes no
mutex from any actor, but for that of the lock with which the actor itself waits. -/
structure Monitors (K : S4u) where
  owner : K.State → Address → Option Pid
  mutexOf : Ptr → Address
  issue : ∀ k p call a q, owner k a = some q → (q = p → call.lock.map mutexOf ≠ some a) →
    owner (K.issue k p call) a = some q
  progress : ∀ k event k' writes, K.progress k event = some (k', writes) → owner k' = owner k
  serve : ∀ k p call ret k', K.serve k p call ret = some k' →
    MonitorStep mutexOf (owner k) (owner k') p call ret

variable {K : S4u} {s t : Simulation K} {event : SimEvent K} {out : List SimOutput}

/-- The locks on the heap of the server are locks of the mutexes that S4U takes them for. -/
def LocksOf (M : Monitors K) (s : Simulation K) (_ : SimEvent K) : Prop :=
  ∀ lock a, s.memory.locks.find lock = some a → M.mutexOf lock = a

/-! ### The invariant -/

def Frame.acquires : Frame → Option Address
  | .mutexLock mutex | .conditionVariableWait _ mutex _ | .conditionVariableWaitUntil _ mutex _
  | .conditionVariableWaitFor _ mutex _ => some mutex.address
  | _ => none

/-- The handler of a decision acquires what its client asked for. No `MutexTryLock` is suspended. -/
def Frame.AcquiresFor (asked : Option DecisionType) : Frame → Prop
  | .firstYield _ | .thinkTime _ => True
  | .mutexTryLock => False
  | frame => ∃ type, asked = some type ∧ type.acquires = frame.acquires

/-- The call of a handler that acquires a mutex is about this mutex. -/
def Frame.Locks (mutexOf : Ptr → Address) (call : S4uCall) : Frame → Prop
  | .mutexLock mutex => call = .mutexLock mutex.address
  | .conditionVariableWait _ mutex lock =>
      mutexOf lock = mutex.address ∧ ∃ cv, call = .conditionVariableWait cv lock
  | .conditionVariableWaitUntil _ mutex lock =>
      mutexOf lock = mutex.address ∧ ∃ cv timeoutTime,
        call = .conditionVariableWaitUntil cv lock timeoutTime
  | .conditionVariableWaitFor _ mutex lock =>
      mutexOf lock = mutex.address ∧ ∃ cv duration,
        call = .conditionVariableWaitFor cv lock duration
  | _ => True

def ActorPoint.Acquires (mutexOf : Ptr → Address) (asked : Option DecisionType) : ActorPoint → Prop
  | .calling call frame => frame.AcquiresFor asked ∧ frame.Locks mutexOf call
  | .returned _ frame => frame.AcquiresFor asked
  | .waitingCanConnectAck _ _ => ∃ type, asked = some type ∧ type.acquires = none
  | _ => True

/-- The mutex that S4U has given to an actor whose client does not know it yet. -/
def ActorPoint.granted : ActorPoint → Option Address
  | .returned .done (.mutexLock mutex) => some mutex.address
  | .returned .done (.conditionVariableWait _ mutex _) => some mutex.address
  | .returned (.cvStatus _) (.conditionVariableWaitUntil _ mutex _) => some mutex.address
  | .returned (.cvStatus _) (.conditionVariableWaitFor _ mutex _) => some mutex.address
  | _ => none

/-- The mutex that an actor is about to unlock. -/
def ActorPoint.unlocking : ActorPoint → Option Address
  | .calling (.mutexUnlock a) _ => some a
  | _ => none

/-- A client that is in a critical section, or is about to be told that it is, owns its mutex. -/
structure SectionInv (M : Monitors K) (s : Simulation K) (c : Sections) : Prop where
  blocked : BlockedInv s
  acquires : ∀ p point, s.point p = some point → point.Acquires M.mutexOf (c.asked p)
  unlocking : ∀ p point a, s.point p = some point → point.unlocking = some a → (p, a) ∉ c.inside
  granted : ∀ p point a, s.point p = some point → point.granted = some a →
    M.owner s.kernel a = some p
  inside : ∀ p a, (p, a) ∈ c.inside → M.owner s.kernel a = some p

/-! ### A turn of an actor -/

/-- The outputs that the sections do not depend on. -/
def SimOutput.silent : SimOutput → Bool
  | .dispatched _ _ | .writeAck _ _ _ | .served _ _ _ => false
  | _ => true

namespace Sections

variable {c : Sections}

theorem observeAll_append (out out' : List SimOutput) :
    c.observeAll (out ++ out') = (c.observeAll out).observeAll out' :=
  List.foldl_append

theorem observeAll_silent (h : ∀ o ∈ out, o.silent = true) : c.observeAll out = c := by
  induction out with
  | nil => rfl
  | cons o out ih =>
      have ho : c.observe o = c := by
        have hsilent := h o List.mem_cons_self
        cases o <;> first | rfl | cases hsilent
      rw [observeAll, List.foldl_cons, ho]
      exact ih fun o' ho' => h o' (List.mem_cons_of_mem o ho')

theorem tell_refused {p : Pid} {ack : DecisionAck} (h : ack.success = false) : c.tell p ack = c := by
  simp only [tell]
  split
  · rename_i type _
    split
    · have hnot : type.acquired ack = false := by
        cases type <;> simp [DecisionType.acquired, h]
      rw [hnot, if_neg Bool.false_ne_true]
    · rfl
  · rfl

theorem tell_of_acquires {p : Pid} {ack : DecisionAck} {type : DecisionType}
    (hasked : c.asked p = some type) (h : type.acquires = none) : c.tell p ack = c := by
  simp only [tell, hasked, h]

theorem asked_tell (p : Pid) (ack : DecisionAck) : (c.tell p ack).asked = c.asked := by
  simp only [tell]
  split
  · split
    · split <;> rfl
    · rfl
  · rfl

/-- An answer puts its client in a section of the mutex it has asked for, or does nothing. -/
theorem mem_tell {p q : Pid} {ack : DecisionAck} {a : Address}
    (h : (q, a) ∈ (c.tell p ack).inside) :
    (q, a) ∈ c.inside ∨ q = p ∧ ack.success = true ∧
      ∃ type, c.asked p = some type ∧ type.acquires = some a := by
  simp only [tell] at h
  split at h
  · rename_i type hasked
    split at h
    · rename_i b hacquires
      split at h
      · rename_i hacquired
        rcases Finset.mem_insert.mp h with heq | h
        · cases heq
          refine Or.inr ⟨rfl, ?_, type, hasked, hacquires⟩
          cases type <;> simp_all [DecisionType.acquired]
        · exact Or.inl h
      · exact Or.inl h
    · exact Or.inl h
  · exact Or.inl h

theorem mem_ask {p q : Pid} {type : DecisionType} {a : Address}
    (h : (q, a) ∈ (c.ask p type).inside) :
    (q, a) ∈ c.inside ∧ (q = p → type.givesUp ≠ some a) := by
  simp only [ask] at h
  split at h
  · rename_i b hgivesUp
    obtain ⟨hne, hmem⟩ := Finset.mem_erase.mp h
    refine ⟨hmem, ?_⟩
    rintro rfl heq
    rw [hgivesUp] at heq
    cases heq
    exact hne rfl
  · rename_i hgivesUp
    exact ⟨h, fun _ heq => by rw [hgivesUp] at heq; cases heq⟩

end Sections

theorem acquires_of_plain {type : DecisionType} (h : type.plain) : type.acquires = none := by
  cases type <;> first | rfl | cases h

theorem acquires_of_released {type : DecisionType} {h : Handle} (hreleased : type.released = some h) :
    type.acquires = none := by
  cases type <;> first | rfl | cases hreleased

theorem lockWait_acquires {type : DecisionType} {x : Address × Address} (h : type.lockWait = some x) :
    type.acquires = some x.2 ∧ type.givesUp = some x.2 := by
  cases type <;> cases h <;> exact ⟨rfl, rfl⟩

/-- A decision is answered at once only when it is refused or acquires nothing. -/
theorem Switched.acquires_of_finished {d : Decision} {m : Memory} {segment : Segment}
    (h : Switched d m segment) {ack : DecisionAck} {quitReceived : Bool}
    (houtcome : segment.outcome = .finished ack true quitReceived) :
    ack.success = false ∨ d.type.acquires = none := by
  cases h with
  | plainAnswered _ hplain => exact Or.inr (acquires_of_plain hplain)
  | failed =>
      cases houtcome
      exact Or.inl rfl
  | freed _ _ hreleased => exact Or.inr (acquires_of_released hreleased)
  | decreased _ _ hreleased => exact Or.inr (acquires_of_released hreleased)
  | mutexTryLockFailed =>
      cases houtcome
      exact Or.inl rfl
  | _ => cases houtcome

theorem Switched.silent {d : Decision} {m : Memory} {segment : Segment} (h : Switched d m segment) :
    ∀ o ∈ segment.out, o.silent = true := by
  cases h with
  | mailboxPut => exact fun o ho => by rw [List.mem_singleton.mp ho]; rfl
  | mailboxPutAsync => exact fun o ho => by rw [List.mem_singleton.mp ho]; rfl
  | _ => exact List.forall_mem_nil _

/-- The sections after the dispatch of a decision are those after it was asked. -/
theorem Switched.observeAll {d : Decision} {m : Memory} {segment : Segment} (h : Switched d m segment)
    (c : Sections) (p : Pid) (socket : Socket) :
    (c.ask p d.type).observeAll (segment.out ++ segment.outcome.out p socket) = c.ask p d.type := by
  rw [Sections.observeAll_append, Sections.observeAll_silent h.silent]
  cases houtcome : segment.outcome with
  | finished ack sendAck quitReceived =>
      cases sendAck with
      | false => cases quitReceived <;> rfl
      | true =>
          have htell : (c.ask p d.type).tell p ack = c.ask p d.type := by
            rcases h.acquires_of_finished houtcome with hack | hnone
            · exact Sections.tell_refused hack
            · exact Sections.tell_of_acquires (Function.update_self p _ _) hnone
          cases quitReceived <;> exact htell
  | _ => rfl

theorem Owned.mutex {m : Memory} (h : Owned m) {a : Address} {mutex : StoredMutex}
    (hfind : m.store.mutexes.find a = some mutex) : mutex.mutex = a := by
  have hentry := h.entry (.mutex a) mutex.entry (by rw [Memory.entry, hfind, Option.map_some])
  exact hentry.1

section

variable {M : Monitors K} {d : Decision} {m : Memory} {segment : Segment}

/-- The handler that a decision suspends. -/
theorem Switched.suspended (h : Switched d m segment) (howned : Owned m)
    (hlocks : ∀ lock a, m.locks.find lock = some a → M.mutexOf lock = a) {call : S4uCall}
    {frame : Frame} (houtcome : segment.outcome = .call call frame) :
    frame.AcquiresFor (some d.type) ∧ frame.Locks M.mutexOf call ∧
      ∀ a, call.lock.map M.mutexOf = some a ∨ call = .mutexUnlock a → d.type.givesUp = some a := by
  have hforeign : ∀ {call : S4uCall}, call.lock = none → (∀ a, call ≠ .mutexUnlock a) → ∀ a,
      call.lock.map M.mutexOf = some a ∨ call = .mutexUnlock a → d.type.givesUp = some a := by
    intro call hlock hunlock a ha
    rcases ha with ha | ha
    · rw [hlock] at ha
      cases ha
    · exact absurd ha (hunlock a)
  cases h with
  | plainCalled call frame hplain hcall hframe =>
      cases houtcome
      have hnone := acquires_of_plain hplain
      refine ⟨?_, ?_, hforeign ?_ ?_⟩
      · rcases hframe with rfl | rfl <;> exact ⟨_, rfl, hnone⟩
      · rcases hframe with rfl | rfl <;> trivial
      · cases call <;> first | rfl | cases hcall
      · rintro a rfl
        cases hcall
  | notified c cv call hd _ =>
      cases houtcome
      rcases hd with ⟨hd, rfl⟩ | ⟨hd, rfl⟩
      · exact ⟨⟨_, rfl, by rw [hd]; rfl⟩, trivial, hforeign rfl fun a ha => by cases ha⟩
      · exact ⟨⟨_, rfl, by rw [hd]; rfl⟩, trivial, hforeign rfl fun a ha => by cases ha⟩
  | mutexLock x mutex hd hfind =>
      cases houtcome
      refine ⟨⟨_, rfl, by rw [hd]; rfl⟩, ?_, hforeign rfl fun a ha => by cases ha⟩
      rw [howned.mutex hfind]
      rfl
  | mutexUnlock x mutex hd hfind =>
      cases houtcome
      refine ⟨⟨_, rfl, by rw [hd]; rfl⟩, trivial, ?_⟩
      intro a ha
      rcases ha with ha | ha
      · cases ha
      · cases ha
        rw [hd, howned.mutex hfind]
        rfl
  | mutexTryLock x mutex hd hfind =>
      -- no object lives at the address that the handler looks up
      have hentry := howned.entry (.mutex 0) mutex.entry (by rw [Memory.entry, hfind, Option.map_some])
      exact absurd rfl hentry.2.1
  | lockWaited c x cv mutex call frame hd _ hmutex hframe =>
      cases houtcome
      obtain ⟨hacquires, hgivesUp⟩ := lockWait_acquires hd
      have hlock : M.mutexOf mutex.lock = x := hlocks _ _ (howned.lock x mutex hmutex).2.2
      have hgives : ∀ a, some (M.mutexOf mutex.lock) = some a → d.type.givesUp = some a := by
        intro a ha
        rw [hgivesUp, ← ha, hlock]
      rcases hframe with ⟨rfl, rfl⟩ | ⟨rfl, timeoutTime, rfl⟩ | ⟨rfl, duration, rfl⟩
      · exact ⟨⟨_, rfl, hacquires⟩, ⟨hlock, _, rfl⟩,
          fun a ha => hgives a (ha.resolve_right (by rintro ⟨⟩))⟩
      · exact ⟨⟨_, rfl, hacquires⟩, ⟨hlock, _, _, rfl⟩,
          fun a ha => hgives a (ha.resolve_right (by rintro ⟨⟩))⟩
      · exact ⟨⟨_, rfl, hacquires⟩, ⟨hlock, _, _, rfl⟩,
          fun a ha => hgives a (ha.resolve_right (by rintro ⟨⟩))⟩
  | actorCreate _ hd =>
      cases houtcome
      exact ⟨⟨_, rfl, by rw [hd]; rfl⟩, trivial, hforeign rfl fun a ha => by cases ha⟩
  | commWaitFor _ _ hd =>
      cases houtcome
      exact ⟨⟨_, rfl, by rw [hd]; rfl⟩, trivial, hforeign rfl fun a ha => by cases ha⟩
  | commCancel _ _ hd =>
      cases houtcome
      exact ⟨⟨_, rfl, by rw [hd]; rfl⟩, trivial, hforeign rfl fun a ha => by cases ha⟩
  | commTest _ _ hd =>
      cases houtcome
      exact ⟨⟨_, rfl, by rw [hd]; rfl⟩, trivial, hforeign rfl fun a ha => by cases ha⟩
  | commWaitAnyFor _ _ hd =>
      cases houtcome
      exact ⟨⟨_, rfl, by rw [hd]; rfl⟩, trivial, hforeign rfl fun a ha => by cases ha⟩
  | mailboxPut _ hd =>
      cases houtcome
      exact ⟨⟨_, rfl, by rw [hd]; rfl⟩, trivial, hforeign rfl fun a ha => by cases ha⟩
  | mailboxPutAsync _ hd =>
      cases houtcome
      exact ⟨⟨_, rfl, by rw [hd]; rfl⟩, trivial, hforeign rfl fun a ha => by cases ha⟩
  | mailboxGet _ hd =>
      cases houtcome
      exact ⟨⟨_, rfl, by rw [hd]; rfl⟩, trivial, hforeign rfl fun a ha => by cases ha⟩
  | mailboxGetAsync _ hd =>
      cases houtcome
      exact ⟨⟨_, rfl, by rw [hd]; rfl⟩, trivial, hforeign rfl fun a ha => by cases ha⟩
  | mutexCreate _ hd =>
      cases houtcome
      exact ⟨⟨_, rfl, by rw [hd]; rfl⟩, trivial, hforeign rfl fun a ha => by cases ha⟩
  | conditionVariableCreate _ hd =>
      cases houtcome
      exact ⟨⟨_, rfl, by rw [hd]; rfl⟩, trivial, hforeign rfl fun a ha => by cases ha⟩
  | _ => cases houtcome

end

/-- The sections after a turn of an actor. -/
structure Turned (M : Monitors K) (s : Simulation K) (c c' : Sections) (p : Pid) (outcome : Outcome) :
    Prop where
  asked : ∀ q, q ≠ p → c'.asked q = c.asked q
  acquires : outcome.point.Acquires M.mutexOf (c'.asked p)
  others : ∀ q a, q ≠ p → (q, a) ∈ c'.inside → (q, a) ∈ c.inside
  inside : ∀ a, (p, a) ∈ c'.inside → M.owner s.kernel a = some p
  kept : ∀ call frame a, outcome = .call call frame → (p, a) ∈ c'.inside →
    call.lock.map M.mutexOf ≠ some a ∧ call ≠ .mutexUnlock a

section

variable {M : Monitors K} {c : Sections} {p : Pid} {socket : Socket} {segment : Segment}

theorem SectionInv.dispatched (h : SectionInv M s c)
    (hlocks : ∀ lock a, s.memory.locks.find lock = some a → M.mutexOf lock = a) (d : Decision) :
    Turned M s c
      (c.observeAll ((dispatch K s.kernel p d s.memory).out ++
        (dispatch K s.kernel p d s.memory).outcome.out p socket)) p
      (dispatch K s.kernel p d s.memory).outcome := by
  obtain ⟨segment, hswitched, heq⟩ := dispatch_eq K s.kernel p d s.memory
  rw [heq]
  have hsections : c.observeAll ((.dispatched p d :: segment.out) ++ segment.outcome.out p socket) =
      c.ask p d.type := hswitched.observeAll c p socket
  have hasked : (c.ask p d.type).asked p = some d.type := Function.update_self p _ _
  have howned := h.blocked.store.owned
  rw [hsections]
  refine ⟨fun q hne => Function.update_of_ne hne _ _, ?_, ?_, ?_, ?_⟩
  · rw [hasked]
    cases houtcome : segment.outcome with
    | call call frame =>
        obtain ⟨hacquires, hcall, -⟩ := hswitched.suspended howned hlocks houtcome
        exact ⟨hacquires, hcall⟩
    | finished ack sendAck quitReceived => cases quitReceived <;> trivial
    | waitCanConnectAck => cases hswitched <;> cases houtcome
    | _ => trivial
  · exact fun q a _ hmem => (Sections.mem_ask hmem).1
  · exact fun a hmem => h.inside p a (Sections.mem_ask hmem).1
  · intro call frame a houtcome hmem
    obtain ⟨-, -, hgivesUp⟩ := hswitched.suspended howned hlocks houtcome
    have hnot := (Sections.mem_ask hmem).2 rfl
    exact ⟨fun hlock => hnot (hgivesUp a (Or.inl hlock)), fun hcall => hnot (hgivesUp a (Or.inr hcall))⟩

/-- A turn that shows nothing to the sections. -/
theorem SectionInv.silent (h : SectionInv M s c) {outcome : Outcome}
    (hout : ∀ o ∈ out, o.silent = true)
    (hcall : ∀ call frame a, outcome = .call call frame → call.lock.map M.mutexOf ≠ some a ∧
      call ≠ .mutexUnlock a)
    (hpoint : outcome.point.Acquires M.mutexOf (c.asked p)) :
    Turned M s c (c.observeAll out) p outcome := by
  rw [Sections.observeAll_silent hout]
  exact ⟨fun _ _ => rfl, hpoint, fun _ _ _ hmem => hmem, h.inside p,
    fun call frame a houtcome _ => hcall call frame a houtcome⟩

/-- A turn that answers. What the answer gives was granted. -/
theorem SectionInv.told (h : SectionInv M s c) {before after : List SimOutput} {ack : DecisionAck}
    {sendAck quitReceived : Bool} (hbefore : ∀ o ∈ before, o.silent = true)
    (hafter : ∀ o ∈ after, o.silent = true)
    (hgranted : ∀ a type, ack.success = true → c.asked p = some type → type.acquires = some a →
      M.owner s.kernel a = some p) :
    Turned M s c (c.observeAll (before ++ .writeAck p socket ack :: after)) p
      (.finished ack sendAck quitReceived) := by
  have hsections : c.observeAll (before ++ .writeAck p socket ack :: after) = c.tell p ack := by
    rw [Sections.observeAll_append, Sections.observeAll_silent hbefore]
    show (c.tell p ack).observeAll after = _
    exact Sections.observeAll_silent hafter
  rw [hsections]
  refine ⟨fun q _ => by rw [Sections.asked_tell], ?_, ?_, ?_, ?_⟩
  · cases quitReceived <;> trivial
  · intro q a hne hmem
    exact (Sections.mem_tell hmem).resolve_right fun hp => hne hp.1
  · intro a hmem
    rcases Sections.mem_tell hmem with hmem | ⟨-, hack, type, hasked, hacquires⟩
    · exact h.inside p a hmem
    · exact hgranted a type hack hasked hacquires
  · intro call frame a houtcome
    cases houtcome

theorem Taken.silent {address : Address} {m m' : Memory} {out : List SimOutput} {data : Bytes}
    (h : Taken address m m' out data) : ∀ o ∈ out, o.silent = true := by
  cases h with
  | nothing => simp [SimOutput.silent]
  | payload => simp [SimOutput.silent]

theorem SectionInv.resumed (h : SectionInv M s c)
    (hlocks : ∀ lock a, s.memory.locks.find lock = some a → M.mutexOf lock = a) {ret : S4uReturn}
    {frame : Frame} (hpoint : s.point p = some (.returned ret frame))
    (hresumed : Resumed K s.kernel p socket frame ret s.memory segment) :
    Turned M s c (c.observeAll (segment.out ++ segment.outcome.out p socket)) p segment.outcome := by
  have hacquires : frame.AcquiresFor (c.asked p) := h.acquires p _ hpoint
  have hsilent : ∀ {outcome : Outcome}, (∀ call frame, outcome ≠ .call call frame) →
      outcome.point.Acquires M.mutexOf (c.asked p) → Turned M s c (c.observeAll []) p outcome :=
    fun hcall hpoint => h.silent (List.forall_mem_nil _)
      (fun call frame a houtcome => absurd houtcome (hcall call frame)) hpoint
  have hanswer : ∀ {out : List SimOutput} {ack : DecisionAck}, (∀ o ∈ out, o.silent = true) →
      (∀ a type, ack.success = true → c.asked p = some type → type.acquires = some a →
        M.owner s.kernel a = some p) →
      Turned M s c (c.observeAll (out ++ (Outcome.finished ack true false).out p socket)) p
        (.finished ack true false) :=
    fun hout hgranted => h.told hout (List.forall_mem_nil _) hgranted
  have hnothing : ∀ {ack : DecisionAck}, (∃ type, c.asked p = some type ∧ type.acquires = none) →
      ∀ a type, ack.success = true → c.asked p = some type → type.acquires = some a →
        M.owner s.kernel a = some p := by
    rintro ack ⟨type, hasked, hnone⟩ a type' - hasked' ha
    rw [hasked, Option.some.injEq] at hasked'
    rw [← hasked', hnone] at ha
    cases ha
  have hgiven : ∀ {ack : DecisionAck} {b : Address}, (ActorPoint.returned ret frame).granted = some b →
      (∃ type, c.asked p = some type ∧ type.acquires = some b) →
      ∀ a type, ack.success = true → c.asked p = some type → type.acquires = some a →
        M.owner s.kernel a = some p := by
    rintro ack b hgranted ⟨type, hasked, hb⟩ a type' - hasked' ha
    rw [hasked, Option.some.injEq] at hasked'
    rw [← hasked', hb, Option.some.injEq] at ha
    exact ha ▸ h.granted p _ b hpoint hgranted
  cases hresumed with
  | escaped => exact hsilent (fun _ _ hcall => by cases hcall) trivial
  | waitConnectAck => exact hsilent (fun _ _ hcall => by cases hcall) trivial
  | dispatched d => exact h.dispatched hlocks d
  | acknowledged hplain hret =>
      subst hret
      cases frame with
      | acknowledge => exact hanswer (List.forall_mem_nil _) (hnothing hacquires)
      | catchHostFailure => exact hanswer (List.forall_mem_nil _) (hnothing hacquires)
      | mutexLock mutex => exact hanswer (List.forall_mem_nil _) (hgiven rfl hacquires)
      | conditionVariableWait cv mutex lock =>
          exact hanswer (List.forall_mem_nil _) (hgiven rfl hacquires)
      | _ => cases hplain
  | hostFailure => exact hanswer (List.forall_mem_nil _) fun a type hack => by cases hack
  | actorCreated canConnectAck connectAck child hframe _ =>
      subst hframe
      have hout : ∀ o ∈ [SimOutput.push toCommand (.actorCreate child canConnectAck connectAck)],
          o.silent = true := fun o ho => by rw [List.mem_singleton.mp ho]; rfl
      exact h.silent hout (fun _ _ _ hcall => by cases hcall) hacquires
  | commWaited comm m' out data hframe _ _ htaken =>
      subst hframe
      exact hanswer htaken.silent (hnothing hacquires)
  | commWaitUndefined => exact hsilent (fun _ _ hcall => by cases hcall) trivial
  | commTimedOut comm hframe =>
      subst hframe
      exact hanswer (List.forall_mem_nil _) (hnothing hacquires)
  | commCanceled => exact hanswer (List.forall_mem_nil _) fun a type hack => by cases hack
  | commTested comm m' out data hframe _ _ htaken =>
      subst hframe
      exact hanswer htaken.silent (hnothing hacquires)
  | commTestUndefined => exact hsilent (fun _ _ hcall => by cases hcall) trivial
  | commPending comm hframe =>
      subst hframe
      exact hanswer (List.forall_mem_nil _) (hnothing hacquires)
  | commWaitedAny comms pointers index comm m' out data hframe _ _ _ htaken =>
      subst hframe
      exact hanswer htaken.silent (hnothing hacquires)
  | commWaitAnyUndefined => exact hsilent (fun _ _ hcall => by cases hcall) trivial
  | commInconsistent => exact hsilent (fun _ _ hcall => by cases hcall) trivial
  | commNoneFinished comms pointers index hframe =>
      subst hframe
      exact hanswer (List.forall_mem_nil _) (hnothing hacquires)
  | mailboxPutAsync address hframe =>
      subst hframe
      exact hanswer (List.forall_mem_nil _) (hnothing hacquires)
  | mailboxGetAsync receptionBuffer address hframe =>
      subst hframe
      exact hanswer (List.forall_mem_nil _) (hnothing hacquires)
  | existingComm => exact hsilent (fun _ _ hcall => by cases hcall) trivial
  | mailboxGet payload data hframe =>
      subst hframe
      have hbefore : ∀ o ∈ [SimOutput.copied payload], o.silent = true :=
        fun o ho => by rw [List.mem_singleton.mp ho]; rfl
      have hafter : ∀ o ∈ [SimOutput.deletedString payload], o.silent = true :=
        fun o ho => by rw [List.mem_singleton.mp ho]; rfl
      exact h.told hbefore hafter (hnothing hacquires)
  | mailboxGetUndefined => exact hsilent (fun _ _ hcall => by cases hcall) trivial
  | mutexCreate address hframe =>
      subst hframe
      exact hanswer (List.forall_mem_nil _) (hnothing hacquires)
  | mutexTryLock locked hframe =>
      subst hframe
      exact hacquires.elim
  | conditionVariableCreate address hframe =>
      subst hframe
      exact hanswer (List.forall_mem_nil _) (hnothing hacquires)
  | conditionVariableStatus cv mutex lock status data hframe hret =>
      subst hret
      rcases hframe with ⟨rfl, -⟩ | ⟨rfl, -⟩ <;>
        exact hanswer (List.forall_mem_nil _) (hgiven rfl hacquires)

theorem SectionInv.turned (h : SectionInv M s c)
    (hlocks : ∀ lock a, s.memory.locks.find lock = some a → M.mutexOf lock = a)
    (hran : Ran s event p socket segment) :
    Turned M s c (c.observeAll (segment.out ++ segment.outcome.out p socket)) p segment.outcome := by
  have hraised : ∀ {e : Error},
      Turned M s c (c.observeAll ((Outcome.raised e).out p socket)) p (.raised e) := by
    intro e
    have hout : ∀ o ∈ (Outcome.raised e).out p socket, o.silent = true :=
      fun o ho => by rw [List.mem_singleton.mp ho]; rfl
    exact h.silent hout (fun _ _ _ hcall => by cases hcall) trivial
  cases hran with
  | firstYield =>
      refine h.silent (List.forall_mem_nil _) ?_ ⟨trivial, trivial⟩
      rintro call frame a ⟨⟩
      exact ⟨(fun hlock => by cases hlock), fun hcall => by cases hcall⟩
  | resumed _ actor ret frame _ _ hfind hpoint hresumed =>
      refine h.resumed hlocks (point_eq_some.mpr ⟨actor, hfind, hpoint⟩) hresumed
  | decided _ _ d => exact h.dispatched hlocks d
  | thinking =>
      refine h.silent (List.forall_mem_nil _) ?_ ⟨trivial, trivial⟩
      rintro call frame a ⟨⟩
      exact ⟨(fun hlock => by cases hlock), fun hcall => by cases hcall⟩
  | badThinkTime => exact hraised
  | readFailed => exact hraised
  | childAccepted _ _ canConnectAck child _ hfind =>
      obtain ⟨type, hasked, hnone⟩ := h.acquires p _ (point_eq_some.mpr ⟨_, hfind, rfl⟩)
      refine h.told (List.forall_mem_nil _) (List.forall_mem_nil _) ?_
      intro a type' _ hasked' ha
      rw [hasked, Option.some.injEq] at hasked'
      rw [← hasked', hnone] at ha
      cases ha
  | badCanConnectAck => exact hraised

end

/-! ### Steps and runs -/

section

variable {mutexOf : Ptr → Address} {owner owner' : Address → Option Pid} {p q : Pid} {call : S4uCall}
  {ret : S4uReturn} {a : Address}

/-- A served call leaves a mutex to its owner, unless the owner unlocks it or it is a new one. -/
theorem MonitorStep.keeps (h : MonitorStep mutexOf owner owner' p call ret)
    (howner : owner a = some q) (hunlock : q = p → call ≠ .mutexUnlock a)
    (hcreate : call = .mutexCreate → ret ≠ .address a) : owner' a = some q := by
  have htaken : ∀ {b : Address}, owner b = none → owner' = Function.update owner b (some p) →
      owner' a = some q := by
    rintro b hfree rfl
    have hne : a ≠ b := by
      rintro rfl
      rw [howner] at hfree
      cases hfree
    rw [Function.update_of_ne hne, howner]
  have hsame : owner' = owner → owner' a = some q := fun heq => by rw [heq, howner]
  simp only [MonitorStep] at h
  split at h
  · exact htaken h.1 h.2
  · exact htaken h.1 h.2
  · exact htaken h.1 h.2
  · cases call with
    | mutexCreate =>
        cases ret with
        | address b =>
            have hne : a ≠ b := fun heq => hcreate rfl (by rw [heq])
            have hupdate : owner' = Function.update owner b none := h
            rw [hupdate, Function.update_of_ne hne, howner]
        | _ => exact hsame h
    | mutexLock b =>
        cases ret with
        | done => exact htaken h.1 h.2
        | _ => exact hsame h
    | mutexTryLock b =>
        cases ret with
        | bool locked =>
            obtain ⟨hlocked, hupdate⟩ := h
            cases locked with
            | false => exact hsame hupdate
            | true => exact htaken (Option.isNone_iff_eq_none.mp hlocked.symm) hupdate
        | _ => exact hsame h
    | mutexUnlock b =>
        cases ret with
        | done =>
            obtain ⟨hmine, hupdate⟩ := h
            have hne : a ≠ b := by
              rintro rfl
              rw [howner, Option.some.injEq] at hmine
              exact hunlock hmine rfl
            rw [hupdate, Function.update_of_ne hne, howner]
        | _ => exact hsame h
    | _ => exact hsame h

/-- What S4U grants is owned. -/
theorem MonitorStep.grants {frame : Frame} (h : MonitorStep mutexOf owner owner' p call ret)
    (hframe : frame.Locks mutexOf call) (hgranted : (ActorPoint.returned ret frame).granted = some a) :
    owner' a = some p := by
  cases frame with
  | mutexLock mutex =>
      cases ret <;> cases hgranted
      have hcall : call = .mutexLock mutex.address := hframe
      subst hcall
      have hupdate := h.2
      rw [hupdate, Function.update_self]
  | conditionVariableWait cv mutex lock =>
      cases ret <;> cases hgranted
      obtain ⟨hlock, cv', rfl⟩ := hframe
      have hupdate := h.2
      rw [hupdate, hlock, Function.update_self]
  | conditionVariableWaitUntil cv mutex lock =>
      cases ret <;> cases hgranted
      obtain ⟨hlock, cv', timeoutTime, rfl⟩ := hframe
      have hupdate := h.2
      rw [hupdate, hlock, Function.update_self]
  | conditionVariableWaitFor cv mutex lock =>
      cases ret <;> cases hgranted
      obtain ⟨hlock, cv', duration, rfl⟩ := hframe
      have hupdate := h.2
      rw [hupdate, hlock, Function.update_self]
  | _ => cases ret <;> cases hgranted

end

/-- A mutex that is granted has been looked up. -/
theorem ActorPoint.lookedUp_of_granted {point : ActorPoint} {a : Address}
    (h : point.granted = some a) : ∃ x ∈ point.lookedUp, x.handle = .mutex a := by
  cases point with
  | returned ret frame =>
      cases frame with
      | mutexLock mutex =>
          cases ret <;> cases h
          exact ⟨_, List.mem_singleton_self _, rfl⟩
      | conditionVariableWait cv mutex lock =>
          cases ret <;> cases h
          exact ⟨_, List.mem_cons_of_mem _ (List.mem_singleton_self _), rfl⟩
      | conditionVariableWaitUntil cv mutex lock =>
          cases ret <;> cases h
          exact ⟨_, List.mem_cons_of_mem _ (List.mem_singleton_self _), rfl⟩
      | conditionVariableWaitFor cv mutex lock =>
          cases ret <;> cases h
          exact ⟨_, List.mem_cons_of_mem _ (List.mem_singleton_self _), rfl⟩
      | _ => cases ret <;> cases h
  | _ => cases h

theorem Sections.mem_served {c : Sections} {p q : Pid} {call : S4uCall} {ret : S4uReturn} {a : Address}
    (h : (q, a) ∈ (c.observe (.served p call ret)).inside) :
    (q, a) ∈ c.inside ∧ (call = .mutexCreate → ret ≠ .address a) := by
  cases call with
  | mutexCreate =>
      cases ret with
      | address b =>
          obtain ⟨hmem, hne⟩ := Finset.mem_filter.mp h
          exact ⟨hmem, fun _ heq => by cases heq; exact hne rfl⟩
      | _ => exact ⟨h, fun _ heq => by cases heq⟩
  | _ => exact ⟨h, fun heq => by cases heq⟩

theorem Sections.asked_served (c : Sections) (p : Pid) (call : S4uCall) (ret : S4uReturn) :
    (c.observe (.served p call ret)).asked = c.asked := by
  cases call with
  | mutexCreate => cases ret <;> rfl
  | _ => rfl

section

variable {M : Monitors K} {c : Sections}

theorem SectionInv.ran (h : SectionInv M s c) (hblocked : BlockedInv t)
    (hlocks : ∀ lock a, s.memory.locks.find lock = some a → M.mutexOf lock = a) {p : Pid}
    {socket : Socket} {segment : Segment} (hran : Ran s event p socket segment)
    (ht : t = (({ s with ready := event.remaining s.ready }).conclude p socket segment).1) :
    SectionInv M t (c.observeAll (segment.out ++ segment.outcome.out p socket)) := by
  have hturned := h.turned hlocks hran
  have hpoint : ∀ {q point}, t.point q = some point →
      q = p ∧ point = segment.outcome.point ∨ q ≠ p ∧ s.point q = some point := by
    intro q point hq
    rw [ht, hran.points q] at hq
    split at hq
    · cases hq
      exact Or.inl ⟨‹_›, rfl⟩
    · exact Or.inr ⟨‹_›, hq⟩
  have howner : ∀ {q a}, M.owner s.kernel a = some q →
      (q = p → ∀ call frame, segment.outcome = .call call frame →
        call.lock.map M.mutexOf ≠ some a) → M.owner t.kernel a = some q := by
    intro q a ha hkept
    rw [ht]
    cases houtcome : segment.outcome with
    | call call frame =>
        simp only [Simulation.conclude, houtcome]
        exact M.issue s.kernel p call a q ha fun hq => hkept hq call frame houtcome
    | _ =>
        simp only [Simulation.conclude, houtcome]
        exact ha
  refine ⟨hblocked, ?_, ?_, ?_, ?_⟩
  · intro q point hq
    rcases hpoint hq with ⟨rfl, rfl⟩ | ⟨hne, hq⟩
    · exact hturned.acquires
    · rw [hturned.asked q hne]
      exact h.acquires q point hq
  · intro q point a hq hunlocking hmem
    rcases hpoint hq with ⟨rfl, rfl⟩ | ⟨hne, hq⟩
    · cases houtcome : segment.outcome with
      | call call frame =>
          rw [houtcome] at hunlocking
          have hcall : call = .mutexUnlock a := by
            cases call <;> cases hunlocking
            rfl
          exact (hturned.kept call frame a houtcome hmem).2 hcall
      | finished ack sendAck quitReceived =>
          rw [houtcome] at hunlocking
          cases quitReceived <;> cases hunlocking
      | _ =>
          rw [houtcome] at hunlocking
          cases hunlocking
    · exact h.unlocking q point a hq hunlocking (hturned.others q a hne hmem)
  · intro q point a hq hgranted
    rcases hpoint hq with ⟨rfl, rfl⟩ | ⟨hne, hq⟩
    · cases houtcome : segment.outcome with
      | finished ack sendAck quitReceived =>
          rw [houtcome] at hgranted
          cases quitReceived <;> cases hgranted
      | _ =>
          rw [houtcome] at hgranted
          cases hgranted
    · exact howner (h.granted q point a hq hgranted) fun heq => absurd heq hne
  · intro q a hmem
    by_cases hq : q = p
    · subst hq
      exact howner (hturned.inside a hmem)
        fun _ call frame houtcome => (hturned.kept call frame a houtcome hmem).1
    · exact howner (h.inside q a (hturned.others q a hq hmem)) fun heq => absurd heq hq

/-- A served call. The caller is no more in the section of a mutex that it unlocks; no handler waits
for a mutex at the address of a new one. -/
theorem SectionInv.served (h : SectionInv M s c) (hblocked : BlockedInv t) {p : Pid}
    {actor : ServerActor} {call : S4uCall} {frame : Frame} {ret : S4uReturn} {kernel : K.State}
    (hfresh : FreshAddress s (.serve p ret)) (hfind : s.actors.find p = some actor)
    (hcalling : actor.point = .calling call frame) (hserve : K.serve s.kernel p call ret = some kernel)
    (hkernel : t.kernel = kernel)
    (hpoint : ∀ q point, t.point q = some point →
      q = p ∧ point = .returned ret frame ∨ q ≠ p ∧ s.point q = some point ∨
        ∃ connectAck, point = .spawned connectAck) :
    SectionInv M t (c.observe (.served p call ret)) := by
  have hbefore : s.point p = some (.calling call frame) := point_eq_some.mpr ⟨actor, hfind, hcalling⟩
  have hstep := M.serve _ _ _ _ _ hserve
  rw [← hkernel] at hstep
  refine ⟨hblocked, ?_, ?_, ?_, ?_⟩
  · intro q point hq
    rw [Sections.asked_served]
    rcases hpoint q point hq with ⟨rfl, rfl⟩ | ⟨-, hq⟩ | ⟨connectAck, rfl⟩
    · exact (h.acquires q _ hbefore).1
    · exact h.acquires q point hq
    · trivial
  · intro q point a hq hunlocking hmem
    rcases hpoint q point hq with ⟨rfl, rfl⟩ | ⟨-, hq⟩ | ⟨connectAck, rfl⟩
    · cases hunlocking
    · exact h.unlocking q point a hq hunlocking (Sections.mem_served hmem).1
    · cases hunlocking
  · intro q point a hq hgranted
    rcases hpoint q point hq with ⟨rfl, rfl⟩ | ⟨hne, hq⟩ | ⟨connectAck, rfl⟩
    · exact hstep.grants (h.acquires q _ hbefore).2 hgranted
    · refine hstep.keeps (h.granted q point a hq hgranted) (fun heq => absurd heq hne) ?_
      rintro - rfl
      obtain ⟨before, hfind', rfl⟩ := point_eq_some.mp hq
      obtain ⟨x, hx, hhandle⟩ := ActorPoint.lookedUp_of_granted hgranted
      obtain ⟨e, he, -⟩ := (h.blocked.present q before hfind' x hx).entry
      have howned := (h.blocked.store.owned.entry x.handle e he).2.2.1
      rw [hhandle] at howned
      exact hfresh.2.1 howned
    · cases hgranted
  · intro q a hmem
    obtain ⟨hmem, hcreate⟩ := Sections.mem_served hmem
    refine hstep.keeps (h.inside q a hmem) ?_ hcreate
    rintro rfl rfl
    exact h.unlocking q _ a hbefore rfl hmem

theorem SectionInv.step (h : SectionInv M s c) (hfresh : FreshAddress s event)
    (hrelease : NoBlockedRelease s event) (hlocks : LocksOf M s event)
    (hstep : SimStep s event t out) : SectionInv M t (c.observeAll out) := by
  have hblocked := h.blocked.step hfresh hrelease hstep
  have hsame : ∀ {t : Simulation K} {out : List SimOutput}, BlockedInv t → t.kernel = s.kernel →
      (∀ o ∈ out, o.silent = true) →
      (∀ q point, t.point q = some point →
        s.point q = some point ∨ point = .reading ∨ point = .terminated) →
      SectionInv M t (c.observeAll out) := by
    intro t out hblocked hkernel hout hpoint
    rw [Sections.observeAll_silent hout]
    refine ⟨hblocked, ?_, ?_, ?_, fun p a hmem => by rw [hkernel]; exact h.inside p a hmem⟩
    · intro q point hq
      rcases hpoint q point hq with hq | rfl | rfl
      · exact h.acquires q point hq
      · trivial
      · trivial
    · intro q point a hq hunlocking
      rcases hpoint q point hq with hq | rfl | rfl
      · exact h.unlocking q point a hq hunlocking
      · cases hunlocking
      · cases hunlocking
    · intro q point a hq hgranted
      rw [hkernel]
      rcases hpoint q point hq with hq | rfl | rfl
      · exact h.granted q point a hq hgranted
      · cases hgranted
      · cases hgranted
  cases hstep with
  | ran _ p socket segment hran => exact h.ran hblocked hlocks hran rfl
  | served p actor call frame ret kernel _ _ hfind hpoint hserve hserved =>
      refine h.served hblocked hfresh hfind hpoint hserve ?_ ?_
      · rcases serve_cases hserved with rfl | ⟨_, _, _, _, _, _, _, rfl⟩ <;> rfl
      · intro q point hq
        obtain ⟨actor', hfind', rfl⟩ := point_eq_some.mp hq
        rcases serve_find hserved hfind hfind' with hret | ⟨hne, hs | ⟨-, hspawned⟩⟩
        · exact Or.inl hret
        · exact Or.inr (Or.inl ⟨hne, point_eq_some.mpr ⟨actor', hs, rfl⟩⟩)
        · exact Or.inr (Or.inr hspawned)
  | started p =>
      refine hsame hblocked rfl (List.forall_mem_nil _) fun q point hq => ?_
      have hq : (({ s with ready := s.ready.erase p }).setPoint p .reading).point q = some point := hq
      rw [point_setPoint] at hq
      split at hq
      · obtain ⟨_, -, rfl⟩ := Option.map_eq_some_iff.mp hq
        exact Or.inr (Or.inl rfl)
      · exact Or.inl hq
  | progressed _ kernel writes _ hprogress =>
      have hkernel := M.progress _ _ _ _ hprogress
      have hout : ∀ o ∈ writes.map (fun write => SimOutput.transferred write.1 write.2),
          o.silent = true := by
        intro o ho
        obtain ⟨write, -, rfl⟩ := List.mem_map.mp ho
        rfl
      rw [Sections.observeAll_silent hout]
      refine ⟨hblocked, h.acquires, h.unlocking, ?_, ?_⟩
      · intro q point a hq hgranted
        show M.owner kernel a = some q
        rw [hkernel]
        exact h.granted q point a hq hgranted
      · intro q a hmem
        show M.owner kernel a = some q
        rw [hkernel]
        exact h.inside q a hmem
  | progressFailed =>
      exact hsame hblocked rfl (List.forall_mem_nil _) fun q point hq => Or.inl hq
  | round => exact hsame hblocked rfl (List.forall_mem_nil _) fun q point hq => Or.inl hq
  | connected p socket connectAck socket' =>
      refine hsame hblocked rfl (List.forall_mem_nil _) fun q point hq => ?_
      obtain ⟨actor, hfind, rfl⟩ := point_eq_some.mp hq
      simp only [UnorderedMap.find_modify] at hfind
      split at hfind
      · obtain ⟨_, -, rfl⟩ := Option.map_eq_some_iff.mp hfind
        exact Or.inr (Or.inl rfl)
      · exact Or.inl (point_eq_some.mpr ⟨actor, hfind, rfl⟩)
  | connectFailed p =>
      refine hsame hblocked rfl (List.forall_mem_nil _) fun q point hq => ?_
      have hq : (s.setPoint p .terminated).point q = some point := hq
      rw [point_setPoint] at hq
      split at hq
      · obtain ⟨_, -, rfl⟩ := Option.map_eq_some_iff.mp hq
        exact Or.inr (Or.inr rfl)
      · exact Or.inl hq

theorem SectionInv.spawn (M : Monitors K) (connections : List ActorConnection) :
    SectionInv M (Simulation.spawn K connections) {} := by
  have hpoint : ∀ p point, (Simulation.spawn K connections).point p = some point →
      point = .spawned none := by
    intro p point hp
    obtain ⟨actor, hfind, rfl⟩ := point_eq_some.mp hp
    exact find_spawn hfind
  refine ⟨BlockedInv.spawn connections, ?_, ?_, ?_, ?_⟩
  · intro p point hp
    rw [hpoint p point hp]
    trivial
  · intro p point a hp hunlocking
    rw [hpoint p point hp] at hunlocking
    cases hunlocking
  · intro p point a hp hgranted
    rw [hpoint p point hp] at hgranted
    cases hgranted
  · exact fun p a hmem => absurd hmem (Finset.notMem_empty _)

theorem sectionInv_run {connections : List ActorConnection} {events : List (SimEvent K)}
    {trace : List SimOutput}
    (hrun : Run (simulationStep K) (Simulation.spawn K connections) events s trace)
    (hassumed : Throughout (simulationStep K)
      (fun s event => FreshAddress s event ∧ NoBlockedRelease s event ∧ LocksOf M s event)
      (Simulation.spawn K connections) events) :
    SectionInv M s (({} : Sections).observeAll trace) :=
  hrun.guarded_invariant (P := fun _ s trace => SectionInv M s (({} : Sections).observeAll trace))
    hassumed (SectionInv.spawn M connections)
    (fun _ hinv hevent hstep => by
      rw [Sections.observeAll_append]
      exact hinv.step hevent.1 hevent.2.1 hevent.2.2 (simulationStep_cases hstep).2)

end

/-- At any time at most one client is in a critical section of a mutex, whatever the clients lock,
try to lock, unlock, wait for and notify, and in whatever order SimGrid runs their actors. -/
theorem critical_sections_exclusive (M : Monitors K) {connections : List ActorConnection}
    {events : List (SimEvent K)} {trace : List SimOutput}
    (hrun : Run (simulationStep K) (Simulation.spawn K connections) events s trace)
    (hfresh : Throughout (simulationStep K) FreshAddress (Simulation.spawn K connections) events)
    (hrelease : Throughout (simulationStep K) NoBlockedRelease (Simulation.spawn K connections) events)
    (hlocks : Throughout (simulationStep K) (LocksOf M) (Simulation.spawn K connections) events)
    {p q : Pid} {a : Address} (hp : InSection trace p a) (hq : InSection trace q a) : p = q := by
  have hinv := sectionInv_run (M := M) hrun
    fun before event after t trace heq hbefore =>
      ⟨hfresh before event after t trace heq hbefore, hrelease before event after t trace heq hbefore,
        hlocks before event after t trace heq hbefore⟩
  have howner := hinv.inside p a hp
  rw [hinv.inside q a hq, Option.some.injEq] at howner
  exact howner.symm

/-- The mutexes of `mutexS4u`, with condition variables all of which are used with the mutex at 100. -/
def monitorS4u : S4u :=
  { mutexS4u with
    issue := fun owner p call =>
      if call.lock.isSome ∧ owner 100 = some p then Function.update owner 100 none else owner
    serve := fun owner p call ret =>
      match call, ret with
      | .conditionVariableWait _ _, .done | .conditionVariableWaitUntil _ _ _, .cvStatus _
      | .conditionVariableWaitFor _ _ _, .cvStatus _ =>
          if owner 100 = none then some (Function.update owner 100 (some p)) else none
      | call, ret => mutexS4u.serve owner p call ret }

theorem monitorS4u_serve {owner owner' : monitorS4u.State} {p : Pid} {call : S4uCall}
    {ret : S4uReturn} (h : monitorS4u.serve owner p call ret = some owner') :
    MonitorStep (fun _ => 100) owner owner' p call ret := by
  have hwait : ∀ {x : Option (Address → Option Pid)},
      x = (if owner 100 = none then some (Function.update owner 100 (some p)) else none) →
      x = some owner' → owner 100 = none ∧ owner' = Function.update owner 100 (some p) := by
    rintro x rfl hx
    split at hx
    · rename_i hfree
      cases hx
      exact ⟨hfree, rfl⟩
    · cases hx
  simp only [monitorS4u] at h
  split at h
  · exact hwait rfl h
  · exact hwait rfl h
  · exact hwait rfl h
  · simp only [MonitorStep]
    exact mutexS4u_serve h

def monitors : Monitors monitorS4u where
  owner := id
  mutexOf _ := 100
  issue k p call a q howner hkept := by
    by_cases hlock : call.lock.isSome ∧ k 100 = some p
    · have hne : a ≠ 100 := by
        rintro rfl
        have hq : q = p := Option.some.inj ((show k 100 = some q from howner).symm.trans hlock.2)
        obtain ⟨lock, hsome⟩ := Option.isSome_iff_exists.mp hlock.1
        exact hkept hq (by rw [hsome]; rfl)
      have hissue : monitorS4u.issue k p call = Function.update k 100 none := if_pos hlock
      rw [hissue]
      exact (Function.update_of_ne hne _ _).trans howner
    · have hissue : monitorS4u.issue k p call = k := if_neg hlock
      rw [hissue]
      exact howner
  progress _ event := event.elim
  serve _ _ _ _ _ h := monitorS4u_serve h

def monitorServer : Simulation monitorS4u :=
  Simulation.spawn monitorS4u
    [{ actorId := 2, socket := some 10 }, { actorId := 3, socket := some 11 }]

/-- A client waits on a condition variable with the mutex it holds; another one locks the mutex,
notifies and unlocks; the wait returns. -/
def monitorEvents : List (SimEvent monitorS4u) :=
  [.schedule 2, .decision { type := .mutexCreate true }, .serve 2 (.address 100), .schedule 2,
    .decision { type := .conditionVariableCreate true }, .serve 2 (.address 200), .schedule 2,
    .decision { type := .mutexLock { address := 100 } }, .serve 2 .done, .schedule 2,
    .decision
      { type := .conditionVariableWait
          { conditionVariable := { address := 200 }, mutex := { address := 100 } } },
    .schedule 3, .decision { type := .mutexLock { address := 100 } }, .serve 3 .done, .schedule 3,
    .decision { type := .conditionVariableNotifyOne { address := 200 } }, .serve 3 .done, .schedule 3,
    .decision { type := .mutexUnlock { address := 100 } }, .serve 3 .done, .serve 2 .done,
    .schedule 2]

def checkLocks (s : Simulation monitorS4u) (_ : SimEvent monitorS4u) : Prop :=
  ∀ a ∈ s.memory.locks.values, a = 100

instance (s : Simulation monitorS4u) (event : SimEvent monitorS4u) : Decidable (checkLocks s event) :=
  inferInstanceAs (Decidable (∀ a ∈ s.memory.locks.values, a = 100))

theorem locksOf_of_check {s : Simulation monitorS4u} {event : SimEvent monitorS4u}
    (h : checkLocks s event) : LocksOf monitors s event :=
  fun lock a hfind => (h a (UnorderedMap.mem_values.mpr ⟨lock, hfind⟩)).symm

theorem critical_sections_exclusive_wait :
    ∃ s trace, Run (simulationStep monitorS4u) monitorServer monitorEvents s trace ∧
      InSection trace 2 100 ∧ ∀ q, InSection trace q 100 → 2 = q := by
  obtain ⟨s, trace, hexec, hinside⟩ : ∃ s trace,
      exec (simulationStep monitorS4u) monitorServer monitorEvents = some (s, trace) ∧
      decide (InSection trace 2 100) = true := ⟨_, _, rfl, rfl⟩
  have hinside := of_decide_eq_true hinside
  have hrelease : Throughout (simulationStep monitorS4u) checkNoRelease monitorServer monitorEvents :=
    Throughout.of_check rfl
  have hlocks : Throughout (simulationStep monitorS4u) checkLocks monitorServer monitorEvents :=
    Throughout.of_check rfl
  exact ⟨s, trace, Run.of_exec hexec, hinside, fun q hq =>
    critical_sections_exclusive monitors (Run.of_exec hexec) (Throughout.of_check rfl)
      (fun before event after t trace heq hbefore =>
        noBlockedRelease_of_check (hrelease before event after t trace heq hbefore))
      (fun before event after t trace heq hbefore =>
        locksOf_of_check (hlocks before event after t trace heq hbefore)) hinside hq⟩

end RemoteSimgrid
