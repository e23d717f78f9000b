import RemoteSimgrid.SimulationSteps

/-! The ownership invariant of the `RefcountStore`: every entry is stored under the address of its
object, holds a reference on it and, for a mutex, its own `unique_lock`. It needs that SimGrid never
gives a new object an address that is still in use. -/

namespace RemoteSimgrid

open Machine Pb

variable {K : S4u} {s t : Simulation K} {event : SimEvent K} {out : List SimOutput}

/-- SimGrid gives a new object an address that is not null and at which no object lives: no
reference is held there, neither by the server nor by a handle on the stack of an actor. -/
def FreshAddress (s : Simulation K) : SimEvent K → Prop
  | .serve _ (.address a) =>
      a ≠ 0 ∧ a ∉ s.memory.references ∧ ∀ actor ∈ s.actors.values, a ∉ actor.point.handles
  | _ => True

instance (s : Simulation K) (event : SimEvent K) : Decidable (FreshAddress s event) := by
  cases event with
  | serve p ret => cases ret <;> simp only [FreshAddress] <;> infer_instance
  | schedule p => exact isTrue trivial
  | progress e => exact isTrue trivial
  | round => exact isTrue trivial
  | decision d => exact isTrue trivial
  | readError e => exact isTrue trivial
  | canConnectAck msg => exact isTrue trivial
  | connectAck msg => exact isTrue trivial

/-! ### What a segment does to the store -/

/-- A decision is dispatched by a step, at once or after its thinking time. -/
inductive Dispatches (s : Simulation K) : SimEvent K → Pid → Decision → Prop
  | now (p : Pid) (socket : Socket) (d : Decision) : s.current = some p →
      s.actors.find p = some ⟨socket, .reading⟩ → d.thinkTime = 0 → Dispatches s (.decision d) p d
  | later (p : Pid) (actor : ServerActor) (d : Decision) : s.current = none →
      s.actors.find p = some actor → actor.point = .returned .done (.thinkTime d) →
      Dispatches s (.schedule p) p d

/-- The decision that a step dispatches, if it dispatches one. -/
def dispatching (s : Simulation K) : SimEvent K → Option (Pid × Decision)
  | .decision d =>
      match s.current with
      | some p =>
          match s.actors.find p with
          | some { socket := _, point := .reading } => if d.thinkTime = 0 then some (p, d) else none
          | _ => none
      | none => none
  | .schedule p =>
      if s.current = none then
        match s.actors.find p with
        | some { socket := _, point := .returned .done (.thinkTime d) } => some (p, d)
        | _ => none
      else none
  | _ => none

theorem Dispatches.eq_dispatching {p : Pid} {d : Decision} (h : Dispatches s event p d) :
    dispatching s event = some (p, d) := by
  cases h with
  | now _ socket _ hcurrent hfind hthink =>
      simp only [dispatching, hcurrent, hfind, hthink, if_true]
  | later _ actor _ hcurrent hfind hpoint =>
      obtain ⟨socket, point⟩ := actor
      cases hpoint
      simp only [dispatching, hcurrent, hfind, if_true]

theorem dispatches_of_dispatching {p : Pid} {d : Decision} (h : dispatching s event = some (p, d)) :
    Dispatches s event p d := by
  unfold dispatching at h
  split at h
  · split at h
    · rename_i hcurrent
      split at h
      · rename_i socket hfind
        split at h
        · rename_i hthink
          cases h
          exact .now _ socket _ hcurrent hfind hthink
        · cases h
      · cases h
    · cases h
  · split at h
    · rename_i hcurrent
      split at h
      · rename_i hfind
        cases h
        exact .later _ _ _ hcurrent hfind rfl
      · cases h
    · cases h
  · cases h

/-- An object that S4U has created is stored by the actor that asked for it. -/
inductive Created (s : Simulation K) (p : Pid) (address : Address) : Frame → Prop
  | intro (actor : ServerActor) (frame : Frame) : s.current = none →
      s.actors.find p = some actor → actor.point = .returned (.address address) frame →
      Created s p address frame

/-- The changes that a segment can make to the store, the references and the locks. -/
inductive Change (s : Simulation K) (event : SimEvent K) (p : Pid) : Memory → Prop
  | same (m : Memory) : m.store = s.memory.store → m.references = s.memory.references →
      m.locks = s.memory.locks → s.memory.next ≤ m.next → Change s event p m
  | freed (d : Decision) (h : Handle) (entry : Entry) : Dispatches s event p d →
      d.type.released = some h → s.memory.entry h = some entry → entry.remoteRefCount = 1 →
      Change s event p (s.memory.free h)
  | decreased (d : Decision) (h : Handle) (entry : Entry) : Dispatches s event p d →
      d.type.released = some h → s.memory.entry h = some entry → entry.remoteRefCount ≠ 1 →
      Change s event p (s.memory.decrease h)
  | taken (address : Address) (buffer payload : Ptr) :
      Change s event p (s.memory.takePayload address buffer payload)
  | insertedComm (address : Address) (comm : StoredComm) (frame : Frame) :
      Created s p address frame → comm.comm = address → comm.node = s.memory.next →
      comm.remoteRefCount = 1 → s.memory.store.comms.find address = none →
      Change s event p ((s.memory.intrusivePtrAddRef address).insertComm comm)
  | insertedMutex (address : Address) (frame : Frame) : Created s p address frame →
      Change s event p ((s.memory.intrusivePtrAddRef address).insertMutex
        { mutex := address, lock := s.memory.next + 1, node := s.memory.next })
  | insertedConditionVariable (address : Address) (frame : Frame) : Created s p address frame →
      Change s event p ((s.memory.intrusivePtrAddRef address).insertConditionVariable
        { conditionVariable := address, node := s.memory.next })

theorem Switched.change {p : Pid} {d : Decision} {segment : Segment} (hd : Dispatches s event p d)
    (h : Switched d s.memory segment) : Change s event p segment.memory := by
  cases h with
  | freed handle entry hreleased hentry hone => exact .freed d handle entry hd hreleased hentry hone
  | decreased handle entry hreleased hentry hne =>
      exact .decreased d handle entry hd hreleased hentry hne
  | actorCreate create _ => exact .same _ rfl rfl rfl (Nat.le_add_right _ _)
  | mailboxPut put _ => exact .same _ rfl rfl rfl (Nat.le_succ _)
  | mailboxPutAsync put _ => exact .same _ rfl rfl rfl (Nat.le_succ _)
  | mailboxGetAsync mbox _ => exact .same _ rfl rfl rfl (Nat.le_succ _)
  | quit => exact .same _ rfl rfl rfl le_rfl
  | plainAnswered => exact .same _ rfl rfl rfl le_rfl
  | plainCalled => exact .same _ rfl rfl rfl le_rfl
  | unset => exact .same _ rfl rfl rfl le_rfl
  | unknownHost => exact .same _ rfl rfl rfl le_rfl
  | failed => exact .same _ rfl rfl rfl le_rfl
  | commWaitFor => exact .same _ rfl rfl rfl le_rfl
  | commCancel => exact .same _ rfl rfl rfl le_rfl
  | commTest => exact .same _ rfl rfl rfl le_rfl
  | commWaitAnyFor => exact .same _ rfl rfl rfl le_rfl
  | unknownComm => exact .same _ rfl rfl rfl le_rfl
  | mailboxGet => exact .same _ rfl rfl rfl le_rfl
  | mutexCreate => exact .same _ rfl rfl rfl le_rfl
  | mutexLock => exact .same _ rfl rfl rfl le_rfl
  | mutexUnlock => exact .same _ rfl rfl rfl le_rfl
  | mutexTryLock => exact .same _ rfl rfl rfl le_rfl
  | mutexTryLockFailed => exact .same _ rfl rfl rfl le_rfl
  | conditionVariableCreate => exact .same _ rfl rfl rfl le_rfl
  | lockWaited => exact .same _ rfl rfl rfl le_rfl
  | notified => exact .same _ rfl rfl rfl le_rfl

theorem Taken.change {p : Pid} {address : Address} {m : Memory} {out : List SimOutput} {data : Bytes}
    (h : Taken address s.memory m out data) : Change s event p m := by
  cases h with
  | nothing => exact .same _ rfl rfl rfl le_rfl
  | payload _ buffer payload => exact .taken address buffer payload

theorem dispatch_change {p : Pid} {d : Decision} (hd : Dispatches s event p d) :
    Change s event p (dispatch K s.kernel p d s.memory).memory := by
  obtain ⟨segment, hswitched, heq⟩ := dispatch_eq K s.kernel p d s.memory
  have hchange : Change s event p segment.memory := hswitched.change hd
  rw [heq]
  exact hchange

theorem Resumed.change {p : Pid} {actor : ServerActor} {ret : S4uReturn} {frame : Frame}
    {segment : Segment} (hcurrent : s.current = none) (hfind : s.actors.find p = some actor)
    (hpoint : actor.point = .returned ret frame)
    (h : Resumed K s.kernel p actor.socket frame ret s.memory segment) :
    Change s (.schedule p) p segment.memory := by
  cases h with
  | dispatched d hframe hret =>
      subst hframe hret
      exact dispatch_change (.later p actor d hcurrent hfind hpoint)
  | commWaited comm m' out data _ _ _ htaken => exact htaken.change
  | commTested comm m' out data _ _ _ htaken => exact htaken.change
  | commWaitedAny comms pointers index comm m' out data _ _ _ _ htaken => exact htaken.change
  | mailboxPutAsync address _ hret hnone =>
      subst hret
      exact .insertedComm address _ frame (.intro actor frame hcurrent hfind hpoint) rfl rfl rfl hnone
  | mailboxGetAsync receptionBuffer address _ hret hnone =>
      subst hret
      exact .insertedComm address _ frame (.intro actor frame hcurrent hfind hpoint) rfl rfl rfl hnone
  | mutexCreate address _ hret =>
      subst hret
      exact .insertedMutex address frame (.intro actor frame hcurrent hfind hpoint)
  | conditionVariableCreate address _ hret =>
      subst hret
      exact .insertedConditionVariable address frame (.intro actor frame hcurrent hfind hpoint)
  | mailboxGet => exact .same _ rfl rfl rfl le_rfl
  | escaped => exact .same _ rfl rfl rfl le_rfl
  | waitConnectAck => exact .same _ rfl rfl rfl le_rfl
  | acknowledged => exact .same _ rfl rfl rfl le_rfl
  | hostFailure => exact .same _ rfl rfl rfl le_rfl
  | actorCreated => exact .same _ rfl rfl rfl le_rfl
  | commWaitUndefined => exact .same _ rfl rfl rfl le_rfl
  | commTimedOut => exact .same _ rfl rfl rfl le_rfl
  | commCanceled => exact .same _ rfl rfl rfl le_rfl
  | commTestUndefined => exact .same _ rfl rfl rfl le_rfl
  | commPending => exact .same _ rfl rfl rfl le_rfl
  | commWaitAnyUndefined => exact .same _ rfl rfl rfl le_rfl
  | commInconsistent => exact .same _ rfl rfl rfl le_rfl
  | commNoneFinished => exact .same _ rfl rfl rfl le_rfl
  | existingComm => exact .same _ rfl rfl rfl le_rfl
  | mailboxGetUndefined => exact .same _ rfl rfl rfl le_rfl
  | mutexTryLock => exact .same _ rfl rfl rfl le_rfl
  | conditionVariableStatus => exact .same _ rfl rfl rfl le_rfl

theorem Ran.change {p : Pid} {socket : Socket} {segment : Segment}
    (h : Ran s event p socket segment) : Change s event p segment.memory := by
  cases h with
  | resumed _ actor ret frame _ hcurrent hfind hpoint hresumed =>
      exact hresumed.change hcurrent hfind hpoint
  | decided _ socket d hcurrent hfind hthink =>
      exact dispatch_change (.now p socket d hcurrent hfind hthink)
  | firstYield => exact .same _ rfl rfl rfl le_rfl
  | thinking => exact .same _ rfl rfl rfl le_rfl
  | badThinkTime => exact .same _ rfl rfl rfl le_rfl
  | readFailed => exact .same _ rfl rfl rfl le_rfl
  | childAccepted => exact .same _ rfl rfl rfl le_rfl
  | badCanConnectAck => exact .same _ rfl rfl rfl le_rfl

/-- A decision that is dispatched is handled in that step. -/
theorem simulationStep_dispatch {p : Pid} {d : Decision} (hcrashed : s.crashed = false)
    (h : Dispatches s event p d) :
    ∃ actor, s.actors.find p = some actor ∧ simulationStep K s event =
      some (({ s with ready := event.remaining s.ready }).conclude p actor.socket
        (dispatch K s.kernel p d s.memory)) := by
  cases h with
  | now _ socket _ hcurrent hfind hthink =>
      refine ⟨_, hfind, ?_⟩
      simp only [simulationStep, hcrashed, hcurrent, hfind, handleDecision, hthink, lt_irrefl]
      rfl
  | later _ actor _ hcurrent hfind hpoint =>
      refine ⟨actor, hfind, ?_⟩
      simp only [simulationStep, hcrashed, hcurrent, hfind, hpoint, resume]
      rfl

theorem released_of_plain {type : DecisionType} (h : type.plain) : type.released = none := by
  cases type <;> first | rfl | cases h

theorem released_of_lockWait {type : DecisionType} {x : Address × Address}
    (h : type.lockWait = some x) : type.released = none := by
  cases type <;> first | rfl | cases h

theorem handles_of_released {type : DecisionType} {h : Handle} (hreleased : type.released = some h) :
    type.handles = [h] := by
  cases type <;> first | cases hreleased; rfl | cases hreleased

/-- The handler of a `RefcountDecrease` that is the last one. -/
theorem Switched.eq_free {d : Decision} {m : Memory} {segment : Segment} (h : Switched d m segment)
    {handle : Handle} {e : Entry} (hreleased : d.type.released = some handle)
    (he : m.entry handle = some e) (hone : e.remoteRefCount = 1) :
    segment = .success (m.free handle) := by
  have hnone : d.type.released ≠ none := by rw [hreleased]; nofun
  cases h with
  | freed handle' e' hreleased' _ _ =>
      rw [hreleased, Option.some.injEq] at hreleased'
      rw [hreleased']
  | decreased handle' e' hreleased' he' hne =>
      rw [hreleased, Option.some.injEq] at hreleased'
      rw [← hreleased', he, Option.some.injEq] at he'
      exact absurd (he' ▸ hone) hne
  | failed handle' hmem hmissing =>
      rw [handles_of_released hreleased, List.mem_singleton] at hmem
      rw [hmem, he] at hmissing
      cases hmissing
  | plainAnswered _ hplain _ => exact absurd (released_of_plain hplain) hnone
  | plainCalled _ _ hplain _ _ => exact absurd (released_of_plain hplain) hnone
  | lockWaited c x cv mutex call frame hwait _ _ _ => exact absurd (released_of_lockWait hwait) hnone
  | notified c cv call hd _ =>
      rcases hd with ⟨hd, -⟩ | ⟨hd, -⟩ <;> rw [hd] at hnone <;> exact absurd rfl hnone
  | quit _ hd => rw [hd] at hnone; exact absurd rfl hnone
  | unset hd => rw [hd] at hnone; exact absurd rfl hnone
  | unknownHost _ hd => rw [hd] at hnone; exact absurd rfl hnone
  | actorCreate _ hd => rw [hd] at hnone; exact absurd rfl hnone
  | commWaitFor _ _ hd _ => rw [hd] at hnone; exact absurd rfl hnone
  | commCancel _ _ hd _ => rw [hd] at hnone; exact absurd rfl hnone
  | commTest _ _ hd _ => rw [hd] at hnone; exact absurd rfl hnone
  | commWaitAnyFor _ _ hd _ => rw [hd] at hnone; exact absurd rfl hnone
  | unknownComm _ _ hd _ => rw [hd] at hnone; exact absurd rfl hnone
  | mailboxPut _ hd => rw [hd] at hnone; exact absurd rfl hnone
  | mailboxPutAsync _ hd => rw [hd] at hnone; exact absurd rfl hnone
  | mailboxGet _ hd => rw [hd] at hnone; exact absurd rfl hnone
  | mailboxGetAsync _ hd => rw [hd] at hnone; exact absurd rfl hnone
  | mutexCreate _ hd => rw [hd] at hnone; exact absurd rfl hnone
  | mutexLock _ _ hd _ => rw [hd] at hnone; exact absurd rfl hnone
  | mutexUnlock _ _ hd _ => rw [hd] at hnone; exact absurd rfl hnone
  | mutexTryLock _ _ hd _ => rw [hd] at hnone; exact absurd rfl hnone
  | mutexTryLockFailed _ hd _ => rw [hd] at hnone; exact absurd rfl hnone
  | conditionVariableCreate _ hd => rw [hd] at hnone; exact absurd rfl hnone

/-! ### The entries after a change -/

namespace Memory

variable (m : Memory)

theorem entry_free (h h' : Handle) :
    (m.free h).entry h' = if h' = h then none else m.entry h' := by
  cases h with
  | comm a =>
      cases hfind : m.store.comms.find a with
      | none =>
          have hfree : m.free (.comm a) = m := by simp only [free, hfind]
          rw [hfree]
          split
          · rename_i heq
            rw [heq, entry, hfind, Option.map_none]
          · rfl
      | some comm =>
          cases h' <;> simp [free, hfind, entry, UnorderedMap.find_erase, intrusivePtrRelease]
          split <;> simp
  | mutex a =>
      cases hfind : m.store.mutexes.find a with
      | none =>
          have hfree : m.free (.mutex a) = m := by simp only [free, hfind]
          rw [hfree]
          split
          · rename_i heq
            rw [heq, entry, hfind, Option.map_none]
          · rfl
      | some mutex =>
          cases h' <;> simp [free, hfind, entry, UnorderedMap.find_erase, intrusivePtrRelease]
          split <;> simp
  | conditionVariable a =>
      cases hfind : m.store.conditionVariables.find a with
      | none =>
          have hfree : m.free (.conditionVariable a) = m := by simp only [free, hfind]
          rw [hfree]
          split
          · rename_i heq
            rw [heq, entry, hfind, Option.map_none]
          · rfl
      | some cv =>
          cases h' <;> simp [free, hfind, entry, UnorderedMap.find_erase, intrusivePtrRelease]
          split <;> simp

theorem references_free {h : Handle} {e : Entry} (he : m.entry h = some e) :
    (m.free h).references = m.references.erase e.object := by
  cases h with
  | comm a =>
      obtain ⟨comm, hfind, rfl⟩ := Option.map_eq_some_iff.mp he
      simp only [free, hfind, intrusivePtrRelease, StoredComm.entry]
  | mutex a =>
      obtain ⟨mutex, hfind, rfl⟩ := Option.map_eq_some_iff.mp he
      simp only [free, hfind, intrusivePtrRelease, StoredMutex.entry]
  | conditionVariable a =>
      obtain ⟨cv, hfind, rfl⟩ := Option.map_eq_some_iff.mp he
      simp only [free, hfind, intrusivePtrRelease, StoredConditionVariable.entry]

theorem next_free (h : Handle) : (m.free h).next = m.next := by
  cases h with
  | comm a => cases hfind : m.store.comms.find a <;> simp [free, hfind, intrusivePtrRelease]
  | mutex a => cases hfind : m.store.mutexes.find a <;> simp [free, hfind, intrusivePtrRelease]
  | conditionVariable a =>
      cases hfind : m.store.conditionVariables.find a <;> simp [free, hfind, intrusivePtrRelease]

theorem entry_takePayload (address : Address) (buffer payload : Ptr) (h : Handle) :
    (m.takePayload address buffer payload).entry h = m.entry h := by
  cases h with
  | comm a =>
      simp only [entry, takePayload, UnorderedMap.find_modify]
      split
      · rename_i heq
        rw [heq, Option.map_map]
        rfl
      · rfl
  | mutex a => rfl
  | conditionVariable a => rfl

theorem entry_insertComm (comm : StoredComm) (hnone : m.store.comms.find comm.comm = none)
    (h : Handle) :
    ((m.intrusivePtrAddRef comm.comm).insertComm comm).entry h =
      if h = .comm comm.comm then some comm.entry else m.entry h := by
  cases h with
  | comm a =>
      simp only [entry, insertComm, intrusivePtrAddRef, UnorderedMap.find_insert, hnone, and_true,
        Handle.comm.injEq]
      split <;> rfl
  | mutex a => rfl
  | conditionVariable a => rfl

theorem entry_insertMutex (mutex : StoredMutex) (hnone : m.store.mutexes.find mutex.mutex = none)
    (h : Handle) :
    ((m.intrusivePtrAddRef mutex.mutex).insertMutex mutex).entry h =
      if h = .mutex mutex.mutex then some mutex.entry else m.entry h := by
  cases h with
  | comm a => rfl
  | mutex a =>
      simp only [entry, insertMutex, intrusivePtrAddRef, UnorderedMap.find_insert, hnone, and_true,
        Handle.mutex.injEq]
      split <;> rfl
  | conditionVariable a => rfl

theorem entry_insertConditionVariable (cv : StoredConditionVariable)
    (hnone : m.store.conditionVariables.find cv.conditionVariable = none) (h : Handle) :
    ((m.intrusivePtrAddRef cv.conditionVariable).insertConditionVariable cv).entry h =
      if h = .conditionVariable cv.conditionVariable then some cv.entry else m.entry h := by
  cases h with
  | comm a => rfl
  | mutex a => rfl
  | conditionVariable a =>
      simp only [entry, insertConditionVariable, intrusivePtrAddRef, UnorderedMap.find_insert, hnone,
        and_true, Handle.conditionVariable.injEq]
      split <;> rfl

end Memory

theorem entry_eq_of_store {m m' : Memory} (hstore : m'.store = m.store) (h : Handle) :
    m'.entry h = m.entry h := by
  cases h <;> simp only [Memory.entry, hstore]

/-! ### The invariant -/

/-- Every entry owns its object: it is stored under the address of the object and holds a reference
on it; no two entries share an object or a node. The lock of a mutex lives as long as its entry. -/
structure Owned (m : Memory) : Prop where
  entry : ∀ h e, m.entry h = some e →
    e.object = h.address ∧ h.address ≠ 0 ∧ h.address ∈ m.references ∧ e.remoteRefCount = 1 ∧
      e.node < m.next
  unique : ∀ h h' e e', m.entry h = some e → m.entry h' = some e' →
    h.address = h'.address ∨ e.node = e'.node → h = h'
  lock : ∀ a mutex, m.store.mutexes.find a = some mutex →
    mutex.lock = mutex.node + 1 ∧ mutex.lock < m.next ∧ m.locks.find mutex.lock = some a
  locks : ∀ lock, m.locks.find lock ≠ none → lock < m.next

/-- The objects that S4U has created and that are not stored yet. -/
structure Unstored (s : Simulation K) : Prop where
  fresh : ∀ p actor frame a, s.actors.find p = some actor →
    actor.point = .returned (.address a) frame → a ≠ 0 ∧ a ∉ s.memory.references
  distinct : ∀ p q actor actor' frame frame' a, s.actors.find p = some actor →
    s.actors.find q = some actor' → actor.point = .returned (.address a) frame →
    actor'.point = .returned (.address a) frame' → p = q

theorem Owned.same {m m' : Memory} (h : Owned m) (hstore : m'.store = m.store)
    (hreferences : m'.references = m.references) (hlocks : m'.locks = m.locks)
    (hnext : m.next ≤ m'.next) : Owned m' where
  entry handle e he := by
    rw [entry_eq_of_store hstore] at he
    obtain ⟨hobject, hne, hmem, hcount, hnode⟩ := h.entry handle e he
    exact ⟨hobject, hne, hreferences ▸ hmem, hcount, lt_of_lt_of_le hnode hnext⟩
  unique handle handle' e e' he he' hor := by
    rw [entry_eq_of_store hstore] at he he'
    exact h.unique handle handle' e e' he he' hor
  lock a mutex hfind := by
    rw [hstore] at hfind
    obtain ⟨hlock, hlt, hlocked⟩ := h.lock a mutex hfind
    exact ⟨hlock, lt_of_lt_of_le hlt hnext, hlocks ▸ hlocked⟩
  locks lock hlock := lt_of_lt_of_le (h.locks lock (hlocks ▸ hlock)) hnext

theorem Owned.free {m : Memory} (h : Owned m) {handle : Handle} {e : Entry}
    (he : m.entry handle = some e) : Owned (m.free handle) where
  entry handle' e' he' := by
    rw [Memory.entry_free] at he'
    split at he'
    · cases he'
    · rename_i hne
      obtain ⟨hobject, hnull, hmem, hcount, hnode⟩ := h.entry handle' e' he'
      refine ⟨hobject, hnull, ?_, hcount, ?_⟩
      · rw [Memory.references_free _ he]
        refine (List.mem_erase_of_ne ?_).mpr hmem
        intro heq
        rw [(h.entry handle e he).1] at heq
        exact hne (h.unique handle' handle e' e he' he (Or.inl heq))
      · rw [Memory.next_free]
        exact hnode
  unique handle' handle'' e' e'' he' he'' hor := by
    rw [Memory.entry_free] at he' he''
    split at he'
    · cases he'
    · split at he''
      · cases he''
      · exact h.unique handle' handle'' e' e'' he' he'' hor
  lock a mutex hfind := by
    rw [Memory.next_free]
    cases handle with
    | comm b =>
        obtain ⟨comm, hcomm, rfl⟩ := Option.map_eq_some_iff.mp he
        simp only [Memory.free, hcomm, Memory.intrusivePtrRelease] at hfind ⊢
        exact h.lock a mutex hfind
    | conditionVariable b =>
        obtain ⟨cv, hcv, rfl⟩ := Option.map_eq_some_iff.mp he
        simp only [Memory.free, hcv, Memory.intrusivePtrRelease] at hfind ⊢
        exact h.lock a mutex hfind
    | mutex b =>
        obtain ⟨mutex', hmutex', rfl⟩ := Option.map_eq_some_iff.mp he
        simp only [Memory.free, hmutex', Memory.intrusivePtrRelease, UnorderedMap.find_erase]
          at hfind ⊢
        split at hfind
        · cases hfind
        · rename_i hne
          obtain ⟨hlock, hlt, hlocked⟩ := h.lock a mutex hfind
          refine ⟨hlock, hlt, ?_⟩
          -- the deleted lock is another one, as the two entries have different nodes
          rw [if_neg, hlocked]
          intro heq
          have hlock' := (h.lock b mutex' hmutex').1
          have hnode : mutex.node = mutex'.node :=
            Nat.succ.inj (hlock.symm.trans (heq.trans hlock'))
          have hsame := h.unique (.mutex a) (.mutex b) mutex.entry mutex'.entry
            (by rw [Memory.entry, hfind, Option.map_some]) he (Or.inr hnode)
          exact hne (Handle.mutex.inj hsame)
  locks lock hlock := by
    rw [Memory.next_free]
    cases handle with
    | comm b =>
        obtain ⟨comm, hcomm, rfl⟩ := Option.map_eq_some_iff.mp he
        simp only [Memory.free, hcomm, Memory.intrusivePtrRelease] at hlock
        exact h.locks lock hlock
    | conditionVariable b =>
        obtain ⟨cv, hcv, rfl⟩ := Option.map_eq_some_iff.mp he
        simp only [Memory.free, hcv, Memory.intrusivePtrRelease] at hlock
        exact h.locks lock hlock
    | mutex b =>
        obtain ⟨mutex, hmutex, rfl⟩ := Option.map_eq_some_iff.mp he
        simp only [Memory.free, hmutex, Memory.intrusivePtrRelease, UnorderedMap.find_erase] at hlock
        split at hlock
        · exact absurd rfl hlock
        · exact h.locks lock hlock

theorem Owned.takePayload {m : Memory} (h : Owned m) (address : Address) (buffer payload : Ptr) :
    Owned (m.takePayload address buffer payload) where
  entry handle e he := by
    rw [Memory.entry_takePayload] at he
    exact h.entry handle e he
  unique handle handle' e e' he he' hor := by
    rw [Memory.entry_takePayload] at he he'
    exact h.unique handle handle' e e' he he' hor
  lock := h.lock
  locks := h.locks

/-- The insertion of an entry for a new object. -/
theorem Owned.insert {m m' : Memory} (h : Owned m) (handle : Handle) (entry : Entry)
    (hentry : ∀ h', m'.entry h' = if h' = handle then some entry else m.entry h')
    (hobject : entry.object = handle.address) (hnull : handle.address ≠ 0)
    (hfresh : handle.address ∉ m.references) (hcount : entry.remoteRefCount = 1)
    (hnode : entry.node = m.next) (hreferences : m'.references = handle.address :: m.references)
    (hnext : m.next < m'.next)
    (hlock : ∀ a mutex, m'.store.mutexes.find a = some mutex →
      mutex.lock = mutex.node + 1 ∧ mutex.lock < m'.next ∧ m'.locks.find mutex.lock = some a)
    (hlocks : ∀ lock, m'.locks.find lock ≠ none → lock < m'.next) : Owned m' where
  entry h' e he := by
    rw [hentry] at he
    split at he
    · rename_i heq
      cases he
      subst heq
      refine ⟨hobject, hnull, ?_, hcount, by omega⟩
      rw [hreferences]
      exact List.mem_cons_self
    · obtain ⟨hobject', hnull', hmem, hcount', hnode'⟩ := h.entry h' e he
      refine ⟨hobject', hnull', ?_, hcount', by omega⟩
      rw [hreferences]
      exact List.mem_cons_of_mem _ hmem
  unique h' h'' e' e'' he' he'' hor := by
    have hother : ∀ h₀ e₀, m.entry h₀ = some e₀ →
        h₀.address ≠ handle.address ∧ e₀.node ≠ entry.node := by
      intro h₀ e₀ he₀
      obtain ⟨-, -, hmem, -, hlt⟩ := h.entry h₀ e₀ he₀
      exact ⟨fun heq => hfresh (heq ▸ hmem), by omega⟩
    rw [hentry] at he' he''
    split at he' <;> split at he''
    · rename_i heq' heq''
      rw [heq', heq'']
    · rename_i heq' _
      cases he'
      subst heq'
      rcases hor with hor | hor
      · exact absurd hor.symm (hother h'' e'' he'').1
      · exact absurd hor.symm (hother h'' e'' he'').2
    · rename_i heq''
      cases he''
      subst heq''
      rcases hor with hor | hor
      · exact absurd hor (hother h' e' he').1
      · exact absurd hor (hother h' e' he').2
    · exact h.unique h' h'' e' e'' he' he'' hor
  lock := hlock
  locks := hlocks

theorem Owned.entry_eq_none {m : Memory} (h : Owned m) (handle : Handle)
    (hfresh : handle.address ∉ m.references) : m.entry handle = none := by
  rw [Option.eq_none_iff_forall_ne_some]
  intro e he
  exact hfresh (h.entry handle e he).2.2.1

theorem Owned.change {p : Pid} {m : Memory} (h : Owned s.memory) (hunstored : Unstored s)
    (hchange : Change s event p m) : Owned m := by
  cases hchange with
  | same _ hstore hreferences hlocks hnext => exact h.same hstore hreferences hlocks hnext
  | freed d handle e _ _ he _ => exact h.free he
  | decreased d handle e _ _ he hne => exact absurd (h.entry handle e he).2.2.2.1 hne
  | taken address buffer payload => exact h.takePayload address buffer payload
  | insertedComm address comm frame hcreated hcomm hnode hcount hnone =>
      obtain ⟨actor, _, _, hfind, hpoint⟩ := hcreated
      obtain ⟨hnull, hfresh⟩ := hunstored.fresh p actor frame address hfind hpoint
      subst hcomm
      exact h.insert (.comm comm.comm) comm.entry
        (Memory.entry_insertComm _ comm hnone) rfl hnull hfresh hcount hnode rfl (Nat.lt_succ_self _)
        (fun a mutex hmutex => by
          obtain ⟨hlock, hlt, hlocked⟩ := h.lock a mutex hmutex
          exact ⟨hlock, Nat.lt_succ_of_lt hlt, hlocked⟩)
        (fun lock hlock => Nat.lt_succ_of_lt (h.locks lock hlock))
  | insertedMutex address frame hcreated =>
      obtain ⟨actor, _, _, hfind, hpoint⟩ := hcreated
      obtain ⟨hnull, hfresh⟩ := hunstored.fresh p actor frame address hfind hpoint
      have hnone : s.memory.store.mutexes.find address = none :=
        Option.map_eq_none_iff.mp (h.entry_eq_none (.mutex address) hfresh)
      have hfreshLock : s.memory.locks.find (s.memory.next + 1) = none := by
        by_contra hsome
        exact absurd (h.locks _ hsome) (Nat.not_lt.mpr (Nat.le_succ _))
      let mutex : StoredMutex :=
        { mutex := address, lock := s.memory.next + 1, node := s.memory.next }
      refine h.insert (.mutex address) mutex.entry
        (Memory.entry_insertMutex s.memory mutex hnone) rfl hnull hfresh rfl rfl rfl
        (by simp [Memory.insertMutex, Memory.intrusivePtrAddRef]) ?_ ?_
      · intro a stored hfind
        simp only [Memory.insertMutex, Memory.intrusivePtrAddRef, UnorderedMap.find_insert, hnone,
          hfreshLock, and_true] at hfind ⊢
        split at hfind
        · rename_i heq
          cases hfind
          exact ⟨rfl, Nat.lt_succ_self _, by rw [if_pos rfl, heq]⟩
        · obtain ⟨hlock, hlt, hlocked⟩ := h.lock a stored hfind
          refine ⟨hlock, hlt.trans (Nat.lt_add_of_pos_right Nat.two_pos), ?_⟩
          rw [if_neg, hlocked]
          intro heq
          rw [heq] at hlt
          exact absurd hlt (Nat.not_lt.mpr (Nat.le_succ _))
      · intro lock hlock
        simp only [Memory.insertMutex, Memory.intrusivePtrAddRef, UnorderedMap.find_insert,
          hfreshLock, and_true] at hlock ⊢
        split at hlock
        · rename_i heq
          rw [heq]
          exact Nat.lt_succ_self _
        · exact (h.locks lock hlock).trans (Nat.lt_add_of_pos_right Nat.two_pos)
  | insertedConditionVariable address frame hcreated =>
      obtain ⟨actor, _, _, hfind, hpoint⟩ := hcreated
      obtain ⟨hnull, hfresh⟩ := hunstored.fresh p actor frame address hfind hpoint
      have hnone : s.memory.store.conditionVariables.find address = none :=
        Option.map_eq_none_iff.mp
          (h.entry_eq_none (.conditionVariable address) hfresh)
      let cv : StoredConditionVariable := { conditionVariable := address, node := s.memory.next }
      refine h.insert (.conditionVariable address) cv.entry
        (Memory.entry_insertConditionVariable s.memory cv hnone) rfl hnull hfresh rfl rfl rfl
        (Nat.lt_succ_self _) ?_ (fun lock hlock => Nat.lt_succ_of_lt (h.locks lock hlock))
      intro a mutex hmutex
      obtain ⟨hlock, hlt, hlocked⟩ := h.lock a mutex hmutex
      exact ⟨hlock, Nat.lt_succ_of_lt hlt, hlocked⟩

/-- What a change does to the references: an address is new there only if an actor stores it. -/
theorem Change.references {p : Pid} {m : Memory} (h : Change s event p m) {a : Address}
    (ha : a ∈ m.references) : a ∈ s.memory.references ∨ ∃ frame, Created s p a frame := by
  cases h with
  | same _ _ hreferences _ _ => exact Or.inl (hreferences ▸ ha)
  | freed d handle e _ _ he _ =>
      rw [Memory.references_free _ he] at ha
      exact Or.inl (List.mem_of_mem_erase ha)
  | decreased d handle e _ _ he _ =>
      cases handle <;> exact Or.inl ha
  | taken address buffer payload => exact Or.inl ha
  | insertedComm address comm frame hcreated =>
      rcases List.mem_cons.mp ha with rfl | ha
      · exact Or.inr ⟨frame, hcreated⟩
      · exact Or.inl ha
  | insertedMutex address frame hcreated =>
      rcases List.mem_cons.mp ha with rfl | ha
      · exact Or.inr ⟨frame, hcreated⟩
      · exact Or.inl ha
  | insertedConditionVariable address frame hcreated =>
      rcases List.mem_cons.mp ha with rfl | ha
      · exact Or.inr ⟨frame, hcreated⟩
      · exact Or.inl ha

/-! ### The actors after a step -/

theorem find_setPoint (s : Simulation K) (p q : Pid) (point : ActorPoint) :
    (s.setPoint p point).actors.find q =
      if q = p then (s.actors.find p).map fun actor => { actor with point := point }
      else s.actors.find q := by
  rw [Simulation.setPoint, UnorderedMap.find_modify]

/-- Where an actor is after a step, and why. -/
inductive Moved (s : Simulation K) (event : SimEvent K) (t : Simulation K) (q : Pid)
    (actor : ServerActor) : Prop
  | stayed : s.actors.find q = some actor → Moved s event t q actor
  | ran (before : ServerActor) (socket : Socket) (segment : Segment) :
      s.actors.find q = some before → Ran s event q socket segment →
      t = (({ s with ready := event.remaining s.ready }).conclude q socket segment).1 →
      actor = { before with point := segment.outcome.point } → Moved s event t q actor
  | started (before : ServerActor) : event = .schedule q → s.actors.find q = some before →
      before.point = .spawned none → actor = { before with point := .reading } →
      Moved s event t q actor
  | served (before : ServerActor) (call : S4uCall) (frame : Frame) (ret : S4uReturn) :
      event = .serve q ret → s.actors.find q = some before → before.point = .calling call frame →
      actor = { before with point := .returned ret frame } → Moved s event t q actor
  | spawned (p : Pid) (before : ServerActor) (name host : String) (connectAck : Queue)
      (frame : Frame) : event = .serve p (.pid q) → s.actors.find p = some before →
      before.point = .calling (.actorCreate name host connectAck) frame →
      s.actors.find q = none → actor = { point := .spawned (some connectAck) } →
      Moved s event t q actor
  | connected (before : ServerActor) (connectAck : Queue) (socket : Socket) :
      event = .connectAck (.actorConnected socket) → s.actors.find q = some before →
      before.point = .waitingConnectAck connectAck → actor = { socket := socket, point := .reading } →
      Moved s event t q actor
  | connectFailed (before : ServerActor) : s.actors.find q = some before →
      actor = { before with point := .terminated } → Moved s event t q actor

theorem SimStep.moved (h : SimStep s event t out) {q : Pid} {actor : ServerActor}
    (hq : t.actors.find q = some actor) : Moved s event t q actor := by
  cases h with
  | ran _ p socket segment hran =>
      simp only [Simulation.conclude, find_setPoint] at hq
      split at hq
      · rename_i heq
        subst heq
        obtain ⟨before, hbefore, rfl⟩ := Option.map_eq_some_iff.mp hq
        exact .ran before socket segment hbefore hran rfl rfl
      · exact .stayed hq
  | started p before _ hfind hpoint =>
      simp only [find_setPoint] at hq
      split at hq
      · rename_i heq
        subst heq
        rw [hfind, Option.map_some, Option.some.injEq] at hq
        exact .started before rfl hfind hpoint hq.symm
      · exact .stayed hq
  | served p before call frame ret kernel _ _ hfind hpoint _ hserve =>
      have hanswered : ∀ {q actor}, (s.answered p frame ret kernel).actors.find q = some actor →
          Moved s (.serve p ret) t q actor := by
        intro q actor hq
        simp only [Simulation.answered, find_setPoint] at hq
        split at hq
        · rename_i heq
          subst heq
          rw [hfind, Option.map_some, Option.some.injEq] at hq
          exact .served before call frame ret rfl hfind hpoint hq.symm
        · exact .stayed hq
      rcases serve_cases hserve with rfl | ⟨name, host, connectAck, child, rfl, rfl, hnone, rfl⟩
      · exact hanswered hq
      · simp only [UnorderedMap.find_insert, hnone, and_true] at hq
        split at hq
        · rename_i heq
          subst heq
          simp only [Simulation.answered, find_setPoint, hfind] at hnone
          split at hnone
          · cases hnone
          · cases hq
            exact .spawned p before name host connectAck frame rfl hfind hpoint hnone rfl
        · exact hanswered hq
  | progressed => exact .stayed hq
  | progressFailed => exact .stayed hq
  | round => exact .stayed hq
  | connected p socket connectAck socket' _ hfind =>
      simp only [UnorderedMap.find_modify] at hq
      split at hq
      · rename_i heq
        subst heq
        rw [hfind, Option.map_some, Option.some.injEq] at hq
        exact .connected _ connectAck socket' rfl hfind rfl hq.symm
      · exact .stayed hq
  | connectFailed p socket connectAck msg _ hfind _ =>
      simp only [find_setPoint] at hq
      split at hq
      · rename_i heq
        subst heq
        rw [hfind, Option.map_some, Option.some.injEq] at hq
        exact .connectFailed _ hfind hq.symm
      · exact .stayed hq

/-- Where a step leaves an actor that it neither runs nor answers. -/
def ActorPoint.atRest : ActorPoint → Bool
  | .spawned _ | .reading | .terminated => true
  | _ => false

/-- What holds of the points of all actors still does after a step, if it does of an actor at rest, after
any turn, and once a call is served. -/
theorem SimStep.keepsPoints {P : Pid → ActorPoint → Prop} (h : SimStep s event t out)
    (hpoints : ∀ q point, s.point q = some point → P q point)
    (hrest : ∀ q point, point.atRest = true → P q point)
    (hran : ∀ q socket segment, Ran s event q socket segment → P q segment.outcome.point)
    (hserved : ∀ q call frame ret, event = .serve q ret → s.point q = some (.calling call frame) →
      P q (.returned ret frame)) {q : Pid} {point : ActorPoint} (hq : t.point q = some point) :
    P q point := by
  obtain ⟨actor, hfind, rfl⟩ := Option.map_eq_some_iff.mp hq
  cases h.moved hfind with
  | stayed hs => exact hpoints q actor.point (by rw [Simulation.point, hs, Option.map_some])
  | ran before socket segment _ hturn _ heq => exact heq ▸ hran q socket segment hturn
  | served before call frame ret hevent hbefore hat heq =>
      refine heq ▸ hserved q call frame ret hevent ?_
      rw [Simulation.point, hbefore, Option.map_some, hat]
  | started before _ _ _ heq => exact heq ▸ hrest q _ rfl
  | spawned p before name host connectAck frame _ _ _ _ heq => exact heq ▸ hrest q _ rfl
  | connected before connectAck socket _ _ _ heq => exact heq ▸ hrest q _ rfl
  | connectFailed before _ heq => exact heq ▸ hrest q _ rfl

theorem find_setPoint_eq_none {p q : Pid} {point : ActorPoint} :
    (s.setPoint p point).actors.find q = none ↔ s.actors.find q = none := by
  rw [find_setPoint]
  split
  · rename_i heq
    rw [heq, Option.map_eq_none_iff]
  · exact Iff.rfl

/-- The actors after a call is served: its actor has the result, and a new actor may have started. -/
theorem serve_find {p q : Pid} {before actor : ServerActor} {call : S4uCall} {frame : Frame}
    {ret : S4uReturn} {kernel : K.State} (h : s.serve p call frame ret kernel = some t)
    (hfind : s.actors.find p = some before) (hq : t.actors.find q = some actor) :
    q = p ∧ actor.point = .returned ret frame ∨ q ≠ p ∧ (s.actors.find q = some actor ∨
      s.actors.find q = none ∧ ∃ connectAck, actor.point = .spawned connectAck) := by
  have hanswered : (s.answered p frame ret kernel).actors.find q = some actor →
      q = p ∧ actor.point = .returned ret frame ∨ q ≠ p ∧ (s.actors.find q = some actor ∨
        s.actors.find q = none ∧ ∃ connectAck, actor.point = .spawned connectAck) := by
    intro hq
    simp only [Simulation.answered, find_setPoint] at hq
    split at hq
    · rename_i heq
      obtain ⟨x, -, rfl⟩ := Option.map_eq_some_iff.mp hq
      exact Or.inl ⟨heq, rfl⟩
    · rename_i hne
      exact Or.inr ⟨hne, Or.inl hq⟩
  rcases serve_cases h with rfl | ⟨name, host, connectAck, child, rfl, rfl, hnone, rfl⟩
  · exact hanswered hq
  · simp only [UnorderedMap.find_insert, hnone, and_true] at hq
    split at hq
    · rename_i heq
      cases hq
      have hnone' := find_setPoint_eq_none.mp hnone
      refine Or.inr ⟨?_, Or.inr ⟨heq ▸ hnone', _, rfl⟩⟩
      rintro rfl
      rw [← heq, hfind] at hnone'
      cases hnone'
    · exact hanswered hq

/-- An actor never disappears. -/
theorem SimStep.find_none (h : SimStep s event t out) {q : Pid} (hq : t.actors.find q = none) :
    s.actors.find q = none := by
  cases h with
  | ran => exact find_setPoint_eq_none.mp hq
  | started => exact find_setPoint_eq_none.mp hq
  | progressed => exact hq
  | progressFailed => exact hq
  | round => exact hq
  | connected =>
      simp only [UnorderedMap.find_modify] at hq
      split at hq
      · rename_i heq
        rw [heq]
        exact Option.map_eq_none_iff.mp hq
      · exact hq
  | connectFailed => exact find_setPoint_eq_none.mp hq
  | served p before call frame ret kernel _ _ _ _ _ hserve =>
      rcases serve_cases hserve with rfl | ⟨name, host, connectAck, child, rfl, rfl, hnone, rfl⟩
      · exact find_setPoint_eq_none.mp hq
      · simp only [UnorderedMap.find_insert, hnone, and_true] at hq
        split at hq
        · cases hq
        · exact find_setPoint_eq_none.mp hq

/-- What a step does to the store, the references and the locks. -/
theorem SimStep.change (h : SimStep s event t out) : ∃ p, Change s event p t.memory := by
  cases h with
  | ran _ p socket segment hran => exact ⟨p, hran.change⟩
  | served p before call frame ret kernel _ _ _ _ _ hserve =>
      rcases serve_cases hserve with rfl | ⟨name, host, connectAck, child, rfl, rfl, hnone, rfl⟩
      · exact ⟨p, .same _ rfl rfl rfl le_rfl⟩
      · exact ⟨p, .same _ rfl rfl rfl le_rfl⟩
  | started => exact ⟨0, .same _ rfl rfl rfl le_rfl⟩
  | progressed => exact ⟨0, .same _ rfl rfl rfl le_rfl⟩
  | progressFailed => exact ⟨0, .same _ rfl rfl rfl le_rfl⟩
  | round => exact ⟨0, .same _ rfl rfl rfl le_rfl⟩
  | connected => exact ⟨0, .same _ rfl rfl rfl le_rfl⟩
  | connectFailed => exact ⟨0, .same _ rfl rfl rfl le_rfl⟩

/-- An actor is in a call just if its segment has made it. -/
theorem outcome_of_calling {outcome : Outcome} {call : S4uCall} {frame : Frame}
    (h : outcome.point = .calling call frame) : outcome = .call call frame := by
  cases outcome with
  | call => cases h; rfl
  | finished ack sendAck quitReceived => cases quitReceived <;> cases h
  | _ => cases h

/-- No outcome of a segment is the return from a call. -/
theorem point_ne_returned (outcome : Outcome) (ret : S4uReturn) (frame : Frame) :
    outcome.point ≠ .returned ret frame := by
  cases outcome with
  | finished ack sendAck quitReceived => cases quitReceived <;> nofun
  | _ => nofun

theorem Unstored.step (h : Unstored s) (hfresh : FreshAddress s event)
    (hstep : SimStep s event t out) : Unstored t where
  fresh q actor frame a hq hpoint := by
    -- a step that runs no actor leaves the references alone
    have hother : t.memory.references = s.memory.references → a ≠ 0 ∧ a ∉ t.memory.references := by
      intro hreferences
      rw [hreferences]
      cases hstep.moved hq with
      | stayed hs => exact h.fresh q actor frame a hs hpoint
      | ran before socket segment _ _ _ heq => exact absurd (heq ▸ hpoint) (point_ne_returned _ _ _)
      | served before call frame' ret hevent _ _ heq =>
          subst heq hevent
          cases hpoint
          exact ⟨hfresh.1, hfresh.2.1⟩
      | started before _ _ _ heq => subst heq; cases hpoint
      | spawned p before name host connectAck frame' _ _ _ _ heq => subst heq; cases hpoint
      | connected before connectAck socket _ _ _ heq => subst heq; cases hpoint
      | connectFailed before _ heq => subst heq; cases hpoint
    cases hstep with
    | ran _ p socket segment hran =>
        simp only [Simulation.conclude, find_setPoint] at hq
        split at hq
        · obtain ⟨before, -, rfl⟩ := Option.map_eq_some_iff.mp hq
          exact absurd hpoint (point_ne_returned _ _ _)
        · rename_i hne
          obtain ⟨hnull, hnew⟩ := h.fresh q actor frame a hq hpoint
          refine ⟨hnull, fun hmem => ?_⟩
          rcases hran.change.references hmem with hmem | ⟨frame', before, _, _, hp, hreturned⟩
          · exact hnew hmem
          · exact hne (h.distinct q p actor before frame frame' a hq hp hpoint hreturned)
    | started => exact hother rfl
    | progressed => exact hother rfl
    | progressFailed => exact hother rfl
    | round => exact hother rfl
    | connected => exact hother rfl
    | connectFailed => exact hother rfl
    | served p before call frame' ret kernel _ _ _ _ _ hserve =>
        apply hother
        rcases serve_cases hserve with rfl | ⟨name, host, connectAck, child, rfl, rfl, _, rfl⟩
        · rfl
        · rfl
  distinct p q actor actor' frame frame' a hp hq hpoint hpoint' := by
    have hmoved : ∀ {r x f}, t.actors.find r = some x → x.point = .returned (.address a) f →
        s.actors.find r = some x ∨ event = .serve r (.address a) := by
      intro r x f hr hx
      cases hstep.moved hr with
      | stayed hs => exact Or.inl hs
      | ran before socket segment _ _ _ heq => exact absurd (heq ▸ hx) (point_ne_returned _ _ _)
      | served before call f' ret hevent _ _ heq =>
          subst heq
          cases hx
          exact Or.inr hevent
      | started before _ _ _ heq => subst heq; cases hx
      | spawned p before name host connectAck f' _ _ _ _ heq => subst heq; cases hx
      | connected before connectAck socket _ _ _ heq => subst heq; cases hx
      | connectFailed before _ heq => subst heq; cases hx
    have hnew : ∀ {r x f}, s.actors.find r = some x → x.point = .returned (.address a) f →
        ∀ r', event ≠ .serve r' (.address a) := by
      intro r x f hr hx r' hevent
      subst hevent
      apply hfresh.2.2 x (UnorderedMap.mem_values.mpr ⟨r, hr⟩)
      rw [hx]
      exact List.mem_append_left _ (List.mem_singleton_self a)
    rcases hmoved hp hpoint with hs | hevent <;> rcases hmoved hq hpoint' with hs' | hevent'
    · exact h.distinct p q actor actor' frame frame' a hs hs' hpoint hpoint'
    · exact absurd hevent' (hnew hs hpoint q)
    · exact absurd hevent (hnew hs' hpoint' p)
    · rw [hevent] at hevent'
      cases hevent'
      rfl

/-- The ownership invariant with what it needs of the actors. -/
structure StoreInv (s : Simulation K) : Prop where
  owned : Owned s.memory
  unstored : Unstored s

theorem StoreInv.step (h : StoreInv s) (hfresh : FreshAddress s event)
    (hstep : SimStep s event t out) : StoreInv t where
  owned := by
    obtain ⟨p, hchange⟩ := hstep.change
    exact h.owned.change h.unstored hchange
  unstored := h.unstored.step hfresh hstep

/-- An actor that `maestro` spawns starts at the beginning of its function. -/
theorem find_spawn {connections : List ActorConnection} {p : Pid} {actor : ServerActor}
    (h : (Simulation.spawn K connections).actors.find p = some actor) :
    actor.point = .spawned none := by
  have hfold : ∀ (connections : List ActorConnection) (actors : UnorderedMap Pid ServerActor),
      (∀ q x, actors.find q = some x → x.point = .spawned none) →
      ∀ q x, (connections.foldl (fun actors connection => actors.insert connection.actorId
        { socket := connection.socket.getD 0, point := .spawned none }) actors).find q = some x →
      x.point = .spawned none := by
    intro connections
    induction connections with
    | nil => exact fun actors hactors => hactors
    | cons connection connections ih =>
        intro actors hactors
        apply ih
        intro q x hq
        rw [UnorderedMap.find_insert] at hq
        split at hq
        · cases hq
          rfl
        · exact hactors q x hq
  exact hfold connections ∅ (fun q x hq => by cases hq) p actor h

theorem StoreInv.spawn (connections : List ActorConnection) :
    StoreInv (Simulation.spawn K connections) where
  owned :=
    { entry := fun h e he => by cases h <;> cases he
      unique := fun h h' e e' he => by cases h <;> cases he
      lock := fun a mutex hfind => by cases hfind
      locks := fun lock hlock => absurd rfl hlock }
  unstored :=
    { fresh := fun p actor frame a hfind hpoint => by
        rw [find_spawn hfind] at hpoint
        cases hpoint
      distinct := fun p q actor actor' frame frame' a hfind _ hpoint => by
        rw [find_spawn hfind] at hpoint
        cases hpoint }

theorem storeInv_run {connections : List ActorConnection} {events : List (SimEvent K)}
    (hrun : Run (simulationStep K) (Simulation.spawn K connections) events s out)
    (hfresh : Throughout (simulationStep K) FreshAddress (Simulation.spawn K connections) events) :
    StoreInv s :=
  hrun.guarded_invariant (P := fun _ s _ => StoreInv s) hfresh (StoreInv.spawn connections)
    (fun _ hinv hevent hstep => hinv.step hevent (simulationStep_cases hstep).2)

end RemoteSimgrid
