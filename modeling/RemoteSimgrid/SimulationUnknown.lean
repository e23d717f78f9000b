import RemoteSimgrid.SimulationTurns

/-! Decisions that designate an object that does not exist. All but one of their handlers answer with a
failure and do nothing else; the wait on any of several comms raises an error, which ends the actor and
aborts the simulation. -/

namespace RemoteSimgrid

open Machine Pb

variable {K : S4u} {s t : Simulation K} {event : SimEvent K} {out : List SimOutput}

/-- The pid that a client put in a decision. -/
def Pb.DecisionType.actor : DecisionType → Option Pid
  | .actorGetName actor | .actorGetHost actor => some actor.id
  | .actorJoin join => some join.actor.id
  | _ => none

/-- A decision designates something that does not exist: it has a handle without entry, or a pid
without actor. -/
def DesignatesUnknown (s : Simulation K) (d : Decision) : Prop :=
  (∃ h ∈ d.type.handles, s.memory.entry h = none) ∨
    ∃ p, d.type.actor = some p ∧ K.actorByPid s.kernel p = none

/-- The waits on any of several comms. -/
def Pb.DecisionType.isCommWaitAnyFor : DecisionType → Bool
  | .commWaitAnyFor _ => true
  | _ => false

/-- S4U never returns a null pointer. -/
def NonNullAddress (_ : Simulation K) : SimEvent K → Prop
  | .serve _ (.address a) => a ≠ 0
  | _ => True

instance (s : Simulation K) (event : SimEvent K) : Decidable (NonNullAddress s event) :=
  match event with
  | .serve _ ret =>
      match ret with
      | .address a => inferInstanceAs (Decidable (a ≠ 0))
      | .done | .bool _ | .payload _ | .index _ | .pid _ | .cvStatus _ | .timeoutException
      | .cancelException | .hostFailureException | .otherException _ => .isTrue trivial
  | .schedule _ | .progress _ | .round | .decision _ | .readError _ | .canConnectAck _
  | .connectAck _ => .isTrue trivial

/-! ### No mutex is stored at the null address -/

theorem entry_decrease_eq_none {m : Memory} {h h' : Handle} (hnone : m.entry h' = none) :
    (m.decrease h).entry h' = none := by
  cases h with
  | comm a =>
      cases h' with
      | comm b =>
          rw [Memory.entry, Option.map_eq_none_iff] at hnone ⊢
          simp only [Memory.decrease, UnorderedMap.find_modify]
          split
          · rename_i heq
            rw [← heq, hnone, Option.map_none]
          · exact hnone
      | mutex b => exact hnone
      | conditionVariable b => exact hnone
  | mutex a =>
      cases h' with
      | comm b => exact hnone
      | mutex b =>
          rw [Memory.entry, Option.map_eq_none_iff] at hnone ⊢
          simp only [Memory.decrease, UnorderedMap.find_modify]
          split
          · rename_i heq
            rw [← heq, hnone, Option.map_none]
          · exact hnone
      | conditionVariable b => exact hnone
  | conditionVariable a =>
      cases h' with
      | comm b => exact hnone
      | mutex b => exact hnone
      | conditionVariable b =>
          rw [Memory.entry, Option.map_eq_none_iff] at hnone ⊢
          simp only [Memory.decrease, UnorderedMap.find_modify]
          split
          · rename_i heq
            rw [← heq, hnone, Option.map_none]
          · exact hnone

/-- Nothing is stored, or about to be stored, as the mutex at the null address. -/
structure NullInv (s : Simulation K) : Prop where
  entry : s.memory.entry (.mutex 0) = none
  point : ∀ p actor frame, s.actors.find p = some actor → actor.point ≠ .returned (.address 0) frame

theorem Change.nullEntry {p : Pid} {m : Memory} (h : NullInv s) (hchange : Change s event p m) :
    m.entry (.mutex 0) = none := by
  cases hchange with
  | same _ hstore _ _ _ => exact (entry_eq_of_store hstore _).trans h.entry
  | freed d handle e _ _ _ _ =>
      rw [Memory.entry_free]
      split
      · rfl
      · exact h.entry
  | decreased d handle e _ _ _ _ => exact entry_decrease_eq_none h.entry
  | taken address buffer payload => exact (Memory.entry_takePayload _ _ _ _ _).trans h.entry
  | insertedComm address comm frame _ _ _ _ _ => exact h.entry
  | insertedConditionVariable address frame _ => exact h.entry
  | insertedMutex address frame hcreated =>
      obtain ⟨actor, _, _, hfind, hpoint⟩ := hcreated
      have hnull : address ≠ 0 := by
        rintro rfl
        exact h.point p actor frame hfind hpoint
      have hnone := Option.map_eq_none_iff.mp h.entry
      rw [Memory.entry, Option.map_eq_none_iff]
      simp only [Memory.insertMutex, Memory.intrusivePtrAddRef, UnorderedMap.find_insert,
        if_neg (fun hand : 0 = address ∧ _ => hnull hand.1.symm), hnone]

theorem NullInv.spawn (connections : List ActorConnection) :
    NullInv (Simulation.spawn K connections) where
  entry := rfl
  point p actor frame hfind hpoint := by
    rw [find_spawn hfind] at hpoint
    cases hpoint

theorem NullInv.step (h : NullInv s) (hnonnull : NonNullAddress s event)
    (hstep : SimStep s event t out) : NullInv t where
  entry := by
    obtain ⟨p, hchange⟩ := hstep.change
    exact hchange.nullEntry h
  point p actor frame hfind hpoint := by
    have hreturned : t.point p = some (.returned (.address 0) frame) := by
      rw [Simulation.point, hfind, Option.map_some, hpoint]
    refine hstep.keepsPoints (P := fun _ point => point ≠ .returned (.address 0) frame) ?_ ?_ ?_ ?_
      hreturned rfl
    · rintro q point hs rfl
      obtain ⟨before, hbefore, hat⟩ := Option.map_eq_some_iff.mp hs
      exact h.point q before frame hbefore hat
    · rintro q point hrest rfl
      cases hrest
    · exact fun q socket segment _ => point_ne_returned _ _ _
    · rintro q call frame' ret rfl _ heq
      cases heq
      exact hnonnull rfl

theorem nullInv_run {connections : List ActorConnection} {events : List (SimEvent K)}
    (hrun : Run (simulationStep K) (Simulation.spawn K connections) events s out)
    (hnonnull : Throughout (simulationStep K) NonNullAddress (Simulation.spawn K connections) events) :
    NullInv s :=
  hrun.guarded_invariant (P := fun _ s _ => NullInv s) hnonnull (NullInv.spawn connections)
    (fun _ hinv hevent hstep => hinv.step hevent (simulationStep_cases hstep).2)

/-! ### The handlers -/

section

variable {k : K.State} {self : Pid} {m : Memory}

theorem onComm_unknown {address : Address} {call : StoredComm → S4uCall} {frame : Iterator → Frame}
    (hnone : m.entry (.comm address) = none) : onComm address m call frame = .failure m := by
  rw [onComm, Option.map_eq_none_iff.mp hnone]

theorem onMutex_unknown {address : Address} {call : StoredMutex → S4uCall} {frame : Iterator → Frame}
    (hnone : m.entry (.mutex address) = none) : onMutex address m call frame = .failure m := by
  rw [onMutex, Option.map_eq_none_iff.mp hnone]

theorem onConditionVariable_unknown {address : Address} {call : StoredConditionVariable → S4uCall}
    (hnone : m.entry (.conditionVariable address) = none) :
    onConditionVariable address m call = .failure m := by
  rw [onConditionVariable, Option.map_eq_none_iff.mp hnone]

theorem onLock_unknown {c x : Address} {call : Address → Ptr → S4uCall}
    {frame : Iterator → Iterator → Ptr → Frame}
    (hnone : m.entry (.conditionVariable c) = none ∨ m.entry (.mutex x) = none) :
    onLock c x m call frame = .failure m := by
  unfold onLock
  split
  · rename_i hcv hmutex
    rcases hnone with hnone | hnone
    · rw [Option.map_eq_none_iff.mp hnone] at hcv
      cases hcv
    · rw [Option.map_eq_none_iff.mp hnone] at hmutex
      cases hmutex
  · rfl

/-- Every handler but one refuses what does not exist. -/
theorem switchDecision_unknown {d : Decision} (hnull : m.entry (.mutex 0) = none)
    (hunknown : (∃ h ∈ d.type.handles, m.entry h = none) ∨
      ∃ p, d.type.actor = some p ∧ K.actorByPid k p = none)
    (hany : d.type.isCommWaitAnyFor = false) : switchDecision K k self d m = .failure m := by
  rcases hunknown with ⟨h, hmem, hnone⟩ | ⟨p, hactor, hnone⟩
  · cases hd : d.type <;> rw [hd] at hmem <;>
      simp only [DecisionType.handles, List.not_mem_nil, List.mem_cons, or_false] at hmem <;>
      simp only [switchDecision, Decision.typeCase, hd]
    case commRefcountDecrease comm =>
        subst hmem
        rw [commRefcountDecrease, Decision.commRefcountDecrease, hd, Option.map_eq_none_iff.mp hnone]
    case mutexRefcountDecrease mutex =>
        subst hmem
        rw [mutexRefcountDecrease, Decision.mutexRefcountDecrease, hd,
          Option.map_eq_none_iff.mp hnone]
    case conditionVariableRefcountDecrease cv =>
        subst hmem
        rw [conditionVariableRefcountDecrease, Decision.conditionVariableRefcountDecrease, hd,
          Option.map_eq_none_iff.mp hnone]
    case commWaitFor wait =>
        subst hmem
        exact onComm_unknown (by simpa only [Decision.commWaitFor, hd] using hnone)
    case commCancel comm =>
        subst hmem
        exact onComm_unknown (by simpa only [Decision.commCancel, hd] using hnone)
    case commTest comm =>
        subst hmem
        exact onComm_unknown (by simpa only [Decision.commTest, hd] using hnone)
    case commWaitAnyFor wait => rw [hd] at hany; cases hany
    case mutexLock mutex =>
        subst hmem
        exact onMutex_unknown (by simpa only [Decision.mutexLock, hd] using hnone)
    case mutexUnlock mutex =>
        subst hmem
        exact onMutex_unknown (by simpa only [Decision.mutexUnlock, hd] using hnone)
    case mutexTryLock mutex =>
        -- the address is that of a decision to unlock, which this one is not
        exact onMutex_unknown (by simpa only [Decision.mutexUnlock, hd] using hnull)
    case conditionVariableWait wait =>
        refine onLock_unknown ?_
        simp only [Decision.conditionVariableWait, hd]
        rcases hmem with rfl | rfl
        · exact Or.inl hnone
        · exact Or.inr hnone
    case conditionVariableWaitUntil wait =>
        refine onLock_unknown ?_
        simp only [Decision.conditionVariableWaitUntil, hd]
        rcases hmem with rfl | rfl
        · exact Or.inl hnone
        · exact Or.inr hnone
    case conditionVariableWaitFor wait =>
        refine onLock_unknown ?_
        simp only [Decision.conditionVariableWaitFor, hd]
        rcases hmem with rfl | rfl
        · exact Or.inl hnone
        · exact Or.inr hnone
    case conditionVariableNotifyOne cv =>
        subst hmem
        exact onConditionVariable_unknown
          (by simpa only [Decision.conditionVariableNotifyOne, hd] using hnone)
    case conditionVariableNotifyAll cv =>
        subst hmem
        exact onConditionVariable_unknown
          (by simpa only [Decision.conditionVariableNotifyAll, hd] using hnone)
  · cases hd : d.type with
    | actorGetName actor =>
        rw [hd] at hactor
        cases hactor
        simp only [switchDecision, Decision.typeCase, hd, Decision.actorGetName, hnone]
    | actorGetHost actor =>
        rw [hd] at hactor
        cases hactor
        simp only [switchDecision, Decision.typeCase, hd, Decision.actorGetHost, hnone]
    | actorJoin join =>
        rw [hd] at hactor
        cases hactor
        simp only [switchDecision, Decision.typeCase, hd, Decision.actorJoin, hnone]
    | _ => rw [hd] at hactor; cases hactor

theorem lookupComms_unknown {comms : List Comm} {h : Handle}
    (hmem : h ∈ comms.map fun comm => Handle.comm comm.address) (hnone : m.entry h = none) :
    ∃ e, lookupComms m comms = .error e := by
  induction comms with
  | nil => cases hmem
  | cons comm comms ih =>
      rw [lookupComms]
      split
      · exact ⟨_, rfl⟩
      · rename_i stored hfind
        rw [List.map_cons, List.mem_cons] at hmem
        rcases hmem with rfl | hmem
        · rw [Memory.entry, hfind] at hnone
          cases hnone
        · obtain ⟨e, he⟩ := ih hmem
          exact ⟨e, by rw [he]⟩

/-- The guard of the handler of a wait on any of several comms. -/
theorem switchDecision_unknownComm {d : Decision} {h : Handle} (hmem : h ∈ d.type.handles)
    (hnone : m.entry h = none) (hany : d.type.isCommWaitAnyFor = true) :
    ∃ e, switchDecision K k self d m = { memory := m, outcome := .raised e } := by
  cases hd : d.type with
  | commWaitAnyFor wait =>
      rw [hd] at hmem
      obtain ⟨e, he⟩ := lookupComms_unknown hmem hnone
      refine ⟨e, ?_⟩
      simp only [switchDecision, Decision.typeCase, hd, commWaitAnyFor, Decision.commWaitAnyFor, he]
  | _ => rw [hd] at hany; cases hany

end

/-! ### Refusals -/

/-- A step changes no object, nothing in SimGrid and no other actor. -/
structure Unharmed (s t : Simulation K) (p : Pid) : Prop where
  memory : t.memory = s.memory
  kernel : t.kernel = s.kernel
  others : ∀ q, q ≠ p → t.actors.find q = s.actors.find q
  crashed : t.crashed = false

/-- A decision is answered by a failure, after which its actor reads the next one. -/
def RefusedBy (s : Simulation K) (event : SimEvent K) (p : Pid) (d : Decision) : Prop :=
  ∃ actor t, s.actors.find p = some actor ∧
    simulationStep K s event =
      some (t, [.dispatched p d, .writeAck p actor.socket { success := false }]) ∧
    Unharmed s t p ∧ t.point p = some .reading ∧ t.current = some p

/-- A decision is not answered: its actor ends, and the simulation is aborted. -/
def AbortedBy (s : Simulation K) (event : SimEvent K) (p : Pid) (d : Decision) : Prop :=
  ∃ reason t,
    simulationStep K s event =
      some (t, [.dispatched p d, .push toCommand (.simulationAborted reason)]) ∧
    Unharmed s t p ∧ t.point p = some .ended ∧ t.current = none

section

variable {p : Pid} {d : Decision} {connections : List ActorConnection} {events : List (SimEvent K)}

theorem point_dispatched {actor : ServerActor} (hfind : s.actors.find p = some actor)
    (segment : Segment) :
    (({ s with ready := event.remaining s.ready }).conclude p actor.socket segment).1.point p =
      some segment.outcome.point := by
  rw [point_conclude_eq, if_pos rfl]
  change (s.point p).map _ = _
  rw [Simulation.point, hfind]
  rfl

theorem others_dispatched (actor : ServerActor) (segment : Segment) {q : Pid} (hq : q ≠ p) :
    (({ s with ready := event.remaining s.ready }).conclude p actor.socket segment).1.actors.find q =
      s.actors.find q := by
  simp only [Simulation.conclude, find_setPoint, if_neg hq]

/-- A decision that designates something unknown changes nothing. It is refused with a failure, unless
it is the wait on any of several comms, which aborts the simulation. -/
theorem unknown_refused
    (hrun : Run (simulationStep K) (Simulation.spawn K connections) events s out)
    (hnonnull : Throughout (simulationStep K) NonNullAddress (Simulation.spawn K connections) events)
    (hcrashed : s.crashed = false) (hd : Dispatches s event p d) (hunknown : DesignatesUnknown s d) :
    if d.type.isCommWaitAnyFor then AbortedBy s event p d else RefusedBy s event p d := by
  obtain ⟨actor, hfind, hstep⟩ := simulationStep_dispatch hcrashed hd
  by_cases hany : d.type.isCommWaitAnyFor = true
  · rw [if_pos hany]
    obtain ⟨h, hmem, hnone⟩ : ∃ h ∈ d.type.handles, s.memory.entry h = none := by
      rcases hunknown with hunknown | ⟨q, hactor, -⟩
      · exact hunknown
      · cases htype : d.type <;> rw [htype] at hany hactor <;> cases hany
        cases hactor
    obtain ⟨e, hsegment⟩ : ∃ e, switchDecision K s.kernel p d s.memory =
        { memory := s.memory, outcome := .raised e } :=
      switchDecision_unknownComm hmem hnone hany
    rw [dispatch, hsegment] at hstep
    exact ⟨_, _, hstep,
      { memory := rfl, kernel := rfl, others := fun q hq => others_dispatched actor _ hq,
        crashed := rfl }, point_dispatched hfind _, rfl⟩
  · rw [if_neg hany]
    have hsegment : switchDecision K s.kernel p d s.memory = .failure s.memory :=
      switchDecision_unknown (nullInv_run hrun hnonnull).entry hunknown (Bool.eq_false_iff.mpr hany)
    rw [dispatch, hsegment] at hstep
    exact ⟨actor, _, hfind, hstep,
      { memory := rfl, kernel := rfl, others := fun q hq => others_dispatched actor _ hq,
        crashed := rfl }, point_dispatched hfind _, rfl⟩

theorem AbortedBy.not_refusedBy (h : AbortedBy s event p d) : ¬RefusedBy s event p d := by
  obtain ⟨_, t, hstep, -, -, hnone⟩ := h
  rintro ⟨_, t', -, hstep', -, -, hsome⟩
  have ht : t = t' := congrArg Prod.fst (Option.some.inj (hstep.symm.trans hstep'))
  rw [← ht, hnone] at hsome
  cases hsome

/-- A decision that designates something unknown is refused if and only if it is not the wait on any
of several comms. That one is not answered, and aborts the simulation. -/
theorem unknown_refused_iff
    (hrun : Run (simulationStep K) (Simulation.spawn K connections) events s out)
    (hnonnull : Throughout (simulationStep K) NonNullAddress (Simulation.spawn K connections) events)
    (hcrashed : s.crashed = false) (hd : Dispatches s event p d) (hunknown : DesignatesUnknown s d) :
    (RefusedBy s event p d ↔ d.type.isCommWaitAnyFor = false) ∧
      (d.type.isCommWaitAnyFor = true → AbortedBy s event p d) := by
  have hends := unknown_refused hrun hnonnull hcrashed hd hunknown
  cases hany : d.type.isCommWaitAnyFor with
  | true =>
      rw [hany, if_pos rfl] at hends
      exact ⟨iff_of_false hends.not_refusedBy Bool.noConfusion, fun _ => hends⟩
  | false =>
      rw [hany, if_neg Bool.false_ne_true] at hends
      exact ⟨iff_of_true hends rfl, fun h => absurd h Bool.false_ne_true⟩

end

/-- An actor gets a comm and reads its next decision. -/
def oneCommEvents : List (SimEvent permissiveS4u) :=
  [.schedule 2, .decision { type := .mailboxGetAsync { name := "mailbox" } },
    .serve 2 (.address 100), .schedule 2]

/-- A wait on the comm of the actor and on one that does not exist. -/
def waitOnUnknown : Decision :=
  { type := .commWaitAnyFor { comms := [{ address := 100 }, { address := 200 }], timeout := -1 } }

/-- A wait on a condition variable that does not exist, with a mutex that does not exist either. -/
def waitOnNothing : Decision :=
  { type := .conditionVariableWait
      { conditionVariable := { address := 300 }, mutex := { address := 100 } } }

theorem unknown_refused_waits :
    ∃ s out, Run (simulationStep permissiveS4u)
      (Simulation.spawn permissiveS4u [{ actorId := 2, socket := some 10 }]) oneCommEvents s out ∧
      RefusedBy s (.decision waitOnNothing) 2 waitOnNothing ∧
      AbortedBy s (.decision waitOnUnknown) 2 waitOnUnknown := by
  obtain ⟨s, out, hexec, hcurrent, hfind, hcv, hcomm, hcrashed⟩ : ∃ s out,
      exec (simulationStep permissiveS4u)
        (Simulation.spawn permissiveS4u [{ actorId := 2, socket := some 10 }]) oneCommEvents =
          some (s, out) ∧ s.current = some 2 ∧ s.actors.find 2 = some ⟨10, .reading⟩ ∧
      s.memory.entry (.conditionVariable 300) = none ∧ s.memory.entry (.comm 200) = none ∧
      s.crashed = false := ⟨_, _, rfl, rfl, rfl, rfl, rfl, rfl⟩
  have hrun := Run.of_exec hexec
  have hnonnull : Throughout (simulationStep permissiveS4u) NonNullAddress
      (Simulation.spawn permissiveS4u [{ actorId := 2, socket := some 10 }]) oneCommEvents :=
    Throughout.of_check (by decide +kernel)
  have hnothing := unknown_refused_iff hrun hnonnull hcrashed
    (.now 2 10 waitOnNothing hcurrent hfind rfl) (Or.inl ⟨_, List.mem_cons_self, hcv⟩)
  have hany := unknown_refused_iff hrun hnonnull hcrashed
    (.now 2 10 waitOnUnknown hcurrent hfind rfl)
    (Or.inl ⟨_, List.mem_cons_of_mem _ List.mem_cons_self, hcomm⟩)
  exact ⟨s, out, hrun, hnothing.1.mpr rfl, hany.2 rfl⟩

/-- The wait on any of several comms is not refused as the other decisions are. -/
theorem wait_on_unknown_not_refused :
    ∃ s out, Run (simulationStep permissiveS4u)
      (Simulation.spawn permissiveS4u [{ actorId := 2, socket := some 10 }]) oneCommEvents s out ∧
      Throughout (simulationStep permissiveS4u) FreshAddress
        (Simulation.spawn permissiveS4u [{ actorId := 2, socket := some 10 }]) oneCommEvents ∧
      Dispatches s (.decision waitOnUnknown) 2 waitOnUnknown ∧ DesignatesUnknown s waitOnUnknown ∧
      s.crashed = false ∧ ¬RefusedBy s (.decision waitOnUnknown) 2 waitOnUnknown := by
  obtain ⟨s, out, t, trace, hexec, hcurrent, hfind, hcomm, hcrashed, hstep, hended⟩ : ∃ s out t trace,
      exec (simulationStep permissiveS4u)
        (Simulation.spawn permissiveS4u [{ actorId := 2, socket := some 10 }]) oneCommEvents =
          some (s, out) ∧ s.current = some 2 ∧ s.actors.find 2 = some ⟨10, .reading⟩ ∧
      s.memory.entry (.comm 200) = none ∧ s.crashed = false ∧
      simulationStep permissiveS4u s (.decision waitOnUnknown) = some (t, trace) ∧
      t.current = none := ⟨_, _, _, _, rfl, rfl, rfl, rfl, rfl, rfl, rfl⟩
  refine ⟨s, out, Run.of_exec hexec, Throughout.of_check (by decide +kernel),
    .now 2 10 waitOnUnknown hcurrent hfind rfl,
    Or.inl ⟨_, List.mem_cons_of_mem _ List.mem_cons_self, hcomm⟩, hcrashed, ?_⟩
  rintro ⟨actor, u, -, hstep', -, -, hreads⟩
  rw [hstep] at hstep'
  cases hstep'
  rw [hended] at hreads
  cases hreads

end RemoteSimgrid
