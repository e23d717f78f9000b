import RemoteSimgrid.SimulationTurns
import RemoteSimgrid.SimgridRendezvous

/-! The operations that the server applies to comms, against those that the decisions of the clients
name. They are the same, but for a cancel of a comm that exists: its handler starts the comm. -/

namespace RemoteSimgrid

open Machine Pb

variable {K : S4u} {s t : Simulation K} {event : SimEvent K} {out : List SimOutput}

/-- The operations of S4U on a comm that exists. -/
inductive CommOperation where
  | start
  | waitFor
  | test
  | waitAnyFor
  | cancel
  deriving DecidableEq

/-- The operations on comms that the server asks SimGrid for with a call. -/
def S4uCall.operations : S4uCall → List (CommOperation × Address)
  | .commStart comm => [(.start, comm)]
  | .commWaitFor comm _ => [(.waitFor, comm)]
  | .commTest comm => [(.test, comm)]
  | .commWaitAnyFor comms _ => comms.map fun comm => (.waitAnyFor, comm)
  | _ => []

def Outcome.operations : Outcome → List (CommOperation × Address)
  | .call c _ => c.operations
  | _ => []

/-- The comm that is stored under an address. -/
def Memory.commAt (m : Memory) (address : Address) : Option Address :=
  (m.store.comms.find address).map (·.comm)

/-- The operations on stored comms that a decision names. -/
def Pb.DecisionType.operations (m : Memory) : DecisionType → List (CommOperation × Address)
  | .commWaitFor wait => (m.commAt wait.comm.address).toList.map fun comm => (.waitFor, comm)
  | .commCancel comm => (m.commAt comm.address).toList.map fun comm => (.cancel, comm)
  | .commTest comm => (m.commAt comm.address).toList.map fun comm => (.test, comm)
  | .commWaitAnyFor wait =>
      if ∀ comm ∈ wait.comms, (m.commAt comm.address).isSome then
        (wait.comms.filterMap fun comm => m.commAt comm.address).map fun comm => (.waitAnyFor, comm)
      else []
  | _ => []

/-- The operations of the call that an actor is in. -/
def ActorPoint.operations : ActorPoint → List (CommOperation × Address)
  | .calling call _ => call.operations
  | _ => []

def ActorPoint.isCalling : ActorPoint → Bool
  | .calling _ _ => true
  | _ => false

/-- The operations that a step asks SimGrid for in the name of an actor. -/
def asked (s t : Simulation K) (p : Pid) : List (CommOperation × Address) :=
  match t.point p with
  | some point => if (s.point p).any ActorPoint.isCalling then [] else point.operations
  | none => []

/-- The operations that the decision which a step dispatches names. -/
def named (s : Simulation K) (event : SimEvent K) (p : Pid) : List (CommOperation × Address) :=
  match dispatching s event with
  | some (q, d) => if q = p then d.type.operations s.memory else []
  | none => []

/-- The comm that a call starts. -/
def S4uCall.started : S4uCall → S4uReturn → Option Address
  | .mailboxPutAsync _ _ _, .address comm => some comm
  | .mailboxGetAsync _ _, .address comm => some comm
  | .commStart comm, _ => some comm
  | _, _ => none

/-- No decision to cancel a comm of the store is dispatched. -/
def CancelsNothing (s : Simulation K) (event : SimEvent K) : Prop :=
  ∀ p d c, Dispatches s event p d → d.type = .commCancel c → s.memory.entry (.comm c.address) = none

/-- After the cancel of a comm that is pending, this comm is never reported as completed. -/
def CancelsHold (pending : K.State → Address → Prop) (s : Simulation K) (events : List (SimEvent K)) :
    Prop :=
  ∀ first event second event' rest t u trace trace' p d c e,
    events = first ++ event :: second ++ event' :: rest → Run (simulationStep K) s first t trace →
    Run (simulationStep K) s (first ++ event :: second) u trace' →
    Dispatches t event p d → d.type = .commCancel c → t.memory.entry (.comm c.address) = some e →
    pending t.kernel e.object → u.memory.entry (.comm c.address) = some e →
    ∀ q ret call frame, event' = .serve q ret → u.point q = some (.calling call frame) →
      call.completed ret ≠ some e.object

/-- The server operates on comms as the decisions name it: each step asks for the operations that its
decision names, a comm is started by the call that creates it and never again, and what is canceled is
not delivered. -/
structure OperatesAsNamed (pending : K.State → Address → Prop) (s : Simulation K)
    (events : List (SimEvent K)) : Prop where
  named : EveryStep (simulationStep K) (fun s event t _ => ∀ p, asked s t p = named s event p) s events
  started : EveryStep (simulationStep K)
    (fun s event _ _ => ∀ p ret call frame comm, event = .serve p ret →
      s.point p = some (.calling call frame) → call.started ret = some comm →
      s.memory.entry (.comm comm) = none) s events
  canceled : CancelsHold pending s events

/-! ### The operations of one dispatch -/

theorem operations_of_unknown {type : DecisionType} {m : Memory} {h : Handle}
    (hmem : h ∈ type.handles) (hnone : m.entry h = none) : type.operations m = [] := by
  have hcomm : ∀ {address : Address}, h = .comm address → m.commAt address = none := by
    rintro address rfl
    rw [Memory.commAt, Option.map_eq_none_iff.mp hnone, Option.map_none]
  cases type with
  | commWaitFor wait =>
      rw [DecisionType.operations, hcomm (List.mem_singleton.mp hmem)]
      rfl
  | commCancel comm =>
      rw [DecisionType.operations, hcomm (List.mem_singleton.mp hmem)]
      rfl
  | commTest comm =>
      rw [DecisionType.operations, hcomm (List.mem_singleton.mp hmem)]
      rfl
  | commWaitAnyFor wait =>
      obtain ⟨comm, hin, heq⟩ := List.mem_map.mp hmem
      rw [DecisionType.operations, if_neg]
      intro hknown
      have hsome := hknown comm hin
      rw [hcomm heq.symm] at hsome
      cases hsome
  | _ => rfl

theorem operations_of_released {type : DecisionType} {m : Memory} {h : Handle}
    (hreleased : type.released = some h) : type.operations m = [] := by
  cases type <;> first | rfl | cases hreleased

theorem operations_of_plain {type : DecisionType} {m : Memory} (hplain : type.plain) :
    type.operations m = [] := by
  cases type <;> first | rfl | cases hplain

theorem operations_of_lockWait {type : DecisionType} {m : Memory} {x : Address × Address}
    (hwait : type.lockWait = some x) : type.operations m = [] := by
  cases type <;> first | rfl | cases hwait

theorem S4uCall.operations_of_plain {call : S4uCall} (hplain : call.plain) : call.operations = [] := by
  cases call <;> first | rfl | cases hplain

theorem lookupComms_operations {m : Memory} {comms : List Comm} {found : List (Iterator × Address)}
    (h : lookupComms m comms = .ok found) :
    (∀ comm ∈ comms, (m.commAt comm.address).isSome) ∧
      (comms.filterMap fun comm => m.commAt comm.address) = found.map Prod.snd := by
  induction comms generalizing found with
  | nil =>
      cases h
      exact ⟨nofun, rfl⟩
  | cons comm comms ih =>
      simp only [lookupComms] at h
      split at h
      · cases h
      · rename_i stored hfind
        have hcomm : m.commAt comm.address = some stored.comm := by
          rw [Memory.commAt, hfind, Option.map_some]
        split at h
        · cases h
        · rename_i rest hrest
          cases h
          obtain ⟨hknown, hpointers⟩ := ih hrest
          refine ⟨?_, ?_⟩
          · intro comm' hmem
            rcases List.mem_cons.mp hmem with rfl | hmem
            · rw [hcomm]
              rfl
            · exact hknown comm' hmem
          · simp only [List.filterMap_cons, hcomm, hpointers, List.map_cons]

/-- A handler asks for what its decision names, if this is not the cancel of a stored comm. -/
theorem Switched.operations {d : Decision} {m : Memory} {segment : Segment} (h : Switched d m segment)
    (hcancel : ∀ c, d.type = .commCancel c → m.entry (.comm c.address) = none) :
    segment.outcome.operations = d.type.operations m := by
  cases h with
  | failed handle hmem hnone => rw [operations_of_unknown hmem hnone]; rfl
  | freed handle e hreleased _ _ => rw [operations_of_released hreleased]; rfl
  | decreased handle e hreleased _ _ => rw [operations_of_released hreleased]; rfl
  | plainAnswered ack hplain _ _ => rw [operations_of_plain hplain]; rfl
  | plainCalled call frame hplain hcall _ =>
      rw [operations_of_plain hplain]
      exact S4uCall.operations_of_plain hcall
  | commWaitFor wait comm hd hfind =>
      rw [hd, DecisionType.operations, Memory.commAt, hfind]
      rfl
  | commCancel c comm hd hfind =>
      have hnone := hcancel c hd
      rw [Memory.entry, hfind] at hnone
      cases hnone
  | commTest c comm hd hfind =>
      rw [hd, DecisionType.operations, Memory.commAt, hfind]
      rfl
  | commWaitAnyFor wait comms hd hlookup =>
      obtain ⟨hknown, hpointers⟩ := lookupComms_operations hlookup
      rw [hd, DecisionType.operations, if_pos hknown, hpointers]
      rfl
  | unknownComm wait e hd herror =>
      rw [hd, DecisionType.operations, if_neg]
      · rfl
      · intro hknown
        obtain ⟨comm, hmem, hnone⟩ := lookupComms_error herror
        have hsome := hknown comm hmem
        rw [Memory.commAt, Option.map_eq_none_iff.mp hnone] at hsome
        cases hsome
  | lockWaited c x cv mutex call frame hwait _ _ hframe =>
      rw [operations_of_lockWait hwait]
      rcases hframe with ⟨-, rfl⟩ | ⟨-, -, rfl⟩ | ⟨-, -, rfl⟩ <;> rfl
  | notified c cv call hd _ =>
      rcases hd with ⟨hd, rfl⟩ | ⟨hd, rfl⟩ <;> rw [hd] <;> rfl
  | quit _ hd => rw [hd]; rfl
  | unset hd => rw [hd]; rfl
  | unknownHost _ hd => rw [hd]; rfl
  | actorCreate _ hd => rw [hd]; rfl
  | mailboxPut _ hd => rw [hd]; rfl
  | mailboxPutAsync _ hd => rw [hd]; rfl
  | mailboxGet _ hd => rw [hd]; rfl
  | mailboxGetAsync _ hd => rw [hd]; rfl
  | mutexCreate _ hd => rw [hd]; rfl
  | mutexLock _ _ hd _ => rw [hd]; rfl
  | mutexUnlock _ _ hd _ => rw [hd]; rfl
  | mutexTryLock _ _ hd _ => rw [hd]; rfl
  | mutexTryLockFailed _ hd _ => rw [hd]; rfl
  | conditionVariableCreate _ hd => rw [hd]; rfl

/-! ### The operations of one step -/

theorem asked_of_point {p : Pid} {point : ActorPoint} (hpoint : t.point p = some point)
    (h : point.operations = []) : asked s t p = [] := by
  simp only [asked, hpoint, h, ite_self]

theorem asked_of_same {p : Pid} (h : t.point p = s.point p) : asked s t p = [] := by
  unfold asked
  rw [h]
  split
  · rename_i point hpoint
    cases point with
    | calling call frame => rw [hpoint]; rfl
    | _ => exact ite_self _
  · rfl

theorem operations_point (outcome : Outcome) : outcome.point.operations = outcome.operations := by
  cases outcome with
  | finished ack sendAck quitReceived => cases quitReceived <;> rfl
  | _ => rfl

/-- What a step that runs an actor asks for. -/
theorem Ran.asked {p : Pid} {socket : Socket} {segment : Segment} (h : Ran s event p socket segment)
    (q : Pid) :
    asked s (({ s with ready := event.remaining s.ready }).conclude p socket segment).1 q =
      if q = p then segment.outcome.operations else [] := by
  by_cases hq : q = p
  · subst hq
    have hcalling : (s.point q).any ActorPoint.isCalling = false := by
      cases h with
      | firstYield _ actor _ _ hfind hpoint => rw [Simulation.point, hfind, Option.map_some, hpoint]; rfl
      | resumed _ actor _ _ _ _ hfind hpoint _ =>
          rw [Simulation.point, hfind, Option.map_some, hpoint]; rfl
      | decided _ _ _ _ hfind _ => rw [Simulation.point, hfind]; rfl
      | thinking _ _ _ _ hfind _ => rw [Simulation.point, hfind]; rfl
      | badThinkTime _ _ _ _ _ hfind _ => rw [Simulation.point, hfind]; rfl
      | readFailed _ _ _ _ hfind => rw [Simulation.point, hfind]; rfl
      | childAccepted _ _ _ _ _ hfind => rw [Simulation.point, hfind]; rfl
      | badCanConnectAck _ _ _ _ _ _ _ hfind _ => rw [Simulation.point, hfind]; rfl
    simp only [RemoteSimgrid.asked, h.points, if_pos, hcalling, Bool.false_eq_true, if_false,
      operations_point]
  · rw [if_neg hq]
    exact asked_of_same (by rw [h.points, if_neg hq])

theorem dispatched_asked {p : Pid} {d : Decision} (hstep : simulationStep K s event = some (t, out))
    (hd : Dispatches s event p d) (q : Pid) :
    asked s t q = if q = p then (dispatch K s.kernel p d s.memory).outcome.operations else [] := by
  obtain ⟨actor, hfind, heq⟩ := simulationStep_dispatch (simulationStep_cases hstep).1 hd
  rw [hstep, Option.some.injEq] at heq
  cases heq
  cases hd with
  | now _ socket _ hcurrent hfind' hthink =>
      rw [hfind', Option.some.injEq] at hfind
      subst hfind
      exact (Ran.decided p socket d hcurrent hfind' hthink).asked q
  | later _ actor' _ hcurrent hfind' hpoint =>
      rw [hfind', Option.some.injEq] at hfind
      subst hfind
      exact (Ran.resumed p actor' .done (.thinkTime d) _ hcurrent hfind' hpoint
        (.dispatched d rfl rfl)).asked q

/-- An actor that returns from a call asks for operations only by dispatching a decision. -/
theorem Resumed.dispatches {k : K.State} {self : Pid} {socket : Socket} {frame : Frame}
    {ret : S4uReturn} {m : Memory} {segment : Segment} (h : Resumed K k self socket frame ret m segment)
    (hoperations : segment.outcome.operations ≠ []) : ∃ d, frame = .thinkTime d ∧ ret = .done := by
  cases h with
  | dispatched d hframe hret => exact ⟨d, hframe, hret⟩
  | _ => exact absurd rfl hoperations

/-- A step that dispatches no decision asks for no operation. -/
theorem asked_of_not_dispatching {p : Pid} (hstep : SimStep s event t out)
    (hnone : dispatching s event = none) : asked s t p = [] := by
  have hdispatches : ∀ q d, ¬Dispatches s event q d := by
    intro q d hd
    rw [hd.eq_dispatching] at hnone
    cases hnone
  cases hstep with
  | ran _ q socket segment hran =>
      rw [hran.asked]
      split
      · by_contra hoperations
        cases hran with
        | resumed _ actor ret frame _ hcurrent hfind hreturned hresumed =>
            obtain ⟨d, rfl, rfl⟩ := hresumed.dispatches hoperations
            exact hdispatches q d (.later q actor d hcurrent hfind hreturned)
        | decided _ _ d hcurrent hfind hthink =>
            exact hdispatches q d (.now q socket d hcurrent hfind hthink)
        | _ => exact hoperations rfl
      · rfl
  | started q actor _ hfind hspawned =>
      have hpoint := point_setPoint ({ s with ready := s.ready.erase q }) q p .reading
      by_cases hp : p = q
      · subst hp
        rw [if_pos rfl] at hpoint
        refine asked_of_point (hpoint.trans ?_) (show ActorPoint.operations .reading = [] from rfl)
        change (s.point p).map _ = _
        rw [Simulation.point, hfind]
        rfl
      · exact asked_of_same (hpoint.trans (if_neg hp))
  | served q before call frame ret kernel _ _ hfind _ _ hserve =>
      cases hq : t.actors.find p with
      | none => rw [asked, point_eq_none.mpr hq]
      | some actor =>
          have hpoint : t.point p = some actor.point := by rw [Simulation.point, hq, Option.map_some]
          rcases serve_find hserve hfind hq with ⟨-, heq⟩ | ⟨-, hsame | ⟨-, connectAck, heq⟩⟩
          · exact asked_of_point hpoint (by rw [heq]; rfl)
          · exact asked_of_same (by rw [hpoint, Simulation.point, hsame, Option.map_some])
          · exact asked_of_point hpoint (by rw [heq]; rfl)
  | progressed => exact asked_of_same rfl
  | progressFailed => exact asked_of_same rfl
  | round => exact asked_of_same rfl
  | connected q socket connectAck socket' _ hfind =>
      by_cases hp : p = q
      · subst hp
        refine asked_of_point ?_ (show ActorPoint.operations .reading = [] from rfl)
        rw [Simulation.point, UnorderedMap.find_modify_self, hfind]
        rfl
      · refine asked_of_same ?_
        rw [Simulation.point, Simulation.point, UnorderedMap.find_modify_of_ne _ _ hp]
  | connectFailed q socket connectAck msg _ hfind _ =>
      have hpoint := point_setPoint s q p .terminated
      by_cases hp : p = q
      · subst hp
        have hbefore : s.point p = some (.waitingConnectAck connectAck) := by
          rw [Simulation.point, hfind, Option.map_some]
        rw [if_pos rfl, hbefore] at hpoint
        exact asked_of_point hpoint rfl
      · exact asked_of_same (hpoint.trans (if_neg hp))

/-- A step that cancels no stored comm asks for what is named. -/
theorem asked_eq_named (hstep : simulationStep K s event = some (t, out))
    (hguard : CancelsNothing s event) (p : Pid) : asked s t p = named s event p := by
  obtain ⟨hcrashed, hcases⟩ := simulationStep_cases hstep
  rcases hdispatching : dispatching s event with _ | ⟨q, d⟩
  · rw [asked_of_not_dispatching hcases hdispatching, named, hdispatching]
  · have hd := dispatches_of_dispatching hdispatching
    obtain ⟨segment, hswitched, hdispatch⟩ := dispatch_eq K s.kernel q d s.memory
    have hoperations := hswitched.operations (fun c hcancel => hguard q d c hd hcancel)
    rw [dispatched_asked hstep hd p, named, hdispatching, hdispatch]
    exact if_congr eq_comm hoperations rfl

/-- The handler of a cancel starts the comm. -/
theorem asked_ne_named (hstep : simulationStep K s event = some (t, out))
    (hguard : ¬CancelsNothing s event) : ∃ p, asked s t p ≠ named s event p := by
  simp only [CancelsNothing, not_forall] at hguard
  obtain ⟨p, d, c, hd, hcancel, hstored⟩ := hguard
  cases hfind : s.memory.store.comms.find c.address with
  | none => exact absurd (entry_comm_eq_none hfind) hstored
  | some comm =>
      refine ⟨p, ?_⟩
      have hsegment : switchDecision K s.kernel p d s.memory =
          .call s.memory (.commStart comm.comm) .acknowledge := by
        simp only [switchDecision, Decision.typeCase, hcancel, onComm, Decision.commCancel, hfind]
      rw [dispatched_asked hstep hd p, if_pos rfl, dispatch, hsegment, named, hd.eq_dispatching]
      simp only [if_true, hcancel, DecisionType.operations, Memory.commAt, hfind]
      intro heq
      have hfirst := congrArg Prod.fst (List.cons.inj heq).1
      cases hfirst

theorem fst_ne_start {p : Pid} {x : CommOperation × Address} (hx : x ∈ named s event p) :
    x.1 ≠ .start := by
  unfold named at hx
  split at hx
  · rename_i q d _
    split at hx
    · cases htype : d.type <;> rw [htype] at hx <;>
        simp only [DecisionType.operations, List.mem_map, List.not_mem_nil] at hx
      case commWaitAnyFor wait =>
        split at hx
        · obtain ⟨comm, -, rfl⟩ := List.mem_map.mp hx
          nofun
        · cases hx
      all_goals
        obtain ⟨comm, -, rfl⟩ := hx
        nofun
    · cases hx
  · cases hx

/-! ### Whole runs -/

/-- No actor is in a call that starts a comm again. -/
def NoStart (s : Simulation K) : Prop :=
  ∀ p comm frame, s.point p ≠ some (.calling (.commStart comm) frame)

theorem NoStart.step (h : NoStart s) (hguard : CancelsNothing s event)
    (hstep : simulationStep K s event = some (t, out)) : NoStart t := by
  intro p comm frame hcalling
  obtain ⟨actor, hfind, hpoint⟩ := point_eq_some.mp hcalling
  cases (simulationStep_cases hstep).2.moved hfind with
  | stayed hs => exact h p comm frame (point_eq_some.mpr ⟨actor, hs, hpoint⟩)
  | ran before socket segment _ hran ht _ =>
      have hasked := asked_eq_named hstep hguard p
      rw [ht, hran.asked, if_pos rfl, ← operations_point] at hasked
      rw [ht, hran.points, if_pos rfl, Option.some.injEq] at hcalling
      rw [hcalling] at hasked
      have hstart : (CommOperation.start, comm) ∈ named s event p := by
        rw [← hasked]
        exact List.mem_singleton_self _
      exact fst_ne_start hstart rfl
  | started before _ _ _ heq => subst heq; cases hpoint
  | served before call frame' ret _ _ _ heq => subst heq; cases hpoint
  | spawned q before name host connectAck frame' _ _ _ _ heq => subst heq; cases hpoint
  | connected before connectAck socket _ _ _ heq => subst heq; cases hpoint
  | connectFailed before _ heq => subst heq; cases hpoint

section

variable {connections : List ActorConnection} {events : List (SimEvent K)}

theorem NoStart.spawn : NoStart (Simulation.spawn K connections) := by
  intro p comm frame hcalling
  obtain ⟨actor, hfind, hpoint⟩ := point_eq_some.mp hcalling
  rw [find_spawn hfind] at hpoint
  cases hpoint

/-- The server operates on the comms as the decisions name it exactly in the runs that cancel no comm
of the store. -/
theorem operatesAsNamed_iff (pending : K.State → Address → Prop)
    (hrun : Run (simulationStep K) (Simulation.spawn K connections) events s out)
    (hfresh : Throughout (simulationStep K) FreshAddress (Simulation.spawn K connections) events) :
    OperatesAsNamed pending (Simulation.spawn K connections) events ↔
      Throughout (simulationStep K) CancelsNothing (Simulation.spawn K connections) events := by
  have hiff := everyStep_iff_throughout (G := CancelsNothing)
    (P := fun s event t _ => ∀ p, asked s t p = named s event p) hrun
    (fun before t first event v out _ hstep => by
      constructor
      · intro hnamed
        by_contra hguard
        obtain ⟨p, hne⟩ := asked_ne_named hstep hguard
        exact hne (hnamed p)
      · exact fun hguard p => asked_eq_named hstep hguard p)
  constructor
  · exact fun h => hiff.mp h.named
  · intro hguard
    refine ⟨hiff.mpr hguard, ?_, ?_⟩
    · intro before event after t trace u out heq hbefore hstep
      rintro p ret call frame comm rfl hpoint hstarted
      subst heq
      have hnostart : NoStart t :=
        hbefore.guarded_invariant (P := fun _ s _ => NoStart s) hguard.before NoStart.spawn
          (fun _ h hguard hstep => h.step hguard hstep)
      have hstore := storeInv_run hbefore hfresh.before
      have hnew := hfresh before _ after t trace rfl hbefore
      cases call with
      | commStart c => exact absurd hpoint (hnostart p c frame)
      | mailboxPutAsync mbox payload size =>
          cases ret with
          | address a =>
              cases hstarted
              exact hstore.owned.entry_eq_none _ hnew.2.1
          | _ => cases hstarted
      | mailboxGetAsync mbox data =>
          cases ret with
          | address a =>
              cases hstarted
              exact hstore.owned.entry_eq_none _ hnew.2.1
          | _ => cases hstarted
      | _ => cases hstarted
    · intro first event second event' rest t u trace trace' p d c e heq hfirst _ hd hcancel he
      have hnone := hguard first event (second ++ event' :: rest) t trace
        (by rw [heq, List.append_assoc, List.cons_append]) hfirst p d c hd hcancel
      rw [hnone] at he
      cases he

end

/-- Two actors, of which one sends a message to the other. -/
def twoActors : Simulation permissiveS4u :=
  Simulation.spawn permissiveS4u [{ actorId := 2, socket := some 10 }, { actorId := 3, socket := some 11 }]

/-- The comm of the sender is pending when the sender cancels it. -/
def pendingEvents : List (SimEvent permissiveS4u) :=
  [.schedule 2, .decision { type := .mailboxPutAsync { mailbox := { name := "mailbox" }, data := [1] } },
    .serve 2 (.address 100), .schedule 2]

/-- The cancel is acknowledged; the receiver gets its message. -/
def canceledEvents : List (SimEvent permissiveS4u) :=
  pendingEvents ++ .decision { type := .commCancel { address := 100 } } ::
    [.serve 2 .done, .schedule 2, .decision { type := .thisActorYield true }, .schedule 3,
      .decision { type := .mailboxGetAsync { name := "mailbox" } }, .serve 3 (.address 200),
      .schedule 3, .decision { type := .commWaitFor { comm := { address := 200 }, timeout := -1 } },
      .progress [(3, 1)], .serve 3 .done, .schedule 3]

theorem operatesAsNamed_iff_canceled :
    OperatesAsNamed (fun _ _ => True) twoActors canceledEvents ↔
      Throughout (simulationStep permissiveS4u) CancelsNothing twoActors canceledEvents := by
  have hexec : (exec (simulationStep permissiveS4u) twoActors canceledEvents).any
      (fun result => !result.1.crashed) = true := by
    decide +kernel
  obtain ⟨s, out, hrun, -⟩ := Run.of_check hexec
  exact operatesAsNamed_iff (fun _ _ => True) hrun (Throughout.of_check (by decide +kernel))

/-- A sender cancels its comm, which is started a second time. The sender gets a success, and the
message is delivered. -/
theorem canceled_comm_is_started :
    ∃ s out, Run (simulationStep permissiveS4u) twoActors canceledEvents s out ∧
      Throughout (simulationStep permissiveS4u) FreshAddress twoActors canceledEvents ∧
      acks out =
        [(2, { success := true, data := .mailboxPutAsync { address := 100 } }),
          (2, { success := true }), (3, { success := true, data := .mailboxGetAsync { address := 200 } }),
          (3, { success := true, data := .commWaitFor { data := [1] } })] ∧
      ∀ pending, ¬OperatesAsNamed pending twoActors canceledEvents := by
  have hexec : (exec (simulationStep permissiveS4u) twoActors canceledEvents).any
      (fun result => decide (acks result.2 =
        [(2, { success := true, data := .mailboxPutAsync { address := 100 } }),
          (2, { success := true }), (3, { success := true, data := .mailboxGetAsync { address := 200 } }),
          (3, { success := true, data := .commWaitFor { data := [1] } })])) = true := by
    decide +kernel
  obtain ⟨s, out, hrun, hcheck⟩ := Run.of_check hexec
  refine ⟨s, out, hrun, Throughout.of_check (by decide +kernel), of_decide_eq_true hcheck, ?_⟩
  intro pending hnamed
  obtain ⟨t, trace, hexec', hcurrent, hfind, hstored, hcrashed⟩ : ∃ t trace,
      exec (simulationStep permissiveS4u) twoActors pendingEvents = some (t, trace) ∧
      t.current = some 2 ∧ t.actors.find 2 = some ⟨10, .reading⟩ ∧
      t.memory.entry (.comm 100) = some ⟨2, 100, 1⟩ ∧ t.crashed = false :=
    ⟨_, _, rfl, rfl, rfl, rfl, rfl⟩
  let cancel : Decision := { type := .commCancel { address := 100 } }
  have hd : Dispatches t (.decision cancel) 2 cancel := .now 2 10 cancel hcurrent hfind rfl
  have hguard : ¬CancelsNothing t (.decision cancel) := by
    intro hguard
    have hnone := hguard 2 cancel { address := 100 } hd rfl
    rw [hstored] at hnone
    cases hnone
  obtain ⟨actor, -, hstep⟩ := simulationStep_dispatch hcrashed hd
  obtain ⟨p, hne⟩ := asked_ne_named hstep hguard
  exact hne (hnamed.named pendingEvents (.decision cancel) _ t trace _ _ rfl (Run.of_exec hexec')
    hstep p)

end RemoteSimgrid
