import RemoteSimgrid.SimulationSuspended

/-! What an actor of the server exchanges with its client and tells the command thread: the decisions
it reads, the exceptions that S4U throws at it, the acknowledgments it writes and the message it
pushes when it ends. -/

namespace RemoteSimgrid

open Machine Pb

inductive Exchange where
  | asked (decision : Decision)
  | thrown (exception : S4uReturn)
  | answered (ack : DecisionAck)
  | told (msg : InterthreadMessage)
  deriving DecidableEq

/-- A decision that has been acknowledged, with the exception that its handler caught. -/
structure Handled where
  decision : Decision
  caught : Option S4uReturn
  ack : DecisionAck

namespace Handled

def exchanges (h : Handled) : List Exchange :=
  .asked h.decision :: (h.caught.toList.map .thrown ++ [.answered h.ack])

/-- The acknowledgment fits the decision, and is a failure after an exception, unless the exception is
the timeout that a `wait_for` reports. -/
structure Fits (h : Handled) : Prop where
  answers : h.decision.type.Answers h.ack
  failed : ∀ exception, h.caught = some exception →
    h.ack = { success := false } ∨
      exception = .timeoutException ∧ (∃ wait, h.decision.type = .commWaitFor wait) ∧
        h.ack = { success := true, data := .commWaitFor { timeoutReached := true } }

end Handled

/-! ### The exchanges of a step -/

section

variable {K : S4u}

/-- The actor that a step runs. -/
def SimEvent.runs (s : Simulation K) : SimEvent K → Option Pid
  | .schedule p => some p
  | .serve _ _ | .progress _ | .round => none
  | .decision _ | .readError _ | .canConnectAck _ | .connectAck _ => s.current

/-- What the actor has received when it starts to run. -/
def SimEvent.receives (s : Simulation K) : SimEvent K → List Exchange
  | .decision d => [.asked d]
  | .schedule p =>
      match s.point p with
      | some (.returned ret _) => if ret.isException then [.thrown ret] else []
      | _ => []
  | _ => []

/-- The acknowledgments, and the messages by which an actor announces its end. -/
def SimOutput.exchange : SimOutput → Option Exchange
  | .writeAck _ _ ack => some (.answered ack)
  | .push _ (.actorQuit socket) => some (.told (.actorQuit socket))
  | .push _ (.simulationAborted reason) => some (.told (.simulationAborted reason))
  | _ => none

def SimEvent.exchanges (s : Simulation K) (event : SimEvent K) (out : List SimOutput) :
    List (Pid × Exchange) :=
  match event.runs s with
  | some p => (event.receives s ++ out.filterMap SimOutput.exchange).map fun e => (p, e)
  | none => []

/-- The machine of the SimGrid thread with the exchanges as its outputs. -/
def exchangeStep (K : S4u) (s : Simulation K) (event : SimEvent K) :
    Option (Simulation K × List (Pid × Exchange)) :=
  match simulationStep K s event with
  | some (t, out) => some (t, event.exchanges s out)
  | none => none

theorem exchangeStep_eq_some {s t : Simulation K} {event : SimEvent K} {out : List (Pid × Exchange)}
    (h : exchangeStep K s event = some (t, out)) :
    ∃ all, simulationStep K s event = some (t, all) ∧ out = event.exchanges s all := by
  unfold exchangeStep at h
  split at h
  · rename_i t' all hstep
    cases h
    exact ⟨all, hstep, rfl⟩
  · cases h

end

/-- The exchanges of one actor. -/
def exchangesOf (p : Pid) (trace : List (Pid × Exchange)) : List Exchange :=
  trace.filterMap fun e => if e.1 = p then some e.2 else none

theorem exchangesOf_append (p : Pid) (trace out : List (Pid × Exchange)) :
    exchangesOf p (trace ++ out) = exchangesOf p trace ++ exchangesOf p out :=
  List.filterMap_append

theorem exchangesOf_map (p q : Pid) (exchanges : List Exchange) :
    exchangesOf p (exchanges.map fun e => (q, e)) = if q = p then exchanges else [] := by
  unfold exchangesOf
  induction exchanges with
  | nil => simp
  | cons e exchanges ih =>
      rw [List.map_cons]
      by_cases h : q = p
      · simp [h]
      · simp [h]

/-! ### Frames and decisions -/

/-- The member that the handler sets in its acknowledgment after the call. -/
def Frame.sets : Frame → DataCase
  | .actorCreate _ _ => .kActorCreate
  | .commWaitFor _ => .kCommWaitFor
  | .commTest _ => .kCommTest
  | .commWaitAnyFor _ _ => .kCommWaitAnyFor
  | .mailboxPutAsync => .kMailboxPutAsync
  | .mailboxGet => .kMailboxGet
  | .mailboxGetAsync _ => .kMailboxGetAsync
  | .mutexCreate => .kMutexCreate
  | .mutexTryLock => .kMutexTryLock
  | .conditionVariableCreate => .kConditionVariableCreate
  | .conditionVariableWaitUntil _ _ _ => .kConditionVariableWaitUntil
  | .conditionVariableWaitFor _ _ _ => .kConditionVariableWaitFor
  | _ => .dataNotSet

/-- The `catch` clauses around the call. -/
def Frame.catches : Frame → S4uReturn → Bool
  | .catchHostFailure, .hostFailureException => true
  | .commWaitFor _, .timeoutException | .commWaitFor _, .cancelException => true
  | _, _ => false

/-- The frame belongs to the handler of the decision. -/
structure Frame.Handles (frame : Frame) (d : Decision) : Prop where
  ofHandler : frame.ofLoop = false
  reads : d.type.stubReads = some frame.sets

/-- What the handler of a decision may come to, and what it has written by then. -/
inductive Concludes (d : Decision) (caught : Option S4uReturn) : Segment → Prop
  | suspended (m : Memory) (out : List SimOutput) (call : S4uCall) (frame : Frame) :
      caught = none → frame.Handles d → out.filterMap SimOutput.exchange = [] →
      Concludes d caught { memory := m, out := out, outcome := .call call frame }
  | waiting (m : Memory) (out : List SimOutput) (canConnectAck : Queue) (child : Pid) :
      caught = none → d.type.stubReads = some .kActorCreate →
      out.filterMap SimOutput.exchange = [] →
      Concludes d caught
        { memory := m, out := out, outcome := .waitCanConnectAck canConnectAck child }
  | answered (m : Memory) (out : List SimOutput) (ack : DecisionAck) (sendAck : Bool) :
      Handled.Fits ⟨d, caught, ack⟩ →
      out.filterMap SimOutput.exchange = (if sendAck then [] else [.answered ack]) →
      Concludes d caught { memory := m, out := out, outcome := .finished ack sendAck false }
  | quit (m : Memory) (out : List SimOutput) (ack : DecisionAck) (value : Bool) :
      caught = none → d.type = .quit value → out.filterMap SimOutput.exchange = [] →
      Concludes d caught { memory := m, out := out, outcome := .finished ack false true }
  | raised (m : Memory) (out : List SimOutput) (e : Error) : caught = none →
      out.filterMap SimOutput.exchange = [] →
      Concludes d caught { memory := m, out := out, outcome := .raised e }
  | undefined (m : Memory) (out : List SimOutput) : caught = none →
      out.filterMap SimOutput.exchange = [] →
      Concludes d caught { memory := m, out := out, outcome := .undefinedBehaviour }

theorem Concludes.answer {d : Decision} {ack : DecisionAck} (m : Memory)
    (h : d.type.Answers ack) : Concludes d none (.answer m ack) :=
  .answered m [] ack true ⟨h, fun _ hcaught => by cases hcaught⟩ rfl

/-! ### The handlers -/

section

variable {K : S4u} {k : K.State} {self : Pid} {d : Decision} {m : Memory} {c : S4uCall} {f : Frame}

theorem onLock_frame {cv mutex : Address} {call : Address → Ptr → S4uCall}
    {frame : Iterator → Iterator → Ptr → Frame}
    (h : (onLock cv mutex m call frame).outcome = .call c f) :
    ∃ cv mutex lock, f = frame cv mutex lock := by
  unfold onLock at h
  split at h
  · cases h
    exact ⟨_, _, _, rfl⟩
  · cases h

/-- A decision that concerns no object and makes an S4U call has no result. -/
theorem stubReads_of_plain (hplain : d.type.plain)
    (h : (switchDecision K k self d m).outcome = .call c f) :
    d.type.stubReads = some .dataNotSet := by
  obtain ⟨thinkTime, type⟩ := d
  cases type with
  | thisActorExecute | thisActorSleepFor | thisActorSleepUntil | thisActorYield | actorJoin => rfl
  | hostByNameOrNull | mailboxEmpty | mailboxListen | mailboxReady => rfl
  | engineGetClock | hostCurrent => cases h
  | actorGetName actor =>
      simp only [switchDecision, Decision.typeCase] at h
      split at h <;> cases h
  | actorGetHost actor =>
      simp only [switchDecision, Decision.typeCase] at h
      split at h <;> cases h
  | _ => cases hplain

theorem handles_of_lockWait {x : Address × Address} (hwait : d.type.lockWait = some x)
    (h : (switchDecision K k self d m).outcome = .call c f) : f.Handles d := by
  obtain ⟨thinkTime, type⟩ := d
  cases type with
  | conditionVariableWait wait =>
      obtain ⟨cv, mutex, lock, rfl⟩ := onLock_frame h
      exact ⟨rfl, rfl⟩
  | conditionVariableWaitUntil wait =>
      obtain ⟨cv, mutex, lock, rfl⟩ := onLock_frame h
      exact ⟨rfl, rfl⟩
  | conditionVariableWaitFor wait =>
      obtain ⟨cv, mutex, lock, rfl⟩ := onLock_frame h
      exact ⟨rfl, rfl⟩
  | _ => cases hwait

/-- After the call the handler sets the member that the stub of its decision reads. -/
theorem switchDecision_handles (h : (switchDecision K k self d m).outcome = .call c f) :
    f.Handles d := by
  have hplain : d.type.plain → d.type.stubReads = some .dataNotSet := fun hd =>
    stubReads_of_plain hd h
  have hlock : ∀ {x}, d.type.lockWait = some x → f.Handles d := fun hd => handles_of_lockWait hd h
  have hother : ∀ {type : DecisionType}, d.type = type → type.stubReads = some f.sets →
      d.type.stubReads = some f.sets := fun hd h => hd ▸ h
  have hswitched : Switched d m (switchDecision K k self d m) := switchDecision_switched
  generalize switchDecision K k self d m = segment at h hswitched
  cases hswitched with
  | plainCalled call frame hd _ hframe =>
      cases h
      rcases hframe with rfl | rfl
      · exact ⟨rfl, hplain hd⟩
      · exact ⟨rfl, hplain hd⟩
  | lockWaited _ _ _ _ _ _ hd => exact hlock hd
  | notified _ _ _ hd =>
      cases h
      rcases hd with ⟨hd, -⟩ | ⟨hd, -⟩
      · exact ⟨rfl, hother hd rfl⟩
      · exact ⟨rfl, hother hd rfl⟩
  | actorCreate _ hd => cases h; exact ⟨rfl, hother hd rfl⟩
  | commWaitFor _ _ hd => cases h; exact ⟨rfl, hother hd rfl⟩
  | commCancel _ _ hd => cases h; exact ⟨rfl, hother hd rfl⟩
  | commTest _ _ hd => cases h; exact ⟨rfl, hother hd rfl⟩
  | commWaitAnyFor _ _ hd => cases h; exact ⟨rfl, hother hd rfl⟩
  | mailboxPut _ hd => cases h; exact ⟨rfl, hother hd rfl⟩
  | mailboxPutAsync _ hd => cases h; exact ⟨rfl, hother hd rfl⟩
  | mailboxGet _ hd => cases h; exact ⟨rfl, hother hd rfl⟩
  | mailboxGetAsync _ hd => cases h; exact ⟨rfl, hother hd rfl⟩
  | mutexCreate _ hd => cases h; exact ⟨rfl, hother hd rfl⟩
  | mutexLock _ _ hd => cases h; exact ⟨rfl, hother hd rfl⟩
  | mutexUnlock _ _ hd => cases h; exact ⟨rfl, hother hd rfl⟩
  | mutexTryLock _ _ hd => cases h; exact ⟨rfl, hother hd rfl⟩
  | conditionVariableCreate _ hd => cases h; exact ⟨rfl, hother hd rfl⟩
  | _ => cases h

theorem switchDecision_escaped (h : (switchDecision K k self d m).outcome = .escaped) :
    ∃ create, d.type = .actorCreate create ∧ K.hostByName k create.host.name = false := by
  have hswitched : Switched d m (switchDecision K k self d m) := switchDecision_switched
  have hcreate : ∀ create, d.type = .actorCreate create →
      K.hostByName k create.host.name = false := by
    intro create hd
    simp only [switchDecision, Decision.typeCase, hd, actorCreate, Decision.actorCreate] at h
    split at h
    · cases h
    · rename_i hname
      exact Bool.eq_false_iff.mpr hname
  generalize switchDecision K k self d m = segment at h hswitched
  cases hswitched with
  | unknownHost create hd => exact ⟨create, hd, hcreate create hd⟩
  | _ => cases h

theorem switchDecision_unknownHost {create : CreateActor} (hd : d.type = .actorCreate create)
    (hname : K.hostByName k create.host.name = false) :
    (switchDecision K k self d m).outcome = .escaped := by
  simp only [switchDecision, Decision.typeCase, hd, actorCreate, Decision.actorCreate, hname,
    Bool.false_eq_true, if_false]

theorem stubReads_of_handles {type : DecisionType} {h : Handle} (hmem : h ∈ type.handles) :
    ∃ member, type.stubReads = some member := by
  cases type with
  | quit | typeNotSet => cases hmem
  | _ => exact ⟨_, rfl⟩

theorem stubReads_of_released {type : DecisionType} {h : Handle} (hreleased : type.released = some h) :
    type.stubReads = some .dataNotSet := by
  cases type <;> first | rfl | cases hreleased

theorem Concludes.dispatched {segment : Segment} {caught : Option S4uReturn}
    (h : Concludes d caught segment) :
    Concludes d caught { segment with out := .dispatched self d :: segment.out } := by
  cases h with
  | suspended m out call frame hcaught hframe hout =>
      exact .suspended m _ call frame hcaught hframe hout
  | waiting m out canConnectAck child hcaught hd hout =>
      exact .waiting m _ canConnectAck child hcaught hd hout
  | answered m out ack sendAck hfits hout => exact .answered m _ ack sendAck hfits hout
  | quit m out ack value hcaught hd hout => exact .quit m _ ack value hcaught hd hout
  | raised m out e hcaught hout => exact .raised m _ e hcaught hout
  | undefined m out hcaught hout => exact .undefined m _ hcaught hout

/-- The handler of a decision concludes, unless it creates an actor on an unknown host. -/
theorem switchDecision_concludes
    (hhost : ∀ create, d.type = .actorCreate create → K.hostByName k create.host.name = true) :
    Concludes d none (switchDecision K k self d m) := by
  have hswitched : Switched d m (switchDecision K k self d m) := switchDecision_switched
  have hhandles : ∀ {c f}, (switchDecision K k self d m).outcome = .call c f → f.Handles d :=
    switchDecision_handles
  have hescaped : (switchDecision K k self d m).outcome ≠ .escaped := by
    intro h
    obtain ⟨create, hd, hname⟩ := switchDecision_escaped h
    rw [hhost create hd] at hname
    cases hname
  generalize switchDecision K k self d m = segment at hswitched hhandles hescaped
  cases hswitched with
  | quit value hd => exact .quit m [] _ value rfl hd rfl
  | plainAnswered ack _ _ hanswers => exact .answer m hanswers
  | unset => exact .raised m [] _ rfl rfl
  | unknownHost => exact absurd rfl hescaped
  | failed handle hmem =>
      obtain ⟨member, hmember⟩ := stubReads_of_handles hmem
      exact .answer m (.failure hmember)
  | freed handle _ hreleased =>
      exact .answer (m.free handle) (.success (stubReads_of_released hreleased))
  | decreased handle _ hreleased =>
      exact .answer (m.decrease handle) (.success (stubReads_of_released hreleased))
  | unknownComm => exact .raised m [] _ rfl rfl
  | mutexTryLockFailed x hd =>
      refine .answer m ?_
      rw [hd]
      exact .failure rfl
  | plainCalled => exact .suspended _ _ _ _ rfl (hhandles rfl) rfl
  | actorCreate => exact .suspended _ _ _ _ rfl (hhandles rfl) rfl
  | commWaitFor => exact .suspended _ _ _ _ rfl (hhandles rfl) rfl
  | commCancel => exact .suspended _ _ _ _ rfl (hhandles rfl) rfl
  | commTest => exact .suspended _ _ _ _ rfl (hhandles rfl) rfl
  | commWaitAnyFor => exact .suspended _ _ _ _ rfl (hhandles rfl) rfl
  | mailboxPut => exact .suspended _ _ _ _ rfl (hhandles rfl) rfl
  | mailboxPutAsync => exact .suspended _ _ _ _ rfl (hhandles rfl) rfl
  | mailboxGet => exact .suspended _ _ _ _ rfl (hhandles rfl) rfl
  | mailboxGetAsync => exact .suspended _ _ _ _ rfl (hhandles rfl) rfl
  | mutexCreate => exact .suspended _ _ _ _ rfl (hhandles rfl) rfl
  | mutexLock => exact .suspended _ _ _ _ rfl (hhandles rfl) rfl
  | mutexUnlock => exact .suspended _ _ _ _ rfl (hhandles rfl) rfl
  | mutexTryLock => exact .suspended _ _ _ _ rfl (hhandles rfl) rfl
  | conditionVariableCreate => exact .suspended _ _ _ _ rfl (hhandles rfl) rfl
  | lockWaited => exact .suspended _ _ _ _ rfl (hhandles rfl) rfl
  | notified => exact .suspended _ _ _ _ rfl (hhandles rfl) rfl

theorem Taken.unexchanged {address : Address} {m' : Memory} {out : List SimOutput} {data : Bytes}
    (h : Taken address m m' out data) : out.filterMap SimOutput.exchange = [] := by
  cases h with
  | nothing => rfl
  | payload => rfl

/-! ### Exceptions -/

variable {socket : Socket} {frame : Frame} {ret : S4uReturn} {segment : Segment}

theorem resume_caught (h : resume K k self socket frame ret m = some segment)
    (hcatches : frame.catches ret = true) : segment.outcome ≠ .escaped := by
  cases frame with
  | catchHostFailure =>
      cases ret with
      | hostFailureException =>
          cases h
          exact fun h => by cases h
      | _ => cases hcatches
  | commWaitFor comm =>
      cases ret with
      | timeoutException =>
          cases h
          exact fun h => by cases h
      | cancelException =>
          cases h
          exact fun h => by cases h
      | _ => cases hcatches
  | _ => cases hcatches

theorem resume_uncaught (h : resume K k self socket frame ret m = some segment)
    (hexception : ret.isException = true) (huncaught : frame.catches ret = false) :
    segment.outcome = .escaped := by
  cases resume_resumed h with
  | escaped => rfl
  | hostFailure heq hret => subst heq hret; cases huncaught
  | commTimedOut _ heq hret => subst heq hret; cases huncaught
  | commCanceled _ heq hret => subst heq hret; cases huncaught
  | waitConnectAck _ _ hret => subst hret; cases hexception
  | dispatched _ _ hret => subst hret; cases hexception
  | acknowledged _ hret => subst hret; cases hexception
  | actorCreated _ _ _ _ hret => subst hret; cases hexception
  | commWaited _ _ _ _ _ hret => subst hret; cases hexception
  | commWaitUndefined _ _ hret => subst hret; cases hexception
  | commTested _ _ _ _ _ hret => subst hret; cases hexception
  | commTestUndefined _ _ hret => subst hret; cases hexception
  | commPending _ _ hret => subst hret; cases hexception
  | commWaitedAny _ _ _ _ _ _ _ _ hret => subst hret; cases hexception
  | commWaitAnyUndefined _ _ _ _ hret => subst hret; cases hexception
  | commInconsistent _ _ _ _ _ hret => subst hret; cases hexception
  | commNoneFinished _ _ _ _ hret => subst hret; cases hexception
  | mailboxPutAsync _ _ hret => subst hret; cases hexception
  | mailboxGetAsync _ _ _ hret => subst hret; cases hexception
  | existingComm _ _ _ hret => subst hret; cases hexception
  | mailboxGet _ _ _ hret => subst hret; cases hexception
  | mailboxGetUndefined _ _ hret => subst hret; cases hexception
  | mutexCreate _ _ hret => subst hret; cases hexception
  | mutexTryLock _ _ hret => subst hret; cases hexception
  | conditionVariableCreate _ _ hret => subst hret; cases hexception
  | conditionVariableStatus _ _ _ _ _ _ hret => subst hret; cases hexception

/-- The two ways in which an exception leaves an actor that is run again. -/
theorem resume_escaped (h : resume K k self socket frame ret m = some segment)
    (hescaped : segment.outcome = .escaped) :
    ret.isException = true ∧ frame.catches ret = false ∨
      ∃ d create, frame = .thinkTime d ∧ ret = .done ∧ d.type = .actorCreate create ∧
        K.hostByName k create.host.name = false := by
  have hresumed := resume_resumed h
  have hcaught : frame.catches ret ≠ true := fun hcatches => resume_caught h hcatches hescaped
  clear h
  cases hresumed with
  | escaped hexception => exact Or.inl ⟨hexception, Bool.eq_false_iff.mpr hcaught⟩
  | dispatched d heq hret =>
      obtain ⟨create, hd, hname⟩ := switchDecision_escaped (d := d) hescaped
      exact Or.inr ⟨d, create, heq, hret, hd, hname⟩
  | _ => cases hescaped

/-- The exception that a handler has caught when its call returns. -/
def caughtException (ret : S4uReturn) : Option S4uReturn :=
  if ret.isException then some ret else none

/-- A handler whose call returns concludes, unless an exception leaves it. -/
theorem Resumed.concludes (h : Resumed K k self socket frame ret m segment)
    (hframe : frame.Handles d) (hescaped : segment.outcome ≠ .escaped) :
    Concludes d (caughtException ret) segment := by
  obtain ⟨hloop, hreads⟩ := hframe
  have hreturned : ∀ {data : AckData}, frame.sets = data.dataCase →
      Handled.Fits ⟨d, none, { success := true, data := data }⟩ := by
    intro data hdata
    rw [hdata] at hreads
    exact ⟨.success hreads, fun _ hcaught => by cases hcaught⟩
  have hcanceled : ∀ {exception}, Handled.Fits ⟨d, some exception, { success := false }⟩ :=
    ⟨.failure hreads, fun _ _ => Or.inl rfl⟩
  cases h with
  | escaped => exact absurd rfl hescaped
  | waitConnectAck _ heq => subst heq; cases hloop
  | dispatched _ heq => subst heq; cases hloop
  | acknowledged hplain hret =>
      subst hret
      have hdata : frame.sets = AckData.dataNotSet.dataCase := by
        cases frame <;> first | rfl | cases hplain
      exact .answered m [] _ true (hreturned hdata) rfl
  | hostFailure heq hret =>
      subst heq hret
      exact .answered m [] _ true hcanceled rfl
  | actorCreated _ _ _ heq hret =>
      subst heq hret
      exact .waiting m _ _ _ rfl hreads rfl
  | commWaited comm m' out data heq hret _ htaken =>
      subst heq hret
      exact .answered m' out _ true (hreturned rfl) htaken.unexchanged
  | commWaitUndefined comm heq hret =>
      subst heq hret
      exact .undefined m [] rfl rfl
  | commTimedOut comm heq hret =>
      subst heq hret
      refine .answered m [] _ true ⟨.success hreads, ?_⟩ rfl
      intro exception hexception
      cases hexception
      have hwait : ∃ wait, d.type = .commWaitFor wait := by
        generalize d.type = type at hreads
        cases type with
        | commWaitFor wait => exact ⟨wait, rfl⟩
        | _ => cases hreads
      exact Or.inr ⟨rfl, hwait, rfl⟩
  | commCanceled comm heq hret =>
      subst heq hret
      exact .answered m [] _ true hcanceled rfl
  | commTested comm m' out data heq hret _ htaken =>
      subst heq hret
      exact .answered m' out _ true (hreturned rfl) htaken.unexchanged
  | commTestUndefined comm heq hret =>
      subst heq hret
      exact .undefined m [] rfl rfl
  | commPending comm heq hret =>
      subst heq hret
      exact .answered m [] _ true (hreturned rfl) rfl
  | commWaitedAny comms pointers index comm m' out data heq hret _ _ htaken =>
      subst heq hret
      exact .answered m' out _ true (hreturned rfl) htaken.unexchanged
  | commWaitAnyUndefined comms pointers index heq hret =>
      subst heq hret
      exact .undefined m [] rfl rfl
  | commInconsistent comms pointers index comm heq hret =>
      subst heq hret
      exact .raised m [] _ rfl rfl
  | commNoneFinished comms pointers index heq hret =>
      subst heq hret
      exact .answered m [] _ true (hreturned rfl) rfl
  | mailboxPutAsync address heq hret =>
      subst heq hret
      exact .answered _ [] _ true (hreturned rfl) rfl
  | mailboxGetAsync receptionBuffer address heq hret =>
      subst heq hret
      exact .answered _ [] _ true (hreturned rfl) rfl
  | existingComm address what _ hret =>
      subst hret
      exact .raised m [] _ rfl rfl
  | mailboxGet payload data heq hret =>
      subst heq hret
      exact .answered _ _ _ false (hreturned rfl) rfl
  | mailboxGetUndefined payload heq hret =>
      subst heq hret
      exact .undefined m [] rfl rfl
  | mutexCreate address heq hret =>
      subst heq hret
      exact .answered _ [] _ true (hreturned rfl) rfl
  | mutexTryLock locked heq hret =>
      subst heq hret
      exact .answered m [] _ true (hreturned rfl) rfl
  | conditionVariableCreate address heq hret =>
      subst heq hret
      exact .answered _ [] _ true (hreturned rfl) rfl
  | conditionVariableStatus cv mutex lock status data heq hret =>
      subst hret
      rcases heq with ⟨rfl, rfl⟩ | ⟨rfl, rfl⟩
      · exact .answered m [] _ true (hreturned rfl) rfl
      · exact .answered m [] _ true (hreturned rfl) rfl

/-- What a return outside of the handlers comes to. -/
inductive Looped (K : S4u) (k : K.State) (self : Pid) (m : Memory) : Frame → S4uReturn → Segment → Prop
  | escaped (frame : Frame) (ret : S4uReturn) :
      Looped K k self m frame ret { memory := m, outcome := .escaped }
  | connected (connectAck : Queue) : Looped K k self m (.firstYield connectAck) .done
      { memory := m, outcome := .waitConnectAck connectAck }
  | dispatched (d : Decision) : Looped K k self m (.thinkTime d) .done (dispatch K k self d m)

theorem Resumed.looped (h : Resumed K k self socket frame ret m segment)
    (hloop : frame.ofLoop = true) : Looped K k self m frame ret segment := by
  cases h with
  | escaped => exact .escaped frame ret
  | waitConnectAck connectAck heq hret => subst heq hret; exact .connected connectAck
  | dispatched d heq hret => subst heq hret; exact .dispatched d
  | acknowledged hplain =>
      cases frame with
      | firstYield | thinkTime => cases hplain
      | _ => cases hloop
  | existingComm _ _ heq => rcases heq with rfl | ⟨_, rfl⟩ <;> cases hloop
  | conditionVariableStatus _ _ _ _ _ heq =>
      rcases heq with ⟨rfl, -⟩ | ⟨rfl, -⟩ <;> cases hloop
  | hostFailure heq => subst heq; cases hloop
  | actorCreated _ _ _ heq => subst heq; cases hloop
  | commWaited _ _ _ _ heq => subst heq; cases hloop
  | commWaitUndefined _ heq => subst heq; cases hloop
  | commTimedOut _ heq => subst heq; cases hloop
  | commCanceled _ heq => subst heq; cases hloop
  | commTested _ _ _ _ heq => subst heq; cases hloop
  | commTestUndefined _ heq => subst heq; cases hloop
  | commPending _ heq => subst heq; cases hloop
  | commWaitedAny _ _ _ _ _ _ _ heq => subst heq; cases hloop
  | commWaitAnyUndefined _ _ _ heq => subst heq; cases hloop
  | commInconsistent _ _ _ _ heq => subst heq; cases hloop
  | commNoneFinished _ _ _ heq => subst heq; cases hloop
  | mailboxPutAsync _ heq => subst heq; cases hloop
  | mailboxGetAsync _ _ heq => subst heq; cases hloop
  | mailboxGet _ _ heq => subst heq; cases hloop
  | mailboxGetUndefined _ heq => subst heq; cases hloop
  | mutexCreate _ heq => subst heq; cases hloop
  | mutexTryLock _ heq => subst heq; cases hloop
  | conditionVariableCreate _ heq => subst heq; cases hloop

end

end RemoteSimgrid
