import RemoteSimgrid.SimulationInvariant

/-! A turn of an actor: what it does between two stops, as far as its client, the command thread and
the creation of actors are concerned. -/

namespace RemoteSimgrid

open Machine Pb

/-- Neither the client nor the command thread sees it. -/
def SimOutput.internal : SimOutput → Bool
  | .writeAck _ _ _ | .push _ _ => false
  | _ => true

/-- The message that the SimGrid thread pushes on `to_command`. -/
def SimOutput.sent : SimOutput → Option InterthreadMessage
  | .push queue msg => if queue = toCommand then some msg else none
  | _ => none

def S4uCall.creates : S4uCall → Bool
  | .actorCreate _ _ _ => true
  | _ => false

/-- The frame of a call that belongs to the creation of an actor. -/
def Frame.creation : Frame → Bool
  | .firstYield _ | .actorCreate _ _ => true
  | _ => false

/-- The turn ends the actor, without an acknowledgment. -/
def Outcome.ends : Outcome → Bool
  | .finished _ sendAck quitReceived => !sendAck && quitReceived
  | .raised _ | .escaped | .undefinedBehaviour => true
  | _ => false

section

variable {K : S4u} {s t : Simulation K} {event : SimEvent K} {out : List SimOutput}

theorem sent_of_internal {out : List SimOutput} (h : ∀ o ∈ out, o.internal = true) :
    out.filterMap SimOutput.sent = [] := by
  rw [List.filterMap_eq_nil_iff]
  intro o ho
  have hinternal := h o ho
  cases o <;> first | rfl | cases hinternal

/-- The turns of an actor. -/
inductive Turn (s : Simulation K) (event : SimEvent K) (p : Pid) (socket : Socket) : Segment → Prop
  | ends (m : Memory) (out : List SimOutput) (outcome : Outcome) : s.memory.next ≤ m.next →
      (∀ o ∈ out, o.internal = true) → outcome.ends = true →
      Turn s event p socket { memory := m, out := out, outcome := outcome }
  | replies (m : Memory) (out : List SimOutput) (ack : DecisionAck) : s.memory.next ≤ m.next →
      (∀ o ∈ out, o.internal = true) → (∀ child, ack.data ≠ .actorCreate child) →
      Turn s event p socket { memory := m, out := out, outcome := .finished ack true false }
  | suspends (m : Memory) (out : List SimOutput) (call : S4uCall) (frame : Frame) :
      s.memory.next ≤ m.next → (∀ o ∈ out, o.internal = true) → call.creates = false →
      frame.creation = false →
      Turn s event p socket { memory := m, out := out, outcome := .call call frame }
  | yields (actor : ServerActor) (connectAck : Queue) : event = .schedule p →
      s.actors.find p = some actor → actor.point = .spawned (some connectAck) →
      Turn s event p socket (.call s.memory .yield (.firstYield connectAck))
  | waits (actor : ServerActor) (connectAck : Queue) : event = .schedule p →
      s.actors.find p = some actor → actor.point = .returned .done (.firstYield connectAck) →
      Turn s event p socket { memory := s.memory, outcome := .waitConnectAck connectAck }
  | requests (out : List SimOutput) (name host : String) : (∀ o ∈ out, o.internal = true) →
      Turn s event p socket
        { memory := { s.memory with next := s.memory.next + 2 }
          out := out
          outcome := .call (.actorCreate name host (s.memory.next + 1))
            (.actorCreate s.memory.next (s.memory.next + 1)) }
  | asks (actor : ServerActor) (canConnectAck connectAck : Queue) (child : Pid) :
      event = .schedule p → s.actors.find p = some actor →
      actor.point = .returned (.pid child) (.actorCreate canConnectAck connectAck) →
      Turn s event p socket
        { memory := s.memory
          out := [.push toCommand (.actorCreate child canConnectAck connectAck)]
          outcome := .waitCanConnectAck canConnectAck child }
  | delivers (actor : ServerActor) (payload : Ptr) (data : Bytes) : event = .schedule p →
      s.actors.find p = some actor → actor.point = .returned (.payload payload) .mailboxGet →
      Turn s event p socket
        { memory := { s.memory with strings := s.memory.strings.erase payload }
          out := [.copied payload,
            .writeAck p socket { success := true, data := .mailboxGet data },
            .deletedString payload]
          outcome := .finished { success := true, data := .mailboxGet data } false false }
  | tells (canConnectAck : Queue) (child : Pid) : event = .canConnectAck .actorCreateAck →
      s.actors.find p = some ⟨socket, .waitingCanConnectAck canConnectAck child⟩ →
      Turn s event p socket
        { memory := s.memory
          out := [.writeAck p socket { success := true, data := .actorCreate { id := child } }]
          outcome := .finished { success := true, data := .actorCreate { id := child } }
            false false }

variable {p : Pid} {socket : Socket} {segment : Segment}

namespace Turn

theorem silent (m : Memory) (outcome : Outcome) (hnext : s.memory.next ≤ m.next)
    (hends : outcome.ends = true) :
    Turn s event p socket { memory := m, outcome := outcome } :=
  .ends m [] outcome hnext (List.forall_mem_nil _) hends

theorem answer (m : Memory) (ack : DecisionAck) (hnext : s.memory.next ≤ m.next)
    (hack : ∀ child, ack.data ≠ .actorCreate child) : Turn s event p socket (.answer m ack) :=
  .replies m [] ack hnext (List.forall_mem_nil _) hack

theorem call (m : Memory) (call : S4uCall) (frame : Frame) (hnext : s.memory.next ≤ m.next)
    (hcall : call.creates = false) (hframe : frame.creation = false) :
    Turn s event p socket (.call m call frame) :=
  .suspends m [] call frame hnext (List.forall_mem_nil _) hcall hframe

end Turn

theorem S4uCall.creates_of_plain {call : S4uCall} (h : call.plain) : call.creates = false := by
  cases call <;> first | rfl | cases h

theorem next_decrease (m : Memory) (h : Handle) : (m.decrease h).next = m.next := by
  cases h <;> simp only [Memory.decrease]

/-- The handler of a decision up to its first call, after an output that nobody sees. -/
theorem Switched.turn {d : Decision} (h : Switched d s.memory segment) (o : SimOutput)
    (ho : o.internal = true) : Turn s event p socket { segment with out := o :: segment.out } := by
  have hout : ∀ o' ∈ [o], o'.internal = true := List.forall_mem_singleton.mpr ho
  have hanswer : ∀ (m : Memory) (ack : DecisionAck), s.memory.next ≤ m.next →
      (∀ child, ack.data ≠ .actorCreate child) →
      Turn s event p socket { (Segment.answer m ack) with out := [o] } :=
    fun m ack hnext hack => .replies m [o] ack hnext hout hack
  have hcalled : ∀ (call : S4uCall) (frame : Frame), call.creates = false →
      frame.creation = false →
      Turn s event p socket { (Segment.call s.memory call frame) with out := [o] } :=
    fun call frame hcall hframe => .suspends s.memory [o] call frame le_rfl hout hcall hframe
  have hput : ∀ (data : Bytes), ∀ o' ∈ [o, .newString s.memory.next data], o'.internal = true :=
    fun data => List.forall_mem_cons.mpr ⟨ho, List.forall_mem_singleton.mpr rfl⟩
  cases h with
  | quit value _ => exact .ends _ [o] _ le_rfl hout rfl
  | plainAnswered ack _ hplain _ =>
      refine hanswer _ ack le_rfl ?_
      intro child hdata
      rw [hdata] at hplain
      cases hplain
  | plainCalled call frame _ hcall hframe =>
      refine hcalled call frame (S4uCall.creates_of_plain hcall) ?_
      rcases hframe with rfl | rfl <;> rfl
  | unset => exact .ends _ [o] _ le_rfl hout rfl
  | unknownHost => exact .ends _ [o] _ le_rfl hout rfl
  | actorCreate create _ => exact .requests [o] _ _ hout
  | failed => exact hanswer _ _ le_rfl nofun
  | freed h => exact hanswer _ _ (Memory.next_free s.memory h).ge nofun
  | decreased h => exact hanswer _ _ (next_decrease s.memory h).ge nofun
  | commWaitFor => exact hcalled _ _ rfl rfl
  | commCancel => exact hcalled _ _ rfl rfl
  | commTest => exact hcalled _ _ rfl rfl
  | commWaitAnyFor => exact hcalled _ _ rfl rfl
  | unknownComm => exact .ends _ [o] _ le_rfl hout rfl
  | mailboxPut put _ => exact .suspends _ _ _ _ (Nat.le_succ _) (hput put.data) rfl rfl
  | mailboxPutAsync put _ => exact .suspends _ _ _ _ (Nat.le_succ _) (hput put.data) rfl rfl
  | mailboxGet => exact hcalled _ _ rfl rfl
  | mailboxGetAsync => exact .suspends _ [o] _ _ (Nat.le_succ _) hout rfl rfl
  | mutexCreate => exact hcalled _ _ rfl rfl
  | mutexLock => exact hcalled _ _ rfl rfl
  | mutexUnlock => exact hcalled _ _ rfl rfl
  | mutexTryLock => exact hcalled _ _ rfl rfl
  | mutexTryLockFailed => exact hanswer _ _ le_rfl nofun
  | conditionVariableCreate => exact hcalled _ _ rfl rfl
  | lockWaited c x cv mutex call frame _ _ _ hframe =>
      rcases hframe with ⟨rfl, rfl⟩ | ⟨rfl, _, rfl⟩ | ⟨rfl, _, rfl⟩ <;> exact hcalled _ _ rfl rfl
  | notified c cv call hcall _ =>
      rcases hcall with ⟨_, rfl⟩ | ⟨_, rfl⟩ <;> exact hcalled _ _ rfl rfl

theorem dispatch_turn (d : Decision) : Turn s event p socket (dispatch K s.kernel p d s.memory) := by
  obtain ⟨segment, hswitched, heq⟩ := dispatch_eq K s.kernel p d s.memory
  rw [heq]
  exact hswitched.turn (.dispatched p d) rfl

theorem Taken.internal {address : Address} {m m' : Memory} {out : List SimOutput} {data : Bytes}
    (h : Taken address m m' out data) : m'.next = m.next ∧ ∀ o ∈ out, o.internal = true := by
  cases h with
  | nothing => exact ⟨rfl, by simp [SimOutput.internal]⟩
  | payload => exact ⟨rfl, by simp [SimOutput.internal]⟩

/-- An actor that is run again after its call. -/
theorem Resumed.turn {actor : ServerActor} {frame : Frame} {ret : S4uReturn}
    (hfind : s.actors.find p = some actor) (hpoint : actor.point = .returned ret frame)
    (h : Resumed K s.kernel p socket frame ret s.memory segment) :
    Turn s (.schedule p) p socket segment := by
  cases h with
  | escaped => exact .silent _ _ le_rfl rfl
  | waitConnectAck connectAck heq hret =>
      subst heq hret
      exact .waits actor connectAck rfl hfind hpoint
  | dispatched d _ _ => exact dispatch_turn d
  | acknowledged => exact .answer _ _ le_rfl nofun
  | hostFailure => exact .answer _ _ le_rfl nofun
  | actorCreated canConnectAck connectAck child heq hret =>
      subst heq hret
      exact .asks actor canConnectAck connectAck child rfl hfind hpoint
  | commWaited _ m' out data _ _ _ htaken =>
      exact .replies m' out _ htaken.internal.1.ge htaken.internal.2 nofun
  | commWaitUndefined => exact .silent _ _ le_rfl rfl
  | commTimedOut => exact .answer _ _ le_rfl nofun
  | commCanceled => exact .answer _ _ le_rfl nofun
  | commTested _ m' out data _ _ _ htaken =>
      exact .replies m' out _ htaken.internal.1.ge htaken.internal.2 nofun
  | commTestUndefined => exact .silent _ _ le_rfl rfl
  | commPending => exact .answer _ _ le_rfl nofun
  | commWaitedAny _ _ _ _ m' out data _ _ _ _ htaken =>
      exact .replies m' out _ htaken.internal.1.ge htaken.internal.2 nofun
  | commWaitAnyUndefined => exact .silent _ _ le_rfl rfl
  | commInconsistent => exact .silent _ _ le_rfl rfl
  | commNoneFinished => exact .answer _ _ le_rfl nofun
  | mailboxPutAsync => exact .answer _ _ (Nat.le_succ _) nofun
  | mailboxGetAsync => exact .answer _ _ (Nat.le_succ _) nofun
  | existingComm => exact .silent _ _ le_rfl rfl
  | mailboxGet payload data heq hret _ =>
      subst heq hret
      exact .delivers actor payload data rfl hfind hpoint
  | mailboxGetUndefined => exact .silent _ _ le_rfl rfl
  | mutexCreate => exact .answer _ _ (Nat.le_add_right _ _) nofun
  | mutexTryLock => exact .answer _ _ le_rfl nofun
  | conditionVariableCreate => exact .answer _ _ (Nat.le_succ _) nofun
  | conditionVariableStatus _ _ _ status data heq _ =>
      refine .answer _ _ le_rfl ?_
      rcases heq with ⟨_, rfl⟩ | ⟨_, rfl⟩ <;> exact nofun

theorem Ran.turn (h : Ran s event p socket segment) : Turn s event p socket segment := by
  cases h with
  | firstYield _ actor connectAck _ hfind hpoint => exact .yields actor connectAck rfl hfind hpoint
  | resumed _ actor ret frame _ _ hfind hpoint hresumed => exact hresumed.turn hfind hpoint
  | decided _ _ d _ _ _ => exact dispatch_turn d
  | thinking => exact .call _ _ _ le_rfl rfl rfl
  | badThinkTime => exact .silent _ _ le_rfl rfl
  | readFailed => exact .silent _ _ le_rfl rfl
  | childAccepted _ _ canConnectAck child _ hfind => exact .tells canConnectAck child rfl hfind
  | badCanConnectAck => exact .silent _ _ le_rfl rfl

theorem Turn.next (h : Turn s event p socket segment) : s.memory.next ≤ segment.memory.next := by
  cases h with
  | ends _ _ _ hnext => exact hnext
  | replies _ _ _ hnext => exact hnext
  | suspends _ _ _ _ hnext => exact hnext
  | requests => exact Nat.le_add_right _ _
  | _ => exact le_rfl

/-- Allocations are never numbered twice. -/
theorem SimStep.next (h : SimStep s event t out) : s.memory.next ≤ t.memory.next := by
  cases h with
  | ran _ p socket segment hran => exact hran.turn.next
  | served p actor call frame ret kernel _ _ _ _ _ hserve =>
      rcases serve_cases hserve with rfl | ⟨_, _, _, _, -, -, -, rfl⟩
      · exact le_rfl
      · exact le_rfl
  | _ => exact le_rfl

/-! ### Where the actors are -/

theorem point_eq_some {q : Pid} {point : ActorPoint} :
    s.point q = some point ↔ ∃ actor, s.actors.find q = some actor ∧ actor.point = point :=
  Option.map_eq_some_iff

theorem point_eq_none {q : Pid} : s.point q = none ↔ s.actors.find q = none :=
  Option.map_eq_none_iff

/-- No actor is forgotten. -/
theorem SimStep.point_ne_none (h : SimStep s event t out) {q : Pid} (hq : s.point q ≠ none) :
    t.point q ≠ none := fun hnone => hq (point_eq_none.mpr (h.find_none (point_eq_none.mp hnone)))

theorem point_setPoint (s : Simulation K) (p q : Pid) (point : ActorPoint) :
    (s.setPoint p point).point q = if q = p then (s.point p).map fun _ => point else s.point q := by
  simp only [Simulation.point, find_setPoint]
  split
  · rw [Option.map_map, Option.map_map]
    rfl
  · rfl

theorem point_conclude_eq (s : Simulation K) (p : Pid) (socket : Socket) (segment : Segment) (q : Pid) :
    (s.conclude p socket segment).1.point q =
      if q = p then (s.point p).map fun _ => segment.outcome.point else s.point q :=
  point_setPoint s p q segment.outcome.point

/-- Where the actors are after a turn. -/
theorem Ran.points (h : Ran s event p socket segment) (q : Pid) :
    (({ s with ready := event.remaining s.ready }).conclude p socket segment).1.point q =
      if q = p then some segment.outcome.point else s.point q := by
  obtain ⟨actor, hfind⟩ := h.find
  rw [point_conclude_eq]
  change (if q = p then (s.point p).map fun _ => segment.outcome.point else s.point q) = _
  rw [Simulation.point, hfind]
  rfl

end

end RemoteSimgrid
