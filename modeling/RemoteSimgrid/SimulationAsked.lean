import RemoteSimgrid.SimulationExchange
import RemoteSimgrid.SimulationTurns

/-! The decision that an actor of the server works on, between the step that reads it and the step that
acknowledges it. -/

namespace RemoteSimgrid

open Machine Pb

/-- A handler that waits for a call belongs to the decision that its client has sent. -/
def Frame.WorksOn (asked : Option Decision) (call : S4uCall) (frame : Frame) : Prop :=
  match frame with
  | .firstYield _ => True
  | .thinkTime d => asked = some d
  | frame => ∃ d, asked = some d ∧ Suspends d call frame

def ActorPoint.WorksOn (asked : Option Decision) : ActorPoint → Prop
  | .calling call frame => frame.WorksOn asked call
  | .returned _ frame => ∃ call, frame.WorksOn asked call
  | .waitingCanConnectAck _ _ => ∃ d, asked = some d ∧ d.type.observes = false
  | _ => True

theorem Suspends.worksOn {d : Decision} {call : S4uCall} {frame : Frame} {asked : Option Decision}
    (h : Suspends d call frame) (hasked : asked = some d) : frame.WorksOn asked call := by
  have hloop := h.ofLoop
  cases frame with
  | firstYield => cases hloop
  | thinkTime => cases hloop
  | _ => exact ⟨d, hasked, h⟩

theorem Frame.WorksOn.suspends {d : Decision} {call : S4uCall} {frame : Frame}
    (h : frame.WorksOn (some d) call) (hloop : frame.ofLoop = false) : Suspends d call frame := by
  cases frame with
  | firstYield => cases hloop
  | thinkTime => cases hloop
  | _ =>
      obtain ⟨d', hd, hsuspends⟩ := h
      cases hd
      exact hsuspends

section

variable {K : S4u} {s t : Simulation K} {event : SimEvent K} {out : List SimOutput} {p : Pid}
  {socket : Socket} {segment : Segment} {asked : Option Decision}

theorem dispatch_worksOn {d : Decision} (howned : Owned s.memory) (hasked : asked = some d) :
    (dispatch K s.kernel p d s.memory).outcome.point.WorksOn asked := by
  obtain ⟨segment, hswitched, heq⟩ := dispatch_eq K s.kernel p d s.memory
  rw [heq]
  show segment.outcome.point.WorksOn asked
  cases houtcome : segment.outcome with
  | call call frame => exact Suspends.worksOn ⟨s.memory, segment, howned, hswitched, houtcome⟩ hasked
  | finished ack sendAck quitReceived => cases quitReceived <;> trivial
  | waitCanConnectAck => cases hswitched <;> cases houtcome
  | _ => trivial

theorem Ran.worksOn (howned : Owned s.memory)
    (hbefore : ∀ actor, s.actors.find p = some actor → actor.point.WorksOn asked)
    (hdecided : ∀ d, event = .decision d → asked = some d) (h : Ran s event p socket segment) :
    segment.outcome.point.WorksOn asked := by
  cases h with
  | thinking _ _ d => exact hdecided d rfl
  | decided _ _ d => exact dispatch_worksOn howned (hdecided d rfl)
  | resumed _ actor ret frame _ _ hfind hpoint hresumed =>
      obtain ⟨call, hcall⟩ : ∃ call, frame.WorksOn asked call := by
        have hactor := hbefore actor hfind
        rw [hpoint] at hactor
        exact hactor
      cases hresumed with
      | dispatched d hframe =>
          subst hframe
          exact dispatch_worksOn howned hcall
      | actorCreated _ _ _ hframe =>
          subst hframe
          obtain ⟨d, hd, hsuspends⟩ := hcall
          exact ⟨d, hd, hsuspends.serves⟩
      | _ => trivial
  | _ => trivial

/-- Every actor works on the decision that its client has sent. -/
def AllWorkOn (asked : Pid → Option Decision) (s : Simulation K) : Prop :=
  ∀ p point, s.point p = some point → point.WorksOn (asked p)

theorem AllWorkOn.spawn (asked : Pid → Option Decision) (connections : List ActorConnection) :
    AllWorkOn asked (Simulation.spawn K connections) := by
  intro p point hp
  obtain ⟨actor, hfind, rfl⟩ := point_eq_some.mp hp
  rw [find_spawn hfind]
  trivial

theorem AllWorkOn.step {asked : Pid → Option Decision} (h : AllWorkOn asked s)
    (howned : Owned s.memory)
    (hdecided : ∀ p d, s.current = some p → event = .decision d → asked p = some d)
    (hstep : SimStep s event t out) : AllWorkOn asked t := by
  refine fun q point => hstep.keepsPoints (P := fun q point => point.WorksOn (asked q)) h ?_ ?_ ?_
  · intro q point hrest
    cases point <;> trivial
  · intro q socket segment hran
    refine hran.worksOn howned (fun before hbefore => h q _ (point_eq_some.mpr ⟨before, hbefore, rfl⟩)) ?_
    rintro d rfl
    refine hdecided q d ?_ rfl
    cases hran <;> assumption
  · exact fun q call frame ret _ hcalling => ⟨call, h q _ hcalling⟩

/-! ### Acknowledgments -/

theorem acks_of_internal {out : List SimOutput} (h : ∀ o ∈ out, o.internal = true) : acks out = [] := by
  refine List.filterMap_eq_nil_iff.mpr fun o ho => ?_
  have hinternal := h o ho
  cases o with
  | writeAck => cases hinternal
  | _ => rfl

/-- A turn writes one acknowledgment at most, and then its actor reads the next decision. -/
theorem Turn.acks (h : Turn s event p socket segment) :
    RemoteSimgrid.acks (segment.out ++ segment.outcome.out p socket) = [] ∨
      ∃ ack sendAck, RemoteSimgrid.acks (segment.out ++ segment.outcome.out p socket) = [(p, ack)] ∧
        segment.outcome = .finished ack sendAck false := by
  cases h with
  | ends m out outcome _ hinternal hends =>
      have hnone : RemoteSimgrid.acks (outcome.out p socket) = [] := by
        cases outcome with
        | finished ack sendAck quitReceived => cases sendAck <;> cases quitReceived <;>
            first | rfl | cases hends
        | _ => rfl
      refine Or.inl ?_
      rw [RemoteSimgrid.acks, List.filterMap_append]
      exact List.append_eq_nil_iff.mpr ⟨acks_of_internal hinternal, hnone⟩
  | replies m out ack _ hinternal =>
      refine Or.inr ⟨ack, true, ?_, rfl⟩
      have hnone := acks_of_internal hinternal
      rw [RemoteSimgrid.acks] at hnone ⊢
      rw [List.filterMap_append, hnone]
      rfl
  | suspends m out call frame _ hinternal =>
      refine Or.inl ?_
      rw [show (Outcome.call call frame).out p socket = [] from rfl, List.append_nil]
      exact acks_of_internal hinternal
  | yields => exact Or.inl rfl
  | waits => exact Or.inl rfl
  | requests out name host hinternal =>
      refine Or.inl ?_
      rw [show (Outcome.call _ _).out p socket = [] from rfl, List.append_nil]
      exact acks_of_internal hinternal
  | asks => exact Or.inl rfl
  | delivers => exact Or.inr ⟨_, false, rfl, rfl⟩
  | tells => exact Or.inr ⟨_, false, rfl, rfl⟩

/-- The step in which an actor acknowledges a decision. -/
inductive Acked (s : Simulation K) (t : Simulation K) (p : Pid) (ack : DecisionAck) :
    SimEvent K → Prop
  | dispatched (event : SimEvent K) (d : Decision) (sendAck : Bool) : Dispatches s event p d →
      (dispatch K s.kernel p d s.memory).outcome = .finished ack sendAck false →
      t.memory = (dispatch K s.kernel p d s.memory).memory → Acked s t p ack event
  | resumed (actor : ServerActor) (ret : S4uReturn) (frame : Frame) (segment : Segment)
      (sendAck : Bool) : s.actors.find p = some actor → actor.point = .returned ret frame →
      frame.ofLoop = false → Resumed K s.kernel p actor.socket frame ret s.memory segment →
      segment.outcome = .finished ack sendAck false → t.memory = segment.memory →
      Acked s t p ack (.schedule p)
  | created (canConnectAck : Queue) (child : Pid) :
      s.point p = some (.waitingCanConnectAck canConnectAck child) → t.memory = s.memory →
      Acked s t p ack (.canConnectAck .actorCreateAck)

theorem Ran.acked {ack : DecisionAck} {sendAck : Bool} (h : Ran s event p socket segment)
    (houtcome : segment.outcome = .finished ack sendAck false) (hmemory : t.memory = segment.memory) :
    Acked s t p ack event := by
  cases h with
  | decided p socket d hcurrent hfind hthink =>
      exact .dispatched _ d sendAck (.now p socket d hcurrent hfind hthink) houtcome hmemory
  | resumed p actor ret frame segment hcurrent hfind hpoint hresumed =>
      cases hloop : frame.ofLoop with
      | false => exact .resumed actor ret frame segment sendAck hfind hpoint hloop hresumed houtcome hmemory
      | true =>
          cases hresumed.looped hloop with
          | escaped => cases houtcome
          | connected => cases houtcome
          | dispatched d =>
              exact .dispatched _ d sendAck (.later p actor d hcurrent hfind hpoint) houtcome hmemory
  | childAccepted p socket canConnectAck child _ hfind =>
      exact .created canConnectAck child (point_eq_some.mpr ⟨_, hfind, rfl⟩) hmemory
  | firstYield => cases houtcome
  | thinking => cases houtcome
  | badThinkTime => cases houtcome
  | readFailed => cases houtcome
  | badCanConnectAck => cases houtcome

/-- A step writes one acknowledgment at most; its actor then reads the next decision. -/
theorem SimStep.acked (h : SimStep s event t out) :
    acks out = [] ∨ ∃ p ack, acks out = [(p, ack)] ∧ Acked s t p ack event ∧
      t.point p = some .reading := by
  cases h with
  | ran _ p socket segment hran =>
      rcases hran.turn.acks with hnone | ⟨ack, sendAck, hacks, houtcome⟩
      · exact Or.inl hnone
      · refine Or.inr ⟨p, ack, hacks, hran.acked houtcome rfl, ?_⟩
        rw [hran.points p, if_pos rfl, houtcome]
        rfl
  | progressed event kernel writes =>
      refine Or.inl (List.filterMap_eq_nil_iff.mpr fun o ho => ?_)
      obtain ⟨write, -, rfl⟩ := List.mem_map.mp ho
      rfl
  | _ => exact Or.inl rfl

/-! ### Observations -/

theorem observes_of_plain {type : DecisionType} (h : type.plain) : type.observes = false := by
  cases type <;> first | rfl | cases h

theorem observes_of_released {type : DecisionType} {h : Handle} (hreleased : type.released = some h) :
    type.observes = false := by
  cases type <;> first | rfl | cases hreleased

/-- An observation is acknowledged before its call only when it is refused. -/
theorem Switched.refuses {d : Decision} {m : Memory} (hobserves : d.type.observes = true)
    (h : Switched d m segment) {ack : DecisionAck} {sendAck : Bool}
    (houtcome : segment.outcome = .finished ack sendAck false) :
    (∃ handle ∈ d.type.handles, m.entry handle = none) ∧ ack = { success := false } ∧
      segment.memory = m := by
  have hnot : ∀ {type : DecisionType}, d.type = type → type.observes ≠ false :=
    fun hd hfalse => by rw [← hd, hobserves] at hfalse; cases hfalse
  cases h with
  | failed handle hmem hnone =>
      cases houtcome
      exact ⟨⟨handle, hmem, hnone⟩, rfl, rfl⟩
  | plainAnswered _ hplain => exact absurd (observes_of_plain hplain) (hnot rfl)
  | freed _ _ hreleased => exact absurd (observes_of_released hreleased) (hnot rfl)
  | decreased _ _ hreleased => exact absurd (observes_of_released hreleased) (hnot rfl)
  | mutexTryLockFailed _ hd => exact absurd rfl (hnot hd)
  | quit => cases houtcome
  | _ => cases houtcome

/-- The acknowledgment of an observation: the comm is unknown, or the call on it has returned. -/
theorem Acked.observation {ack : DecisionAck} {asked : Pid → Option Decision} {d : Decision}
    (h : Acked s t p ack event) (hworks : AllWorkOn asked s)
    (hdecided : ∀ q d, s.current = some q → event = .decision d → asked q = some d)
    (hasked : asked p = some d) (hobserves : d.type.observes = true) :
    (∃ handle ∈ d.type.handles, s.memory.entry handle = none) ∧ ack = { success := false } ∧
        t.memory = s.memory ∧
        (∃ sendAck, (dispatch K s.kernel p d s.memory).outcome = .finished ack sendAck false) ∨
      ∃ actor ret frame call segment sendAck, event = .schedule p ∧ s.actors.find p = some actor ∧
        actor.point = .returned ret frame ∧ Suspends d call frame ∧
        Resumed K s.kernel p actor.socket frame ret s.memory segment ∧
        segment.outcome = .finished ack sendAck false ∧ t.memory = segment.memory := by
  have hpoint : ∀ {actor}, s.actors.find p = some actor → actor.point.WorksOn (some d) := by
    intro actor hfind
    have hactor := hworks p actor.point (point_eq_some.mpr ⟨actor, hfind, rfl⟩)
    rwa [hasked] at hactor
  cases h with
  | dispatched _ d' sendAck hdispatches houtcome hmemory =>
      have hd : d' = d := by
        cases hdispatches with
        | now _ _ _ hcurrent =>
            rw [hdecided p d' hcurrent rfl, Option.some.injEq] at hasked
            exact hasked
        | later _ actor _ _ hfind hat =>
            have hactor := hpoint hfind
            rw [hat] at hactor
            obtain ⟨call, heq⟩ := hactor
            exact (Option.some.inj heq).symm
      subst hd
      refine Or.inl ?_
      have hfinished := houtcome
      obtain ⟨segment, hswitched, heq⟩ := dispatch_eq K s.kernel p d' s.memory
      rw [heq] at houtcome hmemory
      obtain ⟨hunknown, hack, hsame⟩ := hswitched.refuses hobserves houtcome
      exact ⟨hunknown, hack, hmemory.trans hsame, sendAck, hfinished⟩
  | resumed actor ret frame segment sendAck hfind hat hloop hresumed houtcome hmemory =>
      have hactor := hpoint hfind
      rw [hat] at hactor
      obtain ⟨call, hworks⟩ := hactor
      exact Or.inr ⟨actor, ret, frame, call, segment, sendAck, rfl, hfind, hat,
        hworks.suspends hloop, hresumed, houtcome, hmemory⟩
  | created canConnectAck child hat =>
      obtain ⟨actor, hfind, hat⟩ := point_eq_some.mp hat
      have hactor := hpoint hfind
      rw [hat] at hactor
      obtain ⟨d', hd', hnot⟩ := hactor
      cases hd'
      rw [hobserves] at hnot
      cases hnot

end

end RemoteSimgrid
