import RemoteSimgrid.ServerReads
import RemoteSimgrid.SimulationExchangeRuns

/-! What an acknowledgment answers: the decision that was read last, through the handler of which its
actor has gone. -/

namespace RemoteSimgrid

open Machine Pb

/-- A suspended actor is in the handler of the decision that its client has sent. -/
def Frame.InHandler (asked : Option Decision) (frame : Frame) : Prop :=
  match frame with
  | .firstYield _ => True
  | .thinkTime d => asked = some d
  | frame => ∃ d, asked = some d ∧ frame.Handles d

def ActorPoint.InHandler (asked : Option Decision) : ActorPoint → Prop
  | .calling _ frame | .returned _ frame => frame.InHandler asked
  | .waitingCanConnectAck _ _ => ∃ d, asked = some d ∧ d.type.stubReads = some .kActorCreate
  | _ => True

theorem Frame.Handles.inHandler {d : Decision} {frame : Frame} {asked : Option Decision}
    (h : frame.Handles d) (hasked : asked = some d) : frame.InHandler asked := by
  have hloop := h.ofHandler
  cases frame with
  | firstYield => cases hloop
  | thinkTime => cases hloop
  | _ => exact ⟨d, hasked, h⟩

/-- An actor that does not work on a decision is in no handler. -/
theorem inHandler_of_idle {point : ActorPoint} (asked : Option Decision) (h : point.working = false) :
    point.InHandler asked := by
  cases point with
  | calling call frame =>
      cases frame with
      | firstYield => trivial
      | _ => cases h
  | returned ret frame =>
      cases frame with
      | firstYield => trivial
      | _ => cases h
  | waitingCanConnectAck => cases h
  | _ => trivial

section

variable {K : S4u} {s t : Simulation K} {event : SimEvent K} {out : List SimOutput} {p : Pid}
  {socket : Socket} {segment : Segment} {asked : Option Decision}

theorem Concludes.inHandler {d : Decision} {caught : Option S4uReturn}
    (h : Concludes d caught segment) (hasked : asked = some d) :
    segment.outcome.point.InHandler asked := by
  cases h with
  | suspended _ _ call frame _ hframe => exact hframe.inHandler hasked
  | waiting _ _ canConnectAck child _ hd => exact ⟨d, hasked, hd⟩
  | _ => trivial

theorem Concludes.answers {d : Decision} {caught : Option S4uReturn} {ack : DecisionAck} {sendAck : Bool}
    (h : Concludes d caught segment) (houtcome : segment.outcome = .finished ack sendAck false) :
    d.type.Answers ack := by
  cases h with
  | answered _ _ _ _ hfits =>
      cases houtcome
      exact hfits.answers
  | _ => cases houtcome

/-- An actor that runs stays in the handler of its decision; when it acknowledges it, it has handled it. -/
theorem Ran.inHandler (h : Ran s event p socket segment)
    (hbefore : ∀ actor, s.actors.find p = some actor → actor.point.InHandler asked)
    (hdecided : ∀ d, event = .decision d → asked = some d) :
    segment.outcome.point.InHandler asked ∧ ∀ ack sendAck, segment.outcome = .finished ack sendAck false →
      ∃ d, asked = some d ∧ d.type.Answers ack := by
  have hconcludes : ∀ {d : Decision} {caught : Option S4uReturn}, asked = some d →
      (segment.outcome ≠ .escaped → Concludes d caught segment) →
      segment.outcome.point.InHandler asked ∧
        ∀ ack sendAck, segment.outcome = .finished ack sendAck false →
          ∃ d, asked = some d ∧ d.type.Answers ack := by
    intro d caught hasked hall
    by_cases hescaped : segment.outcome = .escaped
    · rw [hescaped]
      exact ⟨trivial, fun _ _ hfinished => by cases hfinished⟩
    · exact ⟨(hall hescaped).inHandler hasked,
        fun ack sendAck hfinished => ⟨d, hasked, (hall hescaped).answers hfinished⟩⟩
  cases h with
  | firstYield => exact ⟨trivial, fun _ _ hfinished => by cases hfinished⟩
  | resumed _ actor ret frame _ _ hfind hpoint hresumed =>
      have hframe : frame.InHandler asked := by
        have hactor := hbefore actor hfind
        rwa [hpoint] at hactor
      cases frame with
      | firstYield connectAck =>
          cases hresumed.looped rfl with
          | escaped => exact ⟨trivial, fun _ _ hfinished => by cases hfinished⟩
          | connected => exact ⟨trivial, fun _ _ hfinished => by cases hfinished⟩
      | thinkTime d =>
          cases hresumed.looped rfl with
          | escaped => exact ⟨trivial, fun _ _ hfinished => by cases hfinished⟩
          | dispatched => exact hconcludes hframe dispatch_concludes
      | _ =>
          obtain ⟨d, hasked, hhandles⟩ := hframe
          exact hconcludes hasked (hresumed.concludes hhandles)
  | decided _ _ d => exact hconcludes (hdecided d rfl) dispatch_concludes
  | thinking _ _ d => exact ⟨hdecided d rfl, fun _ _ hfinished => by cases hfinished⟩
  | badThinkTime => exact ⟨trivial, fun _ _ hfinished => by cases hfinished⟩
  | readFailed => exact ⟨trivial, fun _ _ hfinished => by cases hfinished⟩
  | childAccepted _ _ canConnectAck child _ hfind =>
      obtain ⟨d, hasked, hd⟩ : ∃ d, asked = some d ∧ d.type.stubReads = some .kActorCreate :=
        hbefore _ hfind
      refine ⟨trivial, fun ack sendAck hfinished => ⟨d, hasked, ?_⟩⟩
      cases hfinished
      exact .success hd
  | badCanConnectAck => exact ⟨trivial, fun _ _ hfinished => by cases hfinished⟩

/-- Every actor that works on a decision is in the handler of the one that its client has sent. -/
def AllInHandler (asked : Pid → Option Decision) (s : Simulation K) : Prop :=
  ∀ p point, s.point p = some point → point.InHandler (asked p)

theorem AllInHandler.step {asked : Pid → Option Decision} (h : AllInHandler asked s)
    (hdecided : ∀ p d, s.current = some p → event = .decision d → asked p = some d)
    (hstep : SimStep s event t out) : AllInHandler asked t := by
  refine fun q point => hstep.keepsPoints (P := fun q point => point.InHandler (asked q)) h ?_ ?_ ?_
  · intro q point hrest
    cases point <;> trivial
  · intro q socket segment hran
    refine (hran.inHandler (fun before hbefore => h q _ (point_eq_some.mpr ⟨before, hbefore, rfl⟩)) ?_).1
    rintro d rfl
    refine hdecided q d ?_ rfl
    cases hran <;> assumption
  · intro q call frame ret _ hcalling
    have hframe : frame.InHandler (asked q) := h q _ hcalling
    exact hframe

/-- An acknowledgment fits the decision of its client. -/
theorem AllInHandler.answers {asked : Pid → Option Decision} (h : AllInHandler asked s)
    (hdecided : ∀ p d, s.current = some p → event = .decision d → asked p = some d)
    (hstep : SimStep s event t out) {ack : DecisionAck} (hack : (p, ack) ∈ acks out) :
    ∃ d, asked p = some d ∧ d.type.Answers ack := by
  cases hstep with
  | ran _ q socket segment hran =>
      rcases hran.turn.acks with hnone | ⟨ack', sendAck, hone, houtcome⟩
      · have hmem : (p, ack) ∈ acks (segment.out ++ segment.outcome.out q socket) := hack
        rw [hnone] at hmem
        cases hmem
      · have hmem : (p, ack) ∈ acks (segment.out ++ segment.outcome.out q socket) := hack
        rw [hone, List.mem_singleton, Prod.mk.injEq] at hmem
        obtain ⟨rfl, rfl⟩ := hmem
        refine (hran.inHandler ?_ ?_).2 ack sendAck houtcome
        · exact fun actor hfind => h p _ (point_eq_some.mpr ⟨actor, hfind, rfl⟩)
        · rintro d rfl
          refine hdecided p d ?_ rfl
          cases hran <;> assumption
  | progressed event kernel writes =>
      obtain ⟨o, ho, hsome⟩ := List.mem_filterMap.mp hack
      obtain ⟨write, -, rfl⟩ := List.mem_map.mp ho
      cases hsome
  | _ => cases hack

end

/-! ### The server -/

section

variable {K : S4u} {platformFile : String} {s t : Server K} {event : ServerEvent K}
  {out : List ServerOutput} {asked : Pid → Option Decision}

theorem ServerStep.inHandler (h : ServerStep platformFile s event t out)
    (hall : AllInHandler asked s.simulation)
    (hdecided : ∀ p d, s.simulation.current = some p → event = .simulation (.decision d) →
      asked p = some d) : AllInHandler asked t.simulation := by
  have hsim : ∀ {event' : SimEvent K} {simulation : Simulation K} {sent : List SimOutput},
      event = .simulation event' → simulationStep K s.simulation event' = some (simulation, sent) →
      AllInHandler asked simulation := by
    intro event' simulation sent hevent hstep
    refine hall.step (fun p d hcurrent hd => hdecided p d hcurrent ?_) (simulationStep_cases hstep).2
    rw [hevent, hd]
  cases h with
  | served event =>
      cases event with
      | command socket command => cases command <;> exact hall
      | _ => exact hall
  | ran event simulation sent _ _ hstep => exact hsim rfl hstep
  | received event p queue msg rest simulation sent _ _ _ _ _ hstep => exact hsim rfl hstep
  | spawned =>
      intro p point hp
      obtain ⟨actor, hfind, rfl⟩ := point_eq_some.mp hp
      rw [find_spawn hfind]
      trivial
  | _ => exact hall

theorem ServerStep.fits (h : ServerStep platformFile s event t out)
    (hall : AllInHandler asked s.simulation)
    (hdecided : ∀ p d, s.simulation.current = some p → event = .simulation (.decision d) →
      asked p = some d) {p : Pid} {ack : DecisionAck} (hack : (p, ack) ∈ decisionAcks out) :
    ∃ d, asked p = some d ∧ d.type.Answers ack := by
  have hsim : ∀ {event' : SimEvent K} {simulation : Simulation K} {sent : List SimOutput},
      event = .simulation event' → simulationStep K s.simulation event' = some (simulation, sent) →
      (p, ack) ∈ acks sent → ∃ d, asked p = some d ∧ d.type.Answers ack := by
    intro event' simulation sent hevent hstep hmem
    refine hall.answers (fun p d hcurrent hd => hdecided p d hcurrent ?_)
      (simulationStep_cases hstep).2 hmem
    rw [hevent, hd]
  cases h with
  | popped msg rest serve sent =>
      rw [show decisionAcks (.popped msg :: sent.map .serve) = decisionAcks (sent.map .serve) from rfl,
        decisionAcks_serve] at hack
      cases hack
  | served event serve sent =>
      rw [decisionAcks_serve] at hack
      cases hack
  | ran event simulation sent _ _ hstep =>
      rw [decisionAcks_simulation] at hack
      exact hsim rfl hstep hack
  | received event q queue msg rest simulation sent _ _ _ _ _ hstep =>
      rw [show decisionAcks (.received q msg :: sent.map (.simulation (some q))) =
        decisionAcks (sent.map (.simulation (some q))) from rfl, decisionAcks_simulation] at hack
      exact hsim rfl hstep hack
  | _ => cases hack

end

end RemoteSimgrid
