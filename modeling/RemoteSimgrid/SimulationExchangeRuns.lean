import RemoteSimgrid.SimulationExchange

/-! Request and reply along every run of the SimGrid thread: each decision is acknowledged before the
next one is read, and an actor that ends tells the command thread. -/

namespace RemoteSimgrid

open Machine Pb

/-- Outside of the handling of a decision. -/
def ActorPoint.idle : ActorPoint → Bool
  | .spawned _ | .waitingConnectAck _ | .reading => true
  | .calling _ (.firstYield _) | .returned _ (.firstYield _) => true
  | _ => false

def ActorPoint.frame : ActorPoint → Option Frame
  | .calling _ frame | .returned _ frame => some frame
  | _ => none

/-- What an actor has exchanged since its last acknowledgment. -/
inductive Pending (crashed : Bool) : ActorPoint → List Exchange → Prop
  | idle (point : ActorPoint) : point.idle = true → Pending crashed point []
  | thinking (point : ActorPoint) (d : Decision) : point.frame = some (.thinkTime d) →
      Pending crashed point [.asked d]
  | handling (point : ActorPoint) (frame : Frame) (d : Decision) : point.frame = some frame →
      frame.Handles d → Pending crashed point [.asked d]
  | creating (canConnectAck : Queue) (child : Pid) (d : Decision) :
      d.type.stubReads = some .kActorCreate →
      Pending crashed (.waitingCanConnectAck canConnectAck child) [.asked d]
  | quit (d : Decision) (value : Bool) (socket : Socket) : d.type = .quit value →
      Pending crashed .ended [.asked d, .told (.actorQuit socket)]
  | failed (asked : Option Decision) (reason : String) :
      Pending crashed .ended (asked.toList.map .asked ++ [.told (.simulationAborted reason)])
  | undefined (d : Decision) : crashed = true → Pending crashed .terminated [.asked d]

/-- An actor's exchanges are decisions each followed by its acknowledgment, then what is pending. -/
def InStep (crashed : Bool) (point : ActorPoint) (exchanges : List Exchange) : Prop :=
  ∃ (handled : List Handled) (pending : List Exchange),
    exchanges = handled.flatMap Handled.exchanges ++ pending ∧ (∀ h ∈ handled, h.Fits) ∧
      Pending crashed point pending

section

variable {crashed : Bool} {point : ActorPoint} {exchanges : List Exchange}

theorem Pending.mono (h : Pending false point exchanges) : Pending crashed point exchanges := by
  cases h with
  | idle _ hidle => exact .idle _ hidle
  | thinking _ d hframe => exact .thinking _ d hframe
  | handling _ frame d hframe hhandles => exact .handling _ frame d hframe hhandles
  | creating canConnectAck child d hd => exact .creating canConnectAck child d hd
  | quit d value socket hd => exact .quit d value socket hd
  | failed asked reason => exact .failed asked reason
  | undefined d hcrashed => cases hcrashed

/-- Only undefined behaviour leaves a terminated actor in step. -/
theorem not_inStep_terminated : ¬InStep false .terminated exchanges := by
  rintro ⟨handled, pending, -, -, hpending⟩
  cases hpending with
  | idle _ hidle => cases hidle
  | thinking _ _ hframe => cases hframe
  | handling _ _ _ hframe => cases hframe
  | undefined _ hcrashed => cases hcrashed

theorem InStep.mono (h : InStep false point exchanges) : InStep crashed point exchanges := by
  obtain ⟨handled, pending, heq, hfits, hpending⟩ := h
  exact ⟨handled, pending, heq, hfits, hpending.mono⟩

/-- The rule for a step of an actor: what is pending after it, on top of what was before. -/
theorem InStep.extend {point' : ActorPoint} {out : List Exchange} (h : InStep false point exchanges)
    (hstep : ∀ pending, Pending false point pending → InStep crashed point' (pending ++ out)) :
    InStep crashed point' (exchanges ++ out) := by
  obtain ⟨handled, pending, rfl, hfits, hpending⟩ := h
  obtain ⟨handled', pending', heq, hfits', hpending'⟩ := hstep pending hpending
  refine ⟨handled ++ handled', pending', ?_, ?_, hpending'⟩
  · calc handled.flatMap Handled.exchanges ++ pending ++ out
        = handled.flatMap Handled.exchanges ++ (pending ++ out) := List.append_assoc _ _ _
      _ = handled.flatMap Handled.exchanges ++ (handled'.flatMap Handled.exchanges ++ pending') := by
          rw [heq]
      _ = (handled ++ handled').flatMap Handled.exchanges ++ pending' := by
          rw [List.flatMap_append, List.append_assoc]
  · intro h hmem
    rcases List.mem_append.mp hmem with hmem | hmem
    · exact hfits h hmem
    · exact hfits' h hmem

theorem Pending.inStep (h : Pending crashed point exchanges) : InStep crashed point exchanges :=
  ⟨[], exchanges, rfl, List.forall_mem_nil _, h⟩

theorem Pending.eq_nil (h : Pending crashed point exchanges) (hidle : point.idle = true) :
    exchanges = [] := by
  cases h with
  | idle => rfl
  | thinking _ _ hframe =>
      cases point with
      | calling => cases hframe; cases hidle
      | returned => cases hframe; cases hidle
      | _ => cases hframe
  | handling _ frame _ hframe hhandles =>
      have hloop := hhandles.ofHandler
      cases point with
      | calling | returned =>
          cases hframe
          cases frame with
          | firstYield => cases hloop
          | _ => cases hidle
      | _ => cases hframe
  | _ => cases hidle

theorem Pending.creating_inv {canConnectAck : Queue} {child : Pid}
    (h : Pending crashed (.waitingCanConnectAck canConnectAck child) exchanges) :
    ∃ d : Decision, exchanges = [.asked d] ∧ d.type.stubReads = some .kActorCreate := by
  cases h with
  | creating _ _ d hd => exact ⟨d, rfl, hd⟩
  | idle _ hidle => cases hidle
  | thinking _ _ hframe => cases hframe
  | handling _ _ _ hframe => cases hframe

end

/-! ### Steps -/

section

variable {K : S4u} {s t : Simulation K} {event : SimEvent K}

/-- The exchanges that end a segment. -/
def Segment.exchanges (p : Pid) (socket : Socket) (segment : Segment) : List Exchange :=
  (segment.out ++ segment.outcome.out p socket).filterMap SimOutput.exchange

/-- The actor is in step after the segment of a handler. -/
theorem Concludes.inStep {d : Decision} {caught : Option S4uReturn} {segment : Segment} (p : Pid)
    (socket : Socket) (h : Concludes d caught segment) :
    InStep (decide (segment.outcome = .undefinedBehaviour)) segment.outcome.point
      (.asked d :: (caught.toList.map .thrown ++ segment.exchanges p socket)) := by
  unfold Segment.exchanges
  rw [List.filterMap_append]
  cases h with
  | suspended m out call frame hcaught hframe hout =>
      subst hcaught
      rw [hout]
      exact (Pending.handling _ frame d rfl hframe).inStep
  | waiting m out canConnectAck child hcaught hd hout =>
      subst hcaught
      rw [hout]
      exact (Pending.creating canConnectAck child d hd).inStep
  | answered m out ack sendAck hfits hout =>
      refine ⟨[⟨d, caught, ack⟩], [], ?_, ?_, .idle _ rfl⟩
      · rw [hout]
        cases sendAck with
        | true => simp [Handled.exchanges, Outcome.out, SimOutput.exchange]
        | false => simp [Handled.exchanges, Outcome.out]
      · intro h hmem
        rw [List.mem_singleton.mp hmem]
        exact hfits
  | quit m out ack value hcaught hd hout =>
      subst hcaught
      rw [hout]
      exact (Pending.quit d value socket hd).inStep
  | raised m out e hcaught hout =>
      subst hcaught
      rw [hout]
      exact (Pending.failed (some d) _).inStep
  | undefined m out hcaught hout =>
      subst hcaught
      rw [hout]
      exact (Pending.undefined d rfl).inStep

theorem dispatch_concludes {p : Pid} {d : Decision} {m : Memory}
    (hescaped : (dispatch K s.kernel p d m).outcome ≠ .escaped) :
    Concludes d none (dispatch K s.kernel p d m) := by
  have hhost : ∀ create, d.type = .actorCreate create →
      K.hostByName s.kernel create.host.name = true := by
    intro create hd
    by_contra hname
    exact hescaped (switchDecision_unknownHost hd (Bool.eq_false_iff.mpr hname))
  exact (switchDecision_concludes hhost).dispatched

/-- An actor that runs stays in step, unless an exception leaves it. -/
theorem Ran.inStep {p : Pid} {socket : Socket} {segment : Segment} {actor : ServerActor}
    {pending : List Exchange} (h : Ran s event p socket segment)
    (hescaped : segment.outcome ≠ .escaped) (hfind : s.actors.find p = some actor)
    (hpending : Pending false actor.point pending) :
    InStep (decide (segment.outcome = .undefinedBehaviour)) segment.outcome.point
      (pending ++ (event.receives s ++ segment.exchanges p socket)) := by
  have hactor : ∀ {actor'}, s.actors.find p = some actor' → actor' = actor := by
    intro actor' hfind'
    rw [hfind, Option.some.injEq] at hfind'
    exact hfind'.symm
  cases h with
  | firstYield _ actor' connectAck _ hfind' hpoint =>
      obtain rfl := hactor hfind'
      rw [hpoint] at hpending
      obtain rfl := hpending.eq_nil rfl
      have hreceives : (SimEvent.schedule p : SimEvent K).receives s = [] := by
        simp only [SimEvent.receives, Simulation.point, hfind', Option.map_some, hpoint]
      rw [hreceives]
      exact (Pending.idle _ rfl).inStep
  | resumed _ actor' ret frame _ _ hfind' hpoint hresumed =>
      obtain rfl := hactor hfind'
      have hreceives : (SimEvent.schedule p : SimEvent K).receives s =
          (caughtException ret).toList.map .thrown := by
        simp only [SimEvent.receives, Simulation.point, hfind', Option.map_some, hpoint,
          caughtException]
        by_cases hexception : ret.isException = true
        · simp [hexception]
        · simp [hexception]
      rw [hreceives]
      rw [hpoint] at hpending
      cases hpending with
      | handling _ frame' d hframe hhandles =>
          cases hframe
          exact (hresumed.concludes hhandles hescaped).inStep p actor'.socket
      | thinking _ d hframe =>
          cases hframe
          cases hresumed.looped rfl with
          | escaped => exact absurd rfl hescaped
          | dispatched => exact (dispatch_concludes hescaped).inStep p actor'.socket
      | idle _ hidle =>
          cases frame with
          | firstYield connectAck =>
              cases hresumed.looped rfl with
              | escaped => exact absurd rfl hescaped
              | connected => exact (Pending.idle _ rfl).inStep
          | _ => cases hidle
  | decided _ _ d _ hfind' _ =>
      obtain rfl := hactor hfind'
      obtain rfl := hpending.eq_nil rfl
      exact (dispatch_concludes hescaped).inStep p socket
  | thinking _ _ d _ hfind' _ =>
      obtain rfl := hactor hfind'
      obtain rfl := hpending.eq_nil rfl
      exact (Pending.thinking _ d rfl).inStep
  | badThinkTime _ _ d what _ hfind' _ =>
      obtain rfl := hactor hfind'
      obtain rfl := hpending.eq_nil rfl
      exact (Pending.failed (some d) _).inStep
  | readFailed _ _ e _ hfind' =>
      obtain rfl := hactor hfind'
      obtain rfl := hpending.eq_nil rfl
      exact (Pending.failed none _).inStep
  | childAccepted _ _ canConnectAck child _ hfind' =>
      obtain rfl := hactor hfind'
      obtain ⟨d, rfl, hd⟩ := hpending.creating_inv
      have hconcludes : Concludes d none
          { memory := s.memory
            out := [.writeAck p socket { success := true, data := .actorCreate { id := child } }]
            outcome := .finished { success := true, data := .actorCreate { id := child } }
              false false } :=
        .answered _ _ _ false ⟨.success hd, fun _ hcaught => by cases hcaught⟩ rfl
      exact hconcludes.inStep p socket
  | badCanConnectAck _ _ canConnectAck child msg what _ hfind' _ =>
      obtain rfl := hactor hfind'
      obtain ⟨d, rfl, -⟩ := hpending.creating_inv
      exact (Pending.failed (some d) _).inStep

/-! ### Exceptions that leave an actor -/

/-- An exception leaves the function of the actor that a step runs: its S4U call threw one that is not
caught around this call, it is to create an actor on a host that does not exist, or it does not find
the message with its socket. -/
def SimEvent.escapes (s : Simulation K) (event : SimEvent K) : Bool :=
  let uncaught := match event with
    | .schedule p =>
        match s.point p with
        | some (.returned ret frame) => ret.isException && !frame.catches ret
        | _ => false
    | .connectAck (.actorConnected _) => false
    | .connectAck _ => true
    | _ => false
  let unknownHost := match dispatching s event with
    | some (_, { thinkTime := _, type := .actorCreate create }) =>
        !K.hostByName s.kernel create.host.name
    | _ => false
  uncaught || unknownHost

theorem Dispatches.escapes {p : Pid} {d : Decision} {create : CreateActor}
    (h : Dispatches s event p d) (hd : d.type = .actorCreate create)
    (hname : K.hostByName s.kernel create.host.name = false) : event.escapes s = true := by
  obtain ⟨thinkTime, type⟩ := d
  cases hd
  simp only [SimEvent.escapes, h.eq_dispatching, hname, Bool.not_false, Bool.or_true]

/-- The actor that a step runs after its call. -/
theorem resume_of_step {p : Pid} {actor : ServerActor} {ret : S4uReturn} {frame : Frame}
    {out : List SimOutput} (h : simulationStep K s (.schedule p) = some (t, out))
    (hfind : s.actors.find p = some actor) (hpoint : actor.point = .returned ret frame) :
    ∃ segment, resume K s.kernel p actor.socket frame ret s.memory = some segment ∧
      t = (({ s with ready := s.ready.erase p }).conclude p actor.socket segment).1 := by
  have hcurrent : s.current = none := by
    cases (simulationStep_cases h).2 with
    | ran _ _ _ _ hran =>
        cases hran with
        | firstYield _ _ _ hcurrent => exact hcurrent
        | resumed _ _ _ _ _ hcurrent => exact hcurrent
    | started _ _ hcurrent => exact hcurrent
  simp only [simulationStep, (simulationStep_cases h).1, Bool.false_eq_true, if_false, hcurrent,
    hfind, hpoint] at h
  split at h
  · rename_i segment hsegment
    cases h
    exact ⟨segment, hsegment, rfl⟩
  · cases h

/-- Where the running actor is after a segment. -/
theorem point_conclude {p : Pid} {actor : ServerActor} (hfind : s.actors.find p = some actor)
    (socket : Socket) (segment : Segment) :
    (s.conclude p socket segment).1.actors.find p =
      some { actor with point := segment.outcome.point } := by
  rw [Simulation.conclude, find_setPoint, if_pos rfl, hfind, Option.map_some]

theorem outcome_eq_escaped {outcome : Outcome} (hpoint : outcome.point = .terminated)
    (hdefined : outcome ≠ .undefinedBehaviour) : outcome = .escaped := by
  cases outcome with
  | escaped => rfl
  | undefinedBehaviour => exact absurd rfl hdefined
  | finished ack sendAck quitReceived => cases quitReceived <;> cases hpoint
  | _ => cases hpoint

theorem Ran.escapes {p : Pid} {socket : Socket} {segment : Segment} {out : List SimOutput}
    (h : Ran s event p socket segment)
    (hstep : simulationStep K s event =
      some ((({ s with ready := event.remaining s.ready }).conclude p socket segment).1, out))
    (hescaped : segment.outcome = .escaped) : event.escapes s = true := by
  cases h with
  | resumed _ actor ret frame _ hcurrent hfind hpoint _ =>
      obtain ⟨segment', hresume, heq⟩ := resume_of_step hstep hfind hpoint
      have hescaped' : segment'.outcome = .escaped := by
        have hready : ({ s with ready := s.ready.erase p } : Simulation K).actors.find p =
            some actor := hfind
        have hpoints := (point_conclude hready actor.socket segment).symm.trans
          ((congrArg (fun u => u.actors.find p) heq).trans
            (point_conclude hready actor.socket segment'))
        have hcrashed := congrArg Simulation.crashed heq
        rw [hescaped, Option.some.injEq, ServerActor.mk.injEq] at hpoints
        refine outcome_eq_escaped hpoints.2.symm ?_
        intro hundefined
        simp only [Simulation.conclude, hescaped, hundefined, decide_true] at hcrashed
        cases hcrashed
      rcases resume_escaped hresume hescaped' with ⟨hexception, hcatches⟩ |
        ⟨d, create, rfl, rfl, hd, hname⟩
      · simp only [SimEvent.escapes, Simulation.point, hfind, Option.map_some, hpoint, hexception,
          hcatches, Bool.not_false, Bool.and_self, Bool.true_or]
      · exact (Dispatches.later p actor d hcurrent hfind hpoint).escapes hd hname
  | decided _ _ d hcurrent hfind hthink =>
      obtain ⟨create, hd, hname⟩ := switchDecision_escaped hescaped
      exact (Dispatches.now p socket d hcurrent hfind hthink).escapes hd hname
  | _ => cases hescaped

theorem conclude_escaped {p : Pid} {actor : ServerActor} (hfind : s.actors.find p = some actor)
    (socket : Socket) {segment : Segment} (hescaped : segment.outcome = .escaped) :
    (s.conclude p socket segment).1.crashed = false ∧
      ∃ q actor', (s.conclude p socket segment).1.actors.find q = some actor' ∧
        actor'.point = .terminated := by
  refine ⟨?_, p, _, point_conclude hfind socket segment, ?_⟩
  · rw [Simulation.conclude, hescaped]
    rfl
  · rw [hescaped]
    rfl

/-- An exception that leaves an actor's function terminates it. -/
theorem terminated_of_escapes {out : List SimOutput} (hstep : simulationStep K s event = some (t, out))
    (hescapes : event.escapes s = true) :
    t.crashed = false ∧ ∃ p actor, t.actors.find p = some actor ∧ actor.point = .terminated := by
  obtain ⟨hcrashed, hsim⟩ := simulationStep_cases hstep
  rcases Bool.or_eq_true_iff.mp hescapes with huncaught | hunknown
  · cases event with
    | schedule p =>
        simp only [Simulation.point] at huncaught
        split at huncaught
        · rename_i ret frame hpoint
          obtain ⟨actor, hfind, hpoint⟩ := Option.map_eq_some_iff.mp hpoint
          obtain ⟨segment, hresume, rfl⟩ := resume_of_step hstep hfind hpoint
          obtain ⟨hexception, hcatches⟩ := Bool.and_eq_true_iff.mp huncaught
          have hfind' : ({ s with ready := s.ready.erase p } : Simulation K).actors.find p =
              some actor := hfind
          exact conclude_escaped hfind' actor.socket
            (resume_uncaught hresume hexception (Bool.not_eq_true' _ ▸ hcatches))
        · cases huncaught
    | connectAck msg =>
        cases hsim with
        | connected p socket connectAck socket' => cases huncaught
        | connectFailed p socket connectAck _ _ hfind _ =>
            refine ⟨hcrashed, p, ⟨socket, .terminated⟩, ?_, rfl⟩
            exact (find_setPoint s p p .terminated).trans (by rw [if_pos rfl, hfind, Option.map_some])
        | ran _ _ _ _ hran => cases hran
    | _ => cases huncaught
  · split at hunknown
    · rename_i p thinkTime create hdispatching
      have hdispatches := dispatches_of_dispatching hdispatching
      obtain ⟨actor, -, heq⟩ := simulationStep_dispatch hcrashed hdispatches
      rw [heq] at hstep
      cases hstep
      have hescaped : (dispatch K s.kernel p ⟨thinkTime, .actorCreate create⟩ s.memory).outcome =
          .escaped := switchDecision_unknownHost rfl (Bool.not_eq_true' _ ▸ hunknown)
      cases hdispatches with
      | now _ _ _ _ hfind _ => exact conclude_escaped hfind actor.socket hescaped
      | later _ _ _ _ hfind _ =>
          have hfind' : ({ s with ready := s.ready.erase p } : Simulation K).actors.find p =
              some _ := hfind
          exact conclude_escaped hfind' actor.socket hescaped
    · cases hunknown

/-! ### Runs -/

/-- Every actor is in step with its client. -/
def AllInStep (s : Simulation K) (trace : List (Pid × Exchange)) : Prop :=
  ∀ p actor, s.actors.find p = some actor → InStep s.crashed actor.point (exchangesOf p trace)

structure ExchangeInv (s : Simulation K) (trace : List (Pid × Exchange)) : Prop where
  inStep : AllInStep s trace
  absent : ∀ p, s.actors.find p = none → exchangesOf p trace = []

theorem exchangesOf_exchanges {p : Pid} {out : List SimOutput} (hruns : event.runs s = some p)
    (q : Pid) : exchangesOf q (event.exchanges s out) =
      if p = q then event.receives s ++ out.filterMap SimOutput.exchange else [] := by
  rw [SimEvent.exchanges, hruns]
  exact exchangesOf_map q p _

theorem Pending.returned {crashed : Bool} {call : S4uCall} {frame : Frame} {exchanges : List Exchange}
    (h : Pending crashed (.calling call frame) exchanges) (ret : S4uReturn) :
    Pending crashed (.returned ret frame) exchanges := by
  cases h with
  | idle _ hidle =>
      refine .idle _ ?_
      cases frame with
      | firstYield => rfl
      | _ => cases hidle
  | thinking _ d hframe => exact .thinking _ d hframe
  | handling _ frame' d hframe hhandles => exact .handling _ frame' d hframe hhandles

theorem InStep.returned {crashed : Bool} {call : S4uCall} {frame : Frame} {exchanges : List Exchange}
    (h : InStep crashed (.calling call frame) exchanges) (ret : S4uReturn) :
    InStep crashed (.returned ret frame) exchanges := by
  obtain ⟨handled, pending, heq, hfits, hpending⟩ := h
  exact ⟨handled, pending, heq, hfits, hpending.returned ret⟩

theorem InStep.idle {crashed : Bool} {point point' : ActorPoint} {exchanges : List Exchange}
    (h : InStep crashed point exchanges) (hidle : point.idle = true) (hidle' : point'.idle = true) :
    InStep crashed point' exchanges := by
  obtain ⟨handled, pending, heq, hfits, hpending⟩ := h
  obtain rfl := hpending.eq_nil hidle
  exact ⟨handled, [], heq, hfits, .idle _ hidle'⟩

theorem Ran.runs {p : Pid} {socket : Socket} {segment : Segment} (h : Ran s event p socket segment) :
    event.runs s = some p := by
  cases h with
  | firstYield => rfl
  | resumed => rfl
  | decided _ _ _ hcurrent => exact hcurrent
  | thinking _ _ _ hcurrent => exact hcurrent
  | badThinkTime _ _ _ _ hcurrent => exact hcurrent
  | readFailed _ _ _ hcurrent => exact hcurrent
  | childAccepted _ _ _ _ hcurrent => exact hcurrent
  | badCanConnectAck _ _ _ _ _ _ hcurrent => exact hcurrent

/-- A step in which no exception leaves an actor keeps every actor in step. -/
theorem ExchangeInv.step {trace : List (Pid × Exchange)} {out : List SimOutput}
    (h : ExchangeInv s trace) (hstep : simulationStep K s event = some (t, out))
    (hescapes : event.escapes s = false) :
    ExchangeInv t (trace ++ event.exchanges s out) := by
  obtain ⟨hcrashed, hsim⟩ := simulationStep_cases hstep
  have hinStep : ∀ {p actor}, s.actors.find p = some actor →
      InStep false actor.point (exchangesOf p trace) := by
    intro p actor hfind
    have hp := h.inStep p actor hfind
    rwa [hcrashed] at hp
  have habsent : ∀ q, t.actors.find q = none → s.actors.find q = none := fun _ => hsim.find_none
  have hquiet : (∀ q, exchangesOf q (event.exchanges s out) = []) →
      (∀ q actor, t.actors.find q = some actor →
        InStep t.crashed actor.point (exchangesOf q trace)) →
      ExchangeInv t (trace ++ event.exchanges s out) := by
    intro hout hall
    refine ⟨?_, ?_⟩
    · intro q actor hq
      rw [exchangesOf_append, hout, List.append_nil]
      exact hall q actor hq
    · intro q hq
      rw [exchangesOf_append, hout, List.append_nil]
      exact h.absent q (habsent q hq)
  cases hsim with
  | ran _ p socket segment hran =>
      have hescaped : segment.outcome ≠ .escaped := by
        intro hescaped
        rw [hran.escapes hstep hescaped] at hescapes
        cases hescapes
      refine ⟨?_, ?_⟩
      · intro q actor hq
        rw [exchangesOf_append, exchangesOf_exchanges hran.runs]
        simp only [Simulation.conclude, find_setPoint] at hq
        split at hq
        · rename_i heq
          subst heq
          obtain ⟨before, hbefore, rfl⟩ := Option.map_eq_some_iff.mp hq
          rw [if_pos rfl]
          exact (hinStep hbefore).extend fun pending hpending =>
            hran.inStep hescaped hbefore hpending
        · rename_i hne
          rw [if_neg (Ne.symm hne), List.append_nil]
          exact (hinStep hq).mono
      · intro q hq
        have hnone : s.actors.find q = none := find_setPoint_eq_none.mp hq
        have hne : p ≠ q := by
          rintro rfl
          obtain ⟨actor, hfind⟩ := hran.find
          rw [hfind] at hnone
          cases hnone
        rw [exchangesOf_append, exchangesOf_exchanges hran.runs, if_neg hne, List.append_nil]
        exact h.absent q hnone
  | started p actor hcurrent hfind hpoint =>
      have hreceives : (SimEvent.schedule p : SimEvent K).receives s = [] := by
        simp only [SimEvent.receives, Simulation.point, hfind, Option.map_some, hpoint]
      refine hquiet ?_ ?_
      · intro q
        rw [exchangesOf_exchanges rfl, hreceives]
        exact ite_self _
      · intro q actor' hq
        simp only [find_setPoint] at hq
        split at hq
        · rename_i heq
          subst heq
          rw [hfind, Option.map_some, Option.some.injEq] at hq
          subst hq
          exact (hinStep hfind).mono.idle (by rw [hpoint]; rfl) rfl
        · exact (hinStep hq).mono
  | served p actor call frame ret kernel _ _ hfind hpoint _ hserve =>
      refine hquiet (fun _ => rfl) ?_
      intro q actor' hq
      rcases serve_find hserve hfind hq with ⟨rfl, hreturned⟩ |
        ⟨-, hsame | ⟨hnone, connectAck, hspawned⟩⟩
      · have hbefore := hinStep hfind
        rw [hpoint] at hbefore
        rw [hreturned]
        exact (hbefore.returned ret).mono
      · exact (hinStep hsame).mono
      · rw [h.absent q hnone, hspawned]
        exact (Pending.idle _ rfl).inStep
  | progressed => exact hquiet (fun _ => rfl) fun q actor hq => (hinStep hq).mono
  | progressFailed => exact hquiet (fun _ => rfl) fun q actor hq => (hinStep hq).mono
  | round => exact hquiet (fun _ => rfl) fun q actor hq => (hinStep hq).mono
  | connected p socket connectAck socket' hcurrent hfind =>
      refine hquiet ?_ ?_
      · intro q
        have hruns : (SimEvent.connectAck (.actorConnected socket') : SimEvent K).runs s = some p :=
          hcurrent
        rw [exchangesOf_exchanges hruns]
        exact ite_self _
      · intro q actor' hq
        simp only [UnorderedMap.find_modify] at hq
        split at hq
        · rename_i heq
          subst heq
          rw [hfind, Option.map_some, Option.some.injEq] at hq
          subst hq
          exact (hinStep hfind).mono.idle rfl rfl
        · exact (hinStep hq).mono
  | connectFailed p socket connectAck msg _ hfind hmsg =>
      have hescapes' : (SimEvent.connectAck msg : SimEvent K).escapes s = true := by
        cases msg with
        | actorConnected socket' => exact absurd rfl (hmsg socket')
        | _ => rfl
      rw [hescapes'] at hescapes
      cases hescapes

theorem ExchangeInv.spawn (connections : List ActorConnection) :
    ExchangeInv (Simulation.spawn K connections) [] := by
  refine ⟨?_, fun _ _ => rfl⟩
  intro p actor hfind
  rw [find_spawn hfind]
  exact (Pending.idle _ rfl).inStep

/-- An actor terminated by an exception is not in step: its client waits for an acknowledgment, or the
command thread for a message. Undefined behaviour is no exception. -/
theorem not_allInStep {trace : List (Pid × Exchange)} {out : List SimOutput}
    (hstep : simulationStep K s event = some (t, out)) (hescapes : event.escapes s = true) :
    ¬AllInStep t trace := by
  obtain ⟨hcrashed, p, actor, hfind, hpoint⟩ := terminated_of_escapes hstep hescapes
  intro h
  have hp := h p actor hfind
  rw [hcrashed, hpoint] at hp
  exact not_inStep_terminated hp

/-- The actors are in step with their clients all along a run exactly when no exception leaves an
actor's function. -/
theorem allInStep_iff {connections : List ActorConnection} {events : List (SimEvent K)}
    {trace : List (Pid × Exchange)}
    (hrun : Run (exchangeStep K) (Simulation.spawn K connections) events s trace) :
    Always (exchangeStep K) AllInStep (Simulation.spawn K connections) events ↔
      Throughout (exchangeStep K) (fun t event => event.escapes t = false)
        (Simulation.spawn K connections) events := by
  refine always_iff_throughout (F := fun _ _ => True) (I := ExchangeInv) hrun
    (fun _ _ _ _ _ _ _ => trivial) (ExchangeInv.spawn connections) (fun _ _ h => h.inStep) ?_ ?_
  · intro t trace event u out hinv _ hguard hstep
    obtain ⟨all, hserver, rfl⟩ := exchangeStep_eq_some hstep
    exact hinv.step hserver hguard
  · intro t trace event u out _ _ hguard hstep
    obtain ⟨all, hstep, -⟩ := exchangeStep_eq_some hstep
    exact not_allInStep hstep ((Bool.not_eq_false _).mp hguard)

/-! ### Acknowledgments -/

/-- The message by which an actor reports an error. -/
def Exchange.aborts : Exchange → Bool
  | .told (.simulationAborted _) => true
  | _ => false

/-- No exception leaves the actor that runs, and no `RSG_ENFORCE` fires in its loop. -/
def Normal (s : Simulation K) (event : SimEvent K) : Prop :=
  event.escapes s = false ∧
    ∀ e ∈ ((exchangeStep K s event).map Prod.snd).getD [], e.2.aborts = false

instance (s : Simulation K) (event : SimEvent K) : Decidable (Normal s event) :=
  inferInstanceAs (Decidable (_ ∧ _))

theorem not_aborts_of_normal {connections : List ActorConnection} {events : List (SimEvent K)}
    {trace : List (Pid × Exchange)}
    (hrun : Run (exchangeStep K) (Simulation.spawn K connections) events s trace)
    (hnormal : Throughout (exchangeStep K) Normal (Simulation.spawn K connections) events) :
    ∀ e ∈ trace, e.2.aborts = false := by
  refine hrun.guarded_invariant (P := fun _ _ trace => ∀ e ∈ trace, e.2.aborts = false) hnormal
    (fun _ he => by cases he) ?_
  intro events t trace event u out _ htrace hguard hstep e he
  rcases List.mem_append.mp he with he | he
  · exact htrace e he
  · have hall := hguard.2
    rw [hstep] at hall
    exact hall e he

/-- As long as no exception leaves an actor and no `RSG_ENFORCE` fires: the decisions of a client are
acknowledged one by one and in order, each with just what the stub reads, before the next one is read;
the last one may still be handled, or be a `quit`, which is not acknowledged. -/
theorem acknowledged_in_step {connections : List ActorConnection} {events : List (SimEvent K)}
    {trace : List (Pid × Exchange)}
    (hrun : Run (exchangeStep K) (Simulation.spawn K connections) events s trace)
    (hnormal : Throughout (exchangeStep K) Normal (Simulation.spawn K connections) events) {p : Pid}
    {actor : ServerActor} (hfind : s.actors.find p = some actor) :
    ∃ (handled : List Handled) (pending : List Exchange),
      exchangesOf p trace = handled.flatMap Handled.exchanges ++ pending ∧
      (∀ h ∈ handled, h.decision.type.Answers h.ack) ∧
      (actor.point = .terminated → s.crashed = true) ∧
      (pending = [] ∧ actor.point ≠ .ended ∨
        (∃ d, pending = [.asked d] ∧ actor.point ≠ .reading ∧ actor.point ≠ .ended) ∨
        ∃ d value socket, d.type = .quit value ∧ actor.point = .ended ∧
          pending = [.asked d, .told (.actorQuit socket)]) := by
  have hinv : ExchangeInv s trace :=
    hrun.guarded_invariant (P := fun _ => ExchangeInv) hnormal (ExchangeInv.spawn connections)
      fun _ hinv hguard hstep => by
        obtain ⟨all, hserver, rfl⟩ := exchangeStep_eq_some hstep
        exact hinv.step hserver hguard.1
  have haborts : ∀ e ∈ exchangesOf p trace, e.aborts = false := by
    intro e he
    obtain ⟨⟨q, e'⟩, hmem, heq⟩ := List.mem_filterMap.mp he
    split at heq
    · cases heq
      exact not_aborts_of_normal hrun hnormal _ hmem
    · cases heq
  obtain ⟨handled, pending, heq, hfits, hpending⟩ := hinv.inStep p actor hfind
  have hlast : ∀ e ∈ pending, e.aborts = false := by
    intro e he
    refine haborts e ?_
    rw [heq]
    exact List.mem_append_right _ he
  refine ⟨handled, pending, heq, fun h hmem => (hfits h hmem).answers, ?_, ?_⟩
  · intro hterminated
    by_contra hcrashed
    rw [hterminated, Bool.eq_false_iff.mpr hcrashed] at hpending
    exact not_inStep_terminated hpending.inStep
  · obtain ⟨socket, point⟩ := actor
    cases hpending with
    | idle _ hidle =>
        refine Or.inl ⟨rfl, ?_⟩
        rintro rfl
        cases hidle
    | thinking _ d hframe =>
        refine Or.inr (Or.inl ⟨d, rfl, ?_, ?_⟩)
        · rintro rfl
          cases hframe
        · rintro rfl
          cases hframe
    | handling _ frame d hframe =>
        refine Or.inr (Or.inl ⟨d, rfl, ?_, ?_⟩)
        · rintro rfl
          cases hframe
        · rintro rfl
          cases hframe
    | creating canConnectAck child d => exact Or.inr (Or.inl ⟨d, rfl, nofun, nofun⟩)
    | quit d value socket' hd => exact Or.inr (Or.inr ⟨d, value, socket', hd, rfl, rfl⟩)
    | failed asked reason =>
        have hlast := hlast (.told (.simulationAborted reason))
          (List.mem_append_right _ (List.mem_singleton_self _))
        cases hlast
    | undefined d => exact Or.inr (Or.inl ⟨d, rfl, nofun, nofun⟩)

end

/-! ### Runs with exceptions -/

/-- The server with the initial actor 2. -/
def exchangeServer : Simulation permissiveS4u :=
  Simulation.spawn permissiveS4u [{ actorId := 2, actorName := "a", hostName := "h", socket := some 10 }]

/-- A wait that is canceled, an execution whose host fails, a failed lookup, and a quit. -/
def caughtEvents : List (SimEvent permissiveS4u) :=
  [.schedule 2, .decision { type := .mailboxPutAsync { mailbox := { name := "m" }, data := [7] } },
    .serve 2 (.address 100), .schedule 2,
    .decision { type := .commWaitFor { comm := { address := 100 }, timeout := -1 } },
    .serve 2 .cancelException, .schedule 2, .decision { type := .thisActorExecute 1 },
    .serve 2 .hostFailureException, .schedule 2, .decision { type := .mutexLock { address := 5 } },
    .decision { type := .quit true }]

theorem acknowledged_in_step_caught :
    ∃ s trace actor, Run (exchangeStep permissiveS4u) exchangeServer caughtEvents s trace ∧
      s.actors.find 2 = some actor ∧
      ∃ (handled : List Handled) (pending : List Exchange),
        exchangesOf 2 trace = handled.flatMap Handled.exchanges ++ pending ∧
        (∀ h ∈ handled, h.decision.type.Answers h.ack) ∧
        (actor.point = .terminated → s.crashed = true) ∧
        (pending = [] ∧ actor.point ≠ .ended ∨
          (∃ d, pending = [.asked d] ∧ actor.point ≠ .reading ∧ actor.point ≠ .ended) ∨
          ∃ d value socket, d.type = .quit value ∧ actor.point = .ended ∧
            pending = [.asked d, .told (.actorQuit socket)]) := by
  obtain ⟨s, trace, actor, hexec, hfind⟩ : ∃ s trace actor,
      exec (exchangeStep permissiveS4u) exchangeServer caughtEvents = some (s, trace) ∧
      s.actors.find 2 = some actor := ⟨_, _, _, rfl, rfl⟩
  have hrun := Run.of_exec hexec
  exact ⟨s, trace, actor, hrun, hfind, acknowledged_in_step hrun (Throughout.of_check rfl) hfind⟩

/-- The run with the caught exceptions meets the condition. -/
theorem allInStep_iff_caught :
    Always (exchangeStep permissiveS4u) AllInStep exchangeServer caughtEvents := by
  obtain ⟨s, trace, hexec⟩ : ∃ s trace,
      exec (exchangeStep permissiveS4u) exchangeServer caughtEvents = some (s, trace) :=
    ⟨_, _, rfl⟩
  exact (allInStep_iff (Run.of_exec hexec)).mpr (Throughout.of_check rfl)

/-- A link fails during a blocking put. -/
def networkFailureEvents : List (SimEvent permissiveS4u) :=
  [.schedule 2, .decision { type := .mailboxPut { mailbox := { name := "m" }, data := [7] } },
    .serve 2 (.otherException "NetworkFailureException"), .schedule 2]

/-- The client waits for an acknowledgment, the actor is no more, and the command thread was told
nothing. -/
theorem network_failure_leaves_client_waiting :
    ∃ s trace, Run (exchangeStep permissiveS4u) exchangeServer networkFailureEvents s trace ∧
      ¬AllInStep s trace ∧ s.crashed = false ∧
      s.actors.find 2 = some { socket := 10, point := .terminated } ∧
      exchangesOf 2 trace =
        [.asked { type := .mailboxPut { mailbox := { name := "m" }, data := [7] } },
          .thrown (.otherException "NetworkFailureException")] := by
  obtain ⟨s, trace, hexec, hcrashed, hfind, hexchanges⟩ : ∃ s trace,
      exec (exchangeStep permissiveS4u) exchangeServer networkFailureEvents = some (s, trace) ∧
      s.crashed = false ∧ s.actors.find 2 = some { socket := 10, point := .terminated } ∧
      exchangesOf 2 trace =
        [.asked { type := .mailboxPut { mailbox := { name := "m" }, data := [7] } },
          .thrown (.otherException "NetworkFailureException")] := by
    refine ⟨_, _, rfl, ?_⟩
    exact ⟨rfl, rfl, rfl⟩
  refine ⟨s, trace, Run.of_exec hexec, ?_, hcrashed, hfind, hexchanges⟩
  intro h
  have hactor := h 2 _ hfind
  rw [hcrashed] at hactor
  exact not_inStep_terminated hactor

end RemoteSimgrid
