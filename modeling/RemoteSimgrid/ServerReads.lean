import RemoteSimgrid.ServerAgreement
import RemoteSimgrid.ServerWires
import RemoteSimgrid.SimulationAsked

/-! The server between the acknowledgment of a decision and the next decision: the actor that has written
the acknowledgment keeps the thread of SimGrid, and nothing but a decision makes it go on. -/

namespace RemoteSimgrid

open Machine Pb

/-- The acknowledgments of decisions that a step of the server writes. -/
def decisionAcks (out : List ServerOutput) : List (Pid × DecisionAck) :=
  out.filterMap fun
    | .simulation _ (.writeAck p _ ack) => some (p, ack)
    | _ => none

/-- The actor works on a decision. -/
def ActorPoint.working : ActorPoint → Bool
  | .calling _ (.firstYield _) | .returned _ (.firstYield _) => false
  | .calling _ _ | .returned _ _ | .waitingCanConnectAck _ _ => true
  | _ => false

def Simulation.Works {K : S4u} (s : Simulation K) (p : Pid) : Prop :=
  ∃ point, s.point p = some point ∧ point.working = true

/-- The actor runs, and reads its next decision. -/
structure Simulation.Reads {K : S4u} (s : Simulation K) (p : Pid) : Prop where
  current : s.current = some p
  point : s.point p = some .reading

section

variable {K : S4u} {s t : Simulation K} {event : SimEvent K} {out : List SimOutput} {p q : Pid}
  {socket : Socket} {segment : Segment}

theorem Simulation.Reads.not_works (h : s.Reads p) : ¬s.Works p := by
  rintro ⟨point, hpoint, hworking⟩
  rw [h.point, Option.some.injEq] at hpoint
  rw [← hpoint] at hworking
  cases hworking

theorem returned_working {ret : S4uReturn} {frame : Frame} (h : ∀ connectAck, frame ≠ .firstYield connectAck) :
    (ActorPoint.returned ret frame).working = true := by
  cases frame with
  | firstYield connectAck => exact absurd rfl (h connectAck)
  | _ => rfl

/-- An actor begins to work on a decision when it reads it. -/
theorem Ran.works (h : Ran s event p socket segment) (hworking : segment.outcome.point.working = true) :
    s.Works p ∨ s.Reads p ∧ ∃ d, event = .decision d := by
  cases h with
  | firstYield => cases hworking
  | resumed _ actor ret frame _ hcurrent hfind hpoint hresumed =>
      have hs : s.point p = some (.returned ret frame) := point_eq_some.mpr ⟨actor, hfind, hpoint⟩
      cases frame with
      | firstYield connectAck =>
          cases hresumed.looped rfl with
          | escaped => cases hworking
          | connected => cases hworking
      | _ => exact Or.inl ⟨_, hs, rfl⟩
  | decided _ _ d hcurrent hfind =>
      exact Or.inr ⟨⟨hcurrent, point_eq_some.mpr ⟨_, hfind, rfl⟩⟩, d, rfl⟩
  | thinking _ _ d hcurrent hfind =>
      exact Or.inr ⟨⟨hcurrent, point_eq_some.mpr ⟨_, hfind, rfl⟩⟩, d, rfl⟩
  | badThinkTime => cases hworking
  | readFailed => cases hworking
  | childAccepted _ _ queue child hcurrent hfind =>
      exact Or.inl ⟨_, point_eq_some.mpr ⟨_, hfind, rfl⟩, rfl⟩
  | badCanConnectAck => cases hworking

theorem SimStep.works (h : SimStep s event t out) (hworks : t.Works q) :
    s.Works q ∨ s.Reads q ∧ ∃ d, event = .decision d := by
  obtain ⟨point, hpoint, hworking⟩ := hworks
  obtain ⟨actor, hfind, rfl⟩ := point_eq_some.mp hpoint
  cases h.moved hfind with
  | stayed hs => exact Or.inl ⟨_, point_eq_some.mpr ⟨actor, hs, rfl⟩, hworking⟩
  | ran before socket segment _ hran _ heq =>
      subst heq
      exact hran.works hworking
  | served before call frame ret _ hbefore hat heq =>
      subst heq
      refine Or.inl ⟨_, point_eq_some.mpr ⟨before, hbefore, hat⟩, ?_⟩
      cases frame with
      | firstYield => cases hworking
      | _ => rfl
  | started before _ _ _ heq => subst heq; cases hworking
  | spawned p before name host connectAck frame _ _ _ _ heq => subst heq; cases hworking
  | connected before connectAck socket _ _ _ heq => subst heq; cases hworking
  | connectFailed before _ heq => subst heq; cases hworking

/-- The actor that a step acknowledges has worked on a decision, or reads it in this step. -/
theorem Acked.works {ack : DecisionAck} (h : Acked s t p ack event) :
    s.Works p ∨ s.Reads p ∧ ∃ d, event = .decision d := by
  cases h with
  | dispatched _ d _ hdispatches =>
      cases hdispatches with
      | now _ socket _ hcurrent hfind =>
          exact Or.inr ⟨⟨hcurrent, point_eq_some.mpr ⟨_, hfind, rfl⟩⟩, d, rfl⟩
      | later _ actor _ _ hfind hat => exact Or.inl ⟨_, point_eq_some.mpr ⟨actor, hfind, hat⟩, rfl⟩
  | resumed actor ret frame segment sendAck hfind hat hloop =>
      refine Or.inl ⟨_, point_eq_some.mpr ⟨actor, hfind, hat⟩, returned_working ?_⟩
      rintro connectAck rfl
      cases hloop
  | created canConnectAck child hat => exact Or.inl ⟨_, hat, rfl⟩

/-- A step writes one acknowledgment at most; its actor keeps the thread and reads. -/
theorem SimStep.answers (h : SimStep s event t out) :
    acks out = [] ∨ ∃ p ack, acks out = [(p, ack)] ∧ t.Reads p ∧
      (s.Works p ∨ s.Reads p ∧ ∃ d, event = .decision d) := by
  refine h.acked.imp_right ?_
  rintro ⟨p, ack, hacks, hacked, hpoint⟩
  refine ⟨p, ack, hacks, ⟨?_, hpoint⟩, hacked.works⟩
  cases h with
  | ran _ q socket segment hran =>
      rcases hran.turn.acks with hnone | ⟨ack', sendAck, hone, houtcome⟩
      · have hempty : acks (segment.out ++ segment.outcome.out q socket) = [(p, ack)] := hacks
        rw [hnone] at hempty
        cases hempty
      · have hsame : acks (segment.out ++ segment.outcome.out q socket) = [(p, ack)] := hacks
        rw [hone, List.cons.injEq, Prod.mk.injEq] at hsame
        simp only [Simulation.conclude, houtcome, Outcome.keepsThread, Bool.not_false, if_true, hsame.1.1]
  | progressed event kernel writes =>
      have hnone : acks (writes.map fun write => SimOutput.transferred write.1 write.2) = [] := by
        refine List.filterMap_eq_nil_iff.mpr fun o ho => ?_
        obtain ⟨write, -, rfl⟩ := List.mem_map.mp ho
        rfl
      rw [hnone] at hacks
      cases hacks
  | _ => cases hacks

/-- While the running actor reads, the thread of SimGrid makes no other step. -/
theorem SimStep.of_reads (h : SimStep s event t out) (hreads : s.Reads p) :
    (∃ d, event = .decision d) ∨ ∃ e, event = .readError e := by
  have hbusy : s.current ≠ none := by
    rw [hreads.current]
    exact Option.some_ne_none p
  have hreading : ∀ {q : Pid} {actor : ServerActor}, s.current = some q → s.actors.find q = some actor →
      actor.point = .reading := by
    intro q actor hcurrent hfind
    rw [hreads.current, Option.some.injEq] at hcurrent
    subst hcurrent
    obtain ⟨actor', hfind', hpoint⟩ := point_eq_some.mp hreads.point
    rw [hfind, Option.some.injEq] at hfind'
    exact hfind' ▸ hpoint
  cases h with
  | ran _ q socket segment hran =>
      cases hran with
      | firstYield _ _ _ hcurrent => exact absurd hcurrent hbusy
      | resumed _ _ _ _ _ hcurrent => exact absurd hcurrent hbusy
      | decided _ _ d => exact Or.inl ⟨d, rfl⟩
      | thinking _ _ d => exact Or.inl ⟨d, rfl⟩
      | badThinkTime _ _ d => exact Or.inl ⟨d, rfl⟩
      | readFailed _ _ e => exact Or.inr ⟨e, rfl⟩
      | childAccepted _ _ _ _ hcurrent hfind => cases hreading hcurrent hfind
      | badCanConnectAck _ _ _ _ _ _ hcurrent hfind => cases hreading hcurrent hfind
  | started _ _ hcurrent => exact absurd hcurrent hbusy
  | served _ _ _ _ _ _ _ hcurrent => exact absurd hcurrent hbusy
  | progressed _ _ _ hcurrent => exact absurd hcurrent hbusy
  | progressFailed _ _ _ hcurrent => exact absurd hcurrent hbusy
  | round hcurrent => exact absurd hcurrent hbusy
  | connected _ _ _ _ hcurrent hfind => cases hreading hcurrent hfind
  | connectFailed _ _ _ _ hcurrent hfind => cases hreading hcurrent hfind

end

section

variable {K : S4u} {platformFile : String} {s t : Server K} {event : ServerEvent K}
  {out : List ServerOutput} {p q : Pid}

/-- The running actor of the server reads its next decision. -/
structure Server.Reads (s : Server K) (p : Pid) : Prop where
  running : s.maestro = .running
  reads : s.simulation.Reads p

theorem decisionAcks_serve (out : List ServeOutput) : decisionAcks (out.map .serve) = [] := by
  refine List.filterMap_eq_nil_iff.mpr fun o ho => ?_
  obtain ⟨o', -, rfl⟩ := List.mem_map.mp ho
  rfl

theorem decisionAcks_simulation (actor : Option Pid) (out : List SimOutput) :
    decisionAcks (out.map (.simulation actor)) = acks out := by
  rw [decisionAcks, acks, List.filterMap_map]
  apply List.filterMap_congr
  intro o _
  cases o <;> rfl

theorem ServerStep.answers (h : ServerStep platformFile s event t out) :
    decisionAcks out = [] ∨ ∃ p ack, decisionAcks out = [(p, ack)] ∧ t.Reads p ∧
      (s.simulation.Works p ∨
        s.simulation.Reads p ∧ ∃ d, event = .simulation (.decision d)) := by
  cases h with
  | popped msg rest serve sent => exact Or.inl (decisionAcks_serve sent)
  | served event serve sent => exact Or.inl (decisionAcks_serve sent)
  | ran event simulation sent hmaestro _ hsim =>
      rw [decisionAcks_simulation]
      refine (simulationStep_cases hsim).2.answers.imp_right ?_
      rintro ⟨p, ack, hacks, hreads, hbefore⟩
      refine ⟨p, ack, hacks, ⟨hmaestro, hreads⟩, hbefore.imp_right ?_⟩
      exact fun ⟨hread, d, hd⟩ => ⟨hread, d, by rw [hd]⟩
  | received event p queue msg rest simulation sent hmaestro _ _ _ _ hsim =>
      rw [show decisionAcks (.received p msg :: sent.map (.simulation (some p))) =
        decisionAcks (sent.map (.simulation (some p))) from rfl, decisionAcks_simulation]
      refine (simulationStep_cases hsim).2.answers.imp_right ?_
      rintro ⟨p, ack, hacks, hreads, hbefore⟩
      refine ⟨p, ack, hacks, ⟨hmaestro, hreads⟩, hbefore.imp_right ?_⟩
      exact fun ⟨hread, d, hd⟩ => ⟨hread, d, by rw [hd]⟩
  | unknownHost => exact Or.inl rfl
  | spawned => exact Or.inl rfl
  | aborted => exact Or.inl rfl
  | finished => exact Or.inl rfl

theorem ServerStep.works (h : ServerStep platformFile s event t out) (hworks : t.simulation.Works q) :
    s.simulation.Works q ∨ s.simulation.Reads q ∧ ∃ d, event = .simulation (.decision d) := by
  cases h with
  | popped => exact Or.inl hworks
  | served event serve sent =>
      refine Or.inl ?_
      cases event with
      | command socket command => cases command <;> exact hworks
      | _ => exact hworks
  | ran event simulation sent _ _ hsim =>
      refine ((simulationStep_cases hsim).2.works hworks).imp_right ?_
      exact fun ⟨hread, d, hd⟩ => ⟨hread, d, by rw [hd]⟩
  | received event p queue msg rest simulation sent _ _ _ _ _ hsim =>
      refine ((simulationStep_cases hsim).2.works hworks).imp_right ?_
      exact fun ⟨hread, d, hd⟩ => ⟨hread, d, by rw [hd]⟩
  | unknownHost => exact Or.inl hworks
  | spawned =>
      obtain ⟨point, hpoint, hworking⟩ := hworks
      obtain ⟨actor, hfind, rfl⟩ := point_eq_some.mp hpoint
      rw [find_spawn hfind] at hworking
      cases hworking
  | aborted => exact Or.inl hworks
  | finished => exact Or.inl hworks

/-- While the running actor reads, the other steps of the server leave it alone. -/
theorem ServerStep.of_reads (h : ServerStep platformFile s event t out) (hreads : s.Reads p)
    (hdecision : ∀ d, event ≠ .simulation (.decision d)) :
    decisionAcks out = [] ∧ ((∀ e, event ≠ .simulation (.readError e)) → t.Reads p) := by
  have hkept : t.maestro = s.maestro → t.simulation = s.simulation → t.Reads p := by
    intro hmaestro hsimulation
    exact ⟨hmaestro.trans hreads.running, hsimulation ▸ hreads.reads⟩
  have hsim : ∀ {event : SimEvent K} {simulation : Simulation K} {sent : List SimOutput},
      (∀ d, event ≠ .decision d) → simulationStep K s.simulation event = some (simulation, sent) →
      (∃ e, event = .readError e) ∧ acks sent = [] := by
    intro event simulation sent hevent hstep
    have hcases := (simulationStep_cases hstep).2
    rcases hcases.of_reads hreads.reads with ⟨d, hd⟩ | herror
    · exact absurd hd (hevent d)
    · refine ⟨herror, ?_⟩
      rcases hcases.answers with hnone | ⟨q, ack, -, hafter, hworks | ⟨-, d, hd⟩⟩
      · exact hnone
      · obtain ⟨e, rfl⟩ := herror
        cases hcases with
        | ran _ _ _ _ hran =>
            cases hran with
            | readFailed => cases hafter.current
      · exact absurd hd (hevent d)
  cases h with
  | popped msg rest serve sent => exact ⟨decisionAcks_serve sent, fun _ => hkept rfl rfl⟩
  | served event serve sent =>
      refine ⟨decisionAcks_serve sent, fun _ => ?_⟩
      cases event with
      | command socket command => cases command <;> exact hkept rfl rfl
      | _ => exact hkept rfl rfl
  | ran event simulation sent _ _ hstep =>
      obtain ⟨⟨e, rfl⟩, hnone⟩ := hsim (fun d hd => hdecision d (by rw [hd])) hstep
      rw [decisionAcks_simulation]
      exact ⟨hnone, fun herror => absurd rfl (herror e)⟩
  | received event q queue msg rest simulation sent _ hpops _ _ _ hstep =>
      obtain ⟨⟨e, rfl⟩, -⟩ := hsim (fun d hd => hdecision d (by rw [hd])) hstep
      cases hpops
  | unknownHost _ _ _ _ hmaestro =>
      rw [hreads.running] at hmaestro
      cases hmaestro
  | spawned _ _ _ hmaestro =>
      rw [hreads.running] at hmaestro
      cases hmaestro
  | aborted _ hmaestro =>
      rw [hreads.running] at hmaestro
      cases hmaestro
  | finished _ hended =>
      have hcurrent := hreads.reads.current
      rw [hended.1] at hcurrent
      cases hcurrent

/-! ### Accepted connections -/

/-- A client is connected as the actor. -/
def Serve.Connected (s : Serve) (p : Pid) : Prop :=
  ∃ connection socket, s.actorConnections.find p = some connection ∧ connection.socket = some socket

theorem Serve.Connected.step {serve serve' : Serve} {event : ServeEvent} {sent : List ServeOutput}
    (h : serve.Connected p) (hstep : serveStep serve event = some (serve', sent)) :
    serve'.Connected p := by
  obtain ⟨connection, socket, hfind, hsocket⟩ := h
  exact ⟨connection, socket, find_step (serveStep_cases hstep) hfind hsocket, hsocket⟩

theorem ServerStep.connected (h : ServerStep platformFile s event t out)
    (hconnected : s.serve.Connected p) : t.serve.Connected p := by
  cases h with
  | popped msg rest serve sent _ hserve => exact hconnected.step hserve
  | served event serve sent _ hserve => exact hconnected.step hserve
  | _ => exact hconnected

theorem commandAnswer_serve (out : List ServeOutput) :
    (commandAnswer (out.map .serve)).map (·.2) = commandAck out := by
  induction out with
  | nil => rfl
  | cons o out ih =>
      cases o with
      | writeCommandAck socket ack => rfl
      | push queue msg => exact ih

/-- A `CONNECT` that is accepted is the first one of its actor. -/
theorem handleCommand_first {serve serve' : Serve} {actor : Actor} {socket : Socket}
    {sent : List ServeOutput} {drop : Bool}
    (h : serve.handleCommand (.connect actor) socket = .ok (serve', sent, drop)) {ack : CommandAck}
    (hack : commandAck sent = some ack) (hsuccess : ack.success = true) :
    ¬serve.Connected actor.id ∧ serve'.Connected actor.id := by
  rcases handleCommand_accepted h with ⟨-, hrefused⟩ | ⟨hkilled, ack', -, -, connection, hfind, hsocket⟩
  · rw [hrefused, Option.some.injEq] at hack
    rw [← hack] at hsuccess
    cases hsuccess
  · refine ⟨?_, connection, socket, hfind, hsocket⟩
    rintro ⟨connection', socket', hfind', hsocket'⟩
    simp only [Serve.handleCommand, rsgEnforce_eq_ok, hkilled, hfind', hsocket', ne_eq, not_false_eq_true,
      if_true, reduceCtorEq, false_and, and_false] at h

theorem serverStep_connect {socket socket' : Socket} {ack : CommandAck}
    (h : serverStep K platformFile s (.serve (.command socket (.connect { id := p }))) = some (t, out))
    (hanswer : commandAnswer out = some (socket', ack)) :
    t.simulation = s.simulation ∧ t.maestro = s.maestro ∧
      (ack.success = true → ¬s.serve.Connected p ∧ t.serve.Connected p) := by
  cases serverStep_cases h with
  | served _ serve sent _ hserve =>
      refine ⟨rfl, rfl, fun hsuccess => ?_⟩
      obtain ⟨u, drop, hhandled, rfl⟩ := serveStep_command hserve
      have hack : commandAck sent = some ack := by
        rw [← commandAnswer_serve, hanswer]
        rfl
      obtain ⟨hfirst, hconnected⟩ := handleCommand_first hhandled hack hsuccess
      exact ⟨hfirst, hconnected⟩

end

end RemoteSimgrid
