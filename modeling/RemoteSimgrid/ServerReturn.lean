import RemoteSimgrid.ServerThreads
import RemoteSimgrid.SimulationExchangeRuns

/-! The return code of `serve`. Several producers push on `to_command`, the command thread stops at the
first message that ends its loop; the order of the pushes makes that message the right one. -/

namespace RemoteSimgrid

open Machine Pb

/-- The command thread leaves its loop when it pops this message. -/
def InterthreadMessage.ending : InterthreadMessage → Bool
  | .simulationFinished | .simulationAborted _ => true
  | _ => false

/-- An actor announces its end with this message. -/
def InterthreadMessage.terminal : InterthreadMessage → Bool
  | .actorQuit _ | .simulationAborted _ => true
  | _ => false

def Outcome.raises : Outcome → Bool
  | .raised _ => true
  | _ => false

/-- The actor that a step runs ends with an `rsg::Error`. -/
def SimEvent.raises {K : S4u} (s : Simulation K) : SimEvent K → Bool
  | .schedule p =>
      match s.actors.find p with
      | some { socket, point := .returned ret frame } =>
          match resume K s.kernel p socket frame ret s.memory with
          | some segment => segment.outcome.raises
          | none => false
      | _ => false
  | .decision d =>
      match s.current with
      | some p => (handleDecision K s.kernel p d s.memory).outcome.raises
      | none => false
  | .readError _ => true
  | .canConnectAck msg => decide (msg ≠ .actorCreateAck)
  | _ => false

/-! ### The messages of an actor -/

section

variable {K : S4u} {s t : Simulation K} {event : SimEvent K} {out : List SimOutput} {p : Pid}
  {socket : Socket} {segment : Segment}

/-- The messages that a turn with this outcome pushes on `to_command`. -/
inductive Outcome.Sends (outcome : Outcome) : List InterthreadMessage → Prop
  | nothing : outcome.point ≠ .ended → outcome.raises = false → Sends outcome []
  | creation (child : Pid) (canConnectAck connectAck : Queue) : outcome.point ≠ .ended →
      outcome.raises = false → Sends outcome [.actorCreate child canConnectAck connectAck]
  | quit (socket : Socket) : outcome.point = .ended → outcome.raises = false →
      Sends outcome [.actorQuit socket]
  | abort (reason : String) : outcome.point = .ended → outcome.raises = true →
      Sends outcome [.simulationAborted reason]

theorem Turn.sends (h : Turn s event p socket segment) :
    segment.outcome.Sends
      ((segment.out ++ segment.outcome.out p socket).filterMap SimOutput.sent) := by
  rw [List.filterMap_append]
  cases h with
  | ends m out outcome _ hout hends =>
      rw [sent_of_internal hout]
      cases outcome with
      | finished ack sendAck quitReceived =>
          obtain ⟨rfl, rfl⟩ : sendAck = false ∧ quitReceived = true := by
            simpa [Outcome.ends] using hends
          exact .quit socket rfl rfl
      | raised e => exact .abort _ rfl rfl
      | escaped => exact .nothing nofun rfl
      | undefinedBehaviour => exact .nothing nofun rfl
      | _ => cases hends
  | replies m out ack _ hout _ =>
      rw [sent_of_internal hout]
      exact .nothing nofun rfl
  | suspends m out call frame _ hout _ _ =>
      rw [sent_of_internal hout]
      exact .nothing nofun rfl
  | requests out name host hout =>
      rw [sent_of_internal hout]
      exact .nothing nofun rfl
  | yields => exact .nothing nofun rfl
  | waits => exact .nothing nofun rfl
  | asks actor canConnectAck connectAck child => exact .creation child canConnectAck connectAck nofun rfl
  | delivers => exact .nothing nofun rfl
  | tells => exact .nothing nofun rfl

/-- A turn raises an error exactly when it announces an abort. -/
theorem Outcome.Sends.aborts {outcome : Outcome} {messages : List InterthreadMessage}
    (h : outcome.Sends messages) :
    outcome.raises = true ↔ ∃ reason, .simulationAborted reason ∈ messages := by
  cases h with
  | nothing _ hraises => simp [hraises]
  | creation _ _ _ _ hraises => simp [hraises]
  | quit _ _ hraises => simp [hraises]
  | abort reason _ hraises => simp [hraises]

theorem not_aborts {messages : List InterthreadMessage} (h : messages = []) :
    ¬∃ reason, InterthreadMessage.simulationAborted reason ∈ messages := by
  rintro ⟨reason, hmem⟩
  rw [h] at hmem
  cases hmem

theorem simulationStep_raises (h : simulationStep K s event = some (t, out)) :
    event.raises s = true ↔
      ∃ reason, InterthreadMessage.simulationAborted reason ∈ out.filterMap SimOutput.sent := by
  obtain ⟨hcrashed, hcases⟩ := simulationStep_cases h
  cases event with
  | schedule p =>
      cases hcurrent : s.current with
      | some q => simp [simulationStep, hcrashed, hcurrent] at h
      | none =>
          simp only [simulationStep, hcrashed, hcurrent, Bool.false_eq_true, if_false] at h
          split at h
          · cases h
          · rename_i actor hfind
            obtain ⟨socket, point⟩ := actor
            simp only at h
            split at h
            · cases h
              simp [SimEvent.raises, hfind]
            · rename_i connectAck
              cases h
              simp only [SimEvent.raises, hfind]
              exact (Turn.yields _ connectAck rfl hfind rfl).sends.aborts
            · rename_i ret frame
              split at h
              · rename_i segment hsegment
                cases h
                simp only [SimEvent.raises, hfind, hsegment]
                exact ((resume_resumed hsegment).turn hfind rfl).sends.aborts
              · cases h
            · cases h
  | decision d =>
      cases hcurrent : s.current with
      | none => simp [simulationStep, hcrashed, hcurrent] at h
      | some p =>
          simp only [simulationStep, hcrashed, hcurrent, Bool.false_eq_true, if_false] at h
          split at h
          · rename_i socket hfind
            cases h
            simp only [SimEvent.raises, hcurrent]
            exact (handleDecision_ran hcurrent hfind).turn.sends.aborts
          · cases h
  | canConnectAck msg =>
      cases hcurrent : s.current with
      | none => simp [simulationStep, hcrashed, hcurrent] at h
      | some p =>
          simp only [simulationStep, hcrashed, hcurrent, Bool.false_eq_true, if_false] at h
          split at h
          · rename_i socket canConnectAck child hfind
            cases h
            have hraises : (resumeCanConnectAck p socket child msg s.memory).outcome.raises =
                decide (msg ≠ .actorCreateAck) := by
              cases msg <;> rfl
            simp only [SimEvent.raises, ← hraises]
            exact (resumeCanConnectAck_ran hcurrent hfind).turn.sends.aborts
          · cases h
  | readError e =>
      cases hcases with
      | ran _ p socket segment hran =>
          cases hran with
          | readFailed _ _ _ hcurrent hfind => exact (Ran.readFailed p socket e hcurrent hfind).turn.sends.aborts
  | serve p ret =>
      cases hcases with
      | ran _ _ _ _ hran => cases hran
      | served => simp [SimEvent.raises, SimOutput.sent]
  | progress e =>
      cases hcases with
      | ran _ _ _ _ hran => cases hran
      | progressed _ kernel' writes =>
          simp only [SimEvent.raises, Bool.false_eq_true, false_iff]
          refine not_aborts (sent_of_internal ?_)
          intro o ho
          obtain ⟨write, -, rfl⟩ := List.mem_map.mp ho
          rfl
      | progressFailed => simp [SimEvent.raises]
  | round =>
      cases hcases with
      | ran _ _ _ _ hran => cases hran
      | round => simp [SimEvent.raises]
  | connectAck msg =>
      cases hcases with
      | ran _ _ _ _ hran => cases hran
      | connected => simp [SimEvent.raises]
      | connectFailed => simp [SimEvent.raises]

/-- The messages on `to_command` of a step, and the actors that have ended after it. -/
inductive Announces (s : Simulation K) (event : SimEvent K) (t : Simulation K) :
    List InterthreadMessage → Prop
  | nothing (messages : List InterthreadMessage) :
      (∀ msg ∈ messages, msg.terminal = false ∧ msg ≠ .simulationFinished) →
      (∀ q, t.point q = some .ended ↔ s.point q = some .ended) → Announces s event t messages
  | ended (p : Pid) (msg : InterthreadMessage) : event.runs s = some p → msg.terminal = true →
      s.point p ≠ some .ended → (∀ q, t.point q = some .ended ↔ q = p ∨ s.point q = some .ended) →
      Announces s event t [msg]

/-- An actor that is run has not ended. -/
theorem Ran.point (h : Ran s event p socket segment) :
    ∃ point, s.point p = some point ∧ point ≠ .ended := by
  have hfound : ∀ {actor : ServerActor}, s.actors.find p = some actor → actor.point ≠ .ended →
      ∃ point, s.point p = some point ∧ point ≠ .ended :=
    fun hfind hpoint => ⟨_, by rw [Simulation.point, hfind]; rfl, hpoint⟩
  cases h with
  | firstYield _ actor connectAck _ hfind hpoint =>
      exact hfound hfind (by rw [hpoint]; exact fun h => by cases h)
  | resumed _ actor ret frame _ _ hfind hpoint =>
      exact hfound hfind (by rw [hpoint]; exact fun h => by cases h)
  | decided _ _ _ _ hfind _ => exact hfound hfind (fun h => by cases h)
  | thinking _ _ _ _ hfind _ => exact hfound hfind (fun h => by cases h)
  | badThinkTime _ _ _ _ _ hfind _ => exact hfound hfind (fun h => by cases h)
  | readFailed _ _ _ _ hfind => exact hfound hfind (fun h => by cases h)
  | childAccepted _ _ _ _ _ hfind => exact hfound hfind (fun h => by cases h)
  | badCanConnectAck _ _ _ _ _ _ _ hfind _ => exact hfound hfind (fun h => by cases h)

/-- The service of a call ends no actor. -/
theorem serve_ended {call : S4uCall} {frame : Frame} {ret : S4uReturn} {actor : ServerActor}
    {kernel : K.State} (hfind : s.actors.find p = some actor) (hpoint : actor.point = .calling call frame)
    (hkernel : K.serve s.kernel p call ret = some kernel) (hcurrent : s.current = none)
    (hserve : s.serve p call frame ret kernel = some t) (q : Pid) :
    t.point q = some .ended ↔ s.point q = some .ended := by
  rw [point_eq_some, point_eq_some]
  constructor
  · rintro ⟨after, hafter, hended⟩
    rcases serve_find hserve hfind hafter with ⟨-, hreturned⟩ | ⟨-, hsame | ⟨-, _, hspawned⟩⟩
    · rw [hended] at hreturned
      cases hreturned
    · exact ⟨after, hsame, hended⟩
    · rw [hended] at hspawned
      cases hspawned
  · rintro ⟨before, hbefore, hended⟩
    have hstep := SimStep.served p actor call frame ret kernel t hcurrent hfind hpoint hkernel hserve
    cases hafter : t.actors.find q with
    | none =>
        rw [hstep.find_none hafter] at hbefore
        cases hbefore
    | some after =>
        refine ⟨after, rfl, ?_⟩
        rcases serve_find hserve hfind hafter with ⟨rfl, -⟩ | ⟨-, hsame | ⟨hnone, -⟩⟩
        · rw [hfind, Option.some.injEq] at hbefore
          rw [← hbefore, hpoint] at hended
          cases hended
        · rw [hsame, Option.some.injEq] at hbefore
          rw [hbefore, hended]
        · rw [hnone] at hbefore
          cases hbefore

theorem Ran.announces (h : Ran s event p socket segment) :
    Announces s event (({ s with ready := event.remaining s.ready }).conclude p socket segment).1
      ((segment.out ++ segment.outcome.out p socket).filterMap SimOutput.sent) := by
  obtain ⟨point, hpoint, hnot⟩ := h.point
  have hafter := h.points
  have hbefore : s.point p ≠ some .ended := by
    rw [hpoint]
    exact fun heq => hnot (Option.some.inj heq)
  have hgoes : segment.outcome.point ≠ .ended → ∀ q,
      (({ s with ready := event.remaining s.ready }).conclude p socket segment).1.point q =
        some .ended ↔ s.point q = some .ended := by
    intro hne q
    rw [hafter]
    split
    · rename_i heq
      rw [heq]
      exact ⟨fun heq => absurd (Option.some.inj heq) hne, fun heq => absurd heq hbefore⟩
    · exact Iff.rfl
  have hends : segment.outcome.point = .ended → ∀ q,
      (({ s with ready := event.remaining s.ready }).conclude p socket segment).1.point q =
        some .ended ↔ q = p ∨ s.point q = some .ended := by
    intro hend q
    rw [hafter, hend]
    split
    · rename_i heq
      exact ⟨fun _ => Or.inl heq, fun _ => rfl⟩
    · rename_i hne
      exact ⟨Or.inr, fun hor => hor.resolve_left hne⟩
  generalize hmessages : (segment.out ++ segment.outcome.out p socket).filterMap SimOutput.sent =
    messages
  have hsends := h.turn.sends
  rw [hmessages] at hsends
  cases hsends with
  | nothing hne _ => exact .nothing [] (List.forall_mem_nil _) (hgoes hne)
  | creation child canConnectAck connectAck hne _ =>
      exact .nothing _ (List.forall_mem_singleton.mpr ⟨rfl, nofun⟩) (hgoes hne)
  | quit socket hend _ => exact .ended p _ h.runs rfl hbefore (hends hend)
  | abort reason hend _ => exact .ended p _ h.runs rfl hbefore (hends hend)

theorem SimStep.announces (h : SimStep s event t out) :
    Announces s event t (out.filterMap SimOutput.sent) := by
  have hquiet : out.filterMap SimOutput.sent = [] →
      (∀ q, t.point q = some .ended ↔ s.point q = some .ended) →
      Announces s event t (out.filterMap SimOutput.sent) := by
    intro hnone hpoints
    rw [hnone]
    exact .nothing [] (List.forall_mem_nil _) hpoints
  have hset : ∀ {p : Pid} {actor : ServerActor} {point : ActorPoint}, s.actors.find p = some actor →
      actor.point ≠ .ended → point ≠ .ended →
      ∀ q, (s.setPoint p point).point q = some .ended ↔ s.point q = some .ended := by
    intro p actor point hfind hactor hne q
    rw [point_setPoint]
    split
    · rename_i heq
      subst heq
      simp [Simulation.point, hfind, hactor, hne]
    · exact Iff.rfl
  cases h with
  | ran _ p socket segment hran => exact hran.announces
  | started p actor _ hfind hpoint =>
      exact hquiet rfl (hset hfind (by rw [hpoint]; exact fun h => by cases h) (fun h => by cases h))
  | served p actor call frame ret kernel _ hcurrent hfind hpoint hkernel hserve =>
      exact hquiet rfl (serve_ended hfind hpoint hkernel hcurrent hserve)
  | progressed e kernel writes _ _ _ =>
      refine hquiet (sent_of_internal ?_) (fun _ => Iff.rfl)
      intro o ho
      obtain ⟨write, -, rfl⟩ := List.mem_map.mp ho
      rfl
  | progressFailed => exact hquiet rfl (fun _ => Iff.rfl)
  | round => exact hquiet rfl (fun _ => Iff.rfl)
  | connected p socket connectAck socket' _ hfind =>
      refine hquiet rfl ?_
      intro q
      rw [point_eq_some, point_eq_some, UnorderedMap.find_modify]
      split
      · rename_i heq
        subst heq
        simp [hfind]
      · exact Iff.rfl
  | connectFailed p socket connectAck msg _ hfind _ =>
      exact hquiet rfl (hset hfind (fun h => by cases h) (fun h => by cases h))

end

/-! ### What the threads have done -/

/-- The messages pushed on `to_command`, in order. -/
def pushedMessages (trace : List ServerOutput) : List InterthreadMessage :=
  trace.filterMap fun
    | .simulation _ out => out.sent
    | .maestro msg => some msg
    | _ => none

/-- The messages that the command thread has popped, in order. -/
def poppedMessages (trace : List ServerOutput) : List InterthreadMessage :=
  trace.filterMap fun
    | .popped msg => some msg
    | _ => none

/-- What `maestro` has found or spawned. -/
def launches (trace : List ServerOutput) : List ServerOutput :=
  trace.filter fun
    | .unknownHost _ | .spawned _ => true
    | _ => false

/-- The messages that `maestro` has pushed. -/
def maestroMessages (trace : List ServerOutput) : List InterthreadMessage :=
  trace.filterMap fun
    | .maestro msg => some msg
    | _ => none

/-- The messages by which an actor has announced its end. -/
def terminalMessages (p : Pid) (trace : List ServerOutput) : List InterthreadMessage :=
  (trace.filterMap fun
    | .simulation actor out => if actor = some p then out.sent else none
    | _ => none).filter (·.terminal)

section

variable (trace trace' : List ServerOutput)

@[simp] theorem pushedMessages_append :
    pushedMessages (trace ++ trace') = pushedMessages trace ++ pushedMessages trace' :=
  List.filterMap_append

@[simp] theorem poppedMessages_append :
    poppedMessages (trace ++ trace') = poppedMessages trace ++ poppedMessages trace' :=
  List.filterMap_append

@[simp] theorem launches_append : launches (trace ++ trace') = launches trace ++ launches trace' :=
  List.filter_append _ _

@[simp] theorem maestroMessages_append :
    maestroMessages (trace ++ trace') = maestroMessages trace ++ maestroMessages trace' :=
  List.filterMap_append

@[simp] theorem terminalMessages_append (p : Pid) :
    terminalMessages p (trace ++ trace') = terminalMessages p trace ++ terminalMessages p trace' := by
  simp only [terminalMessages, List.filterMap_append, List.filter_append]

end

/-- The outputs of a step of the command thread, apart from its pop. -/
theorem messages_serve (out : List ServeOutput) :
    pushedMessages (out.map .serve) = [] ∧ poppedMessages (out.map .serve) = [] ∧
      launches (out.map .serve) = [] ∧ maestroMessages (out.map .serve) = [] ∧
      ∀ p, terminalMessages p (out.map .serve) = [] := by
  simp [pushedMessages, poppedMessages, launches, maestroMessages, terminalMessages]

/-- The outputs of a step of the SimGrid thread. -/
theorem messages_simulation (actor : Option Pid) (out : List SimOutput) :
    pushedMessages (out.map (.simulation actor)) = out.filterMap SimOutput.sent ∧
      poppedMessages (out.map (.simulation actor)) = [] ∧
      launches (out.map (.simulation actor)) = [] ∧
      maestroMessages (out.map (.simulation actor)) = [] ∧
      ∀ p, terminalMessages p (out.map (.simulation actor)) =
        if actor = some p then (out.filterMap SimOutput.sent).filter (·.terminal) else [] := by
  refine ⟨?_, ?_, ?_, ?_, ?_⟩
  · rw [pushedMessages, List.filterMap_map]
    rfl
  · simp [poppedMessages]
  · simp [launches]
  · simp [maestroMessages]
  · intro p
    rw [terminalMessages, List.filterMap_map]
    by_cases hactor : actor = some p
    · simp [hactor]
    · simp [hactor]

/-! ### The vector of the initial actors -/

theorem map_actorId_of_checkConsecutive {first : ActorConnection} {others : List ActorConnection}
    {k : Nat} (h : checkConsecutive (first :: others) = .ok ()) (hfirst : first.actorId = k) :
    (first :: others).map (·.actorId) = consecutiveIds k (others.length + 1) := by
  induction others generalizing first k with
  | nil => simp [consecutiveIds, hfirst]
  | cons second others ih =>
      simp only [checkConsecutive, rsgEnforce_eq_ok] at h
      have hsecond : second.actorId = ((k + 1 : Nat) : Int) := by
        rw [← h.1, hfirst]
        rfl
      have htail := ih h.2 hsecond
      rw [List.map_cons, htail, hfirst]
      simp [consecutiveIds, List.range'_succ]

/-- What the conversion gives when it does not raise. -/
theorem connectionsUnorderedmapToVector_eq_ok {connections vector : List ActorConnection}
    (h : connectionsUnorderedmapToVector connections = .ok vector) :
    vector.Perm connections ∧ vector.map (·.actorId) = consecutiveIds 2 connections.length := by
  have hperm := List.perm_insertionSort (fun a b : ActorConnection => a.actorId ≤ b.actorId)
    connections
  unfold connectionsUnorderedmapToVector at h
  split at h
  · rename_i hsorted
    cases h
    rw [hsorted] at hperm
    exact ⟨hperm, by simp [← hperm.length_eq, consecutiveIds]⟩
  · rename_i first others hsorted
    rw [hsorted] at hperm
    rw [rsgEnforce_eq_ok] at h
    obtain ⟨hfirst, h⟩ := h
    split at h
    · cases h
    · rename_i hcheck
      rw [rsgEnforce_eq_ok] at h
      obtain ⟨-, h⟩ := h
      cases h
      refine ⟨hperm, ?_⟩
      rw [← hperm.length_eq]
      exact map_actorId_of_checkConsecutive hcheck hfirst

/-! ### The command thread -/

theorem serveStep_looping {s t : Serve} {event : ServeEvent} {out : List ServeOutput}
    (h : serveStep s event = some (t, out)) : s.serverState ≠ .simulationFinished := by
  intro hfinished
  unfold serveStep at h
  rw [if_pos hfinished] at h
  cases h

/-- Only the two ending messages end the loop or set the return code. -/
theorem ServeStep.code {s t : Serve} {event : ServeEvent} {out : List ServeOutput}
    (h : ServeStep s event t out) (hlooping : s.serverState ≠ .simulationFinished)
    (hevent : ∀ msg, event = .interthread msg → msg.ending = false) :
    t.serverState ≠ .simulationFinished ∧ t.returnCode = s.returnCode := by
  cases h with
  | accept => exact ⟨hlooping, rfl⟩
  | delete => exact ⟨hlooping, rfl⟩
  | command socket command v out dropClient _ hhandled =>
      cases hhandled with
      | added => exact ⟨hlooping, rfl⟩
      | started => exact ⟨nofun, rfl⟩
      | waiting => exact ⟨nofun, rfl⟩
      | killed => exact ⟨nofun, rfl⟩
      | unchanged => exact ⟨hlooping, rfl⟩
      | connectedDynamic => exact ⟨hlooping, rfl⟩
      | connectedLast => exact ⟨nofun, rfl⟩
      | connectedInitial => exact ⟨hlooping, rfl⟩
  | interthread msg _ _ _ _ hpopped =>
      have hending := hevent msg rfl
      cases hpopped with
      | finished => cases hending
      | aborted => cases hending
      | quit => exact ⟨hlooping, rfl⟩
      | created => exact ⟨hlooping, rfl⟩

section

variable {K : S4u} {platformFile : String} {s t : Server K} {event : ServerEvent K}
  {trace out : List ServerOutput}

/-- The queue is a FIFO, and the command thread has left its loop at the first ending message. -/
structure QueueInv (s : Server K) (trace : List ServerOutput) : Prop where
  fifo : pushedMessages trace = poppedMessages trace ++ s.toCommand
  looping : s.serve.serverState ≠ .simulationFinished →
    s.serve.returnCode = 0 ∧ ∀ msg ∈ poppedMessages trace, msg.ending = false
  left : s.serve.serverState = .simulationFinished → ∃ earlier last,
    poppedMessages trace = earlier ++ [last] ∧ (∀ msg ∈ earlier, msg.ending = false) ∧
      (last = .simulationFinished ∧ s.serve.returnCode = 0 ∨
        (∃ reason, last = .simulationAborted reason) ∧ s.serve.returnCode = 1)

namespace QueueInv

theorem init : QueueInv ({} : Server K) [] where
  fifo := rfl
  looping _ := ⟨rfl, List.forall_mem_nil _⟩
  left h := by cases h

/-- The rule for the threads that only push. -/
theorem pushed (h : QueueInv s trace) (hserve : t.serve = s.serve) (hpopped : poppedMessages out = [])
    (hqueue : t.toCommand = s.toCommand ++ pushedMessages out) : QueueInv t (trace ++ out) where
  fifo := by rw [pushedMessages_append, poppedMessages_append, h.fifo, hpopped, hqueue]; simp
  looping := by
    rw [hserve, poppedMessages_append, hpopped, List.append_nil]
    exact h.looping
  left := by
    rw [hserve, poppedMessages_append, hpopped, List.append_nil]
    exact h.left

/-- The rule for a step of the command thread that pops nothing. -/
theorem served {serve : Serve} {served : List ServeOutput} {event : ServeEvent}
    (h : QueueInv s trace) (hstep : serveStep s.serve event = some (serve, served))
    (hevent : ∀ msg, event ≠ .interthread msg) (ht : t.serve = serve)
    (hqueue : t.toCommand = s.toCommand) : QueueInv t (trace ++ served.map .serve) := by
  obtain ⟨hpushed, hpopped, -⟩ := messages_serve served
  have hlooping := serveStep_looping hstep
  obtain ⟨hstate, hcode⟩ := (serveStep_cases hstep).code hlooping
    (fun msg heq => absurd heq (hevent msg))
  exact
    { fifo := by
        rw [pushedMessages_append, poppedMessages_append, hpushed, hpopped, hqueue, h.fifo]
        simp
      looping := fun _ => by
        rw [ht, hcode, poppedMessages_append, hpopped, List.append_nil]
        exact h.looping hlooping
      left := fun hfinished => by
        rw [ht] at hfinished
        exact absurd hfinished hstate }

/-- The rule for a pop. -/
theorem popped {msg : InterthreadMessage} {rest : List InterthreadMessage} {serve : Serve}
    {served : List ServeOutput} (h : QueueInv s trace) (hmsg : s.toCommand = msg :: rest)
    (hstep : serveStep s.serve (.interthread msg) = some (serve, served)) (ht : t.serve = serve)
    (hqueue : t.toCommand = rest) : QueueInv t (trace ++ .popped msg :: served.map .serve) := by
  obtain ⟨hpushed, hpopped, -⟩ := messages_serve served
  have hpushes : pushedMessages (.popped msg :: served.map .serve) = [] := hpushed
  have hpops : poppedMessages (.popped msg :: served.map .serve) = [msg] :=
    congrArg (msg :: ·) hpopped
  have hlooping := serveStep_looping hstep
  obtain ⟨hzero, hearlier⟩ := h.looping hlooping
  have hfifo : pushedMessages (trace ++ .popped msg :: served.map .serve) =
      poppedMessages (trace ++ .popped msg :: served.map .serve) ++ t.toCommand := by
    rw [pushedMessages_append, poppedMessages_append, hpushes, hpops, hqueue, h.fifo, hmsg]
    simp
  by_cases hending : msg.ending = false
  · obtain ⟨hstate, hcode⟩ := (serveStep_cases hstep).code hlooping
      (fun msg' heq => by cases heq; exact hending)
    refine ⟨hfifo, fun _ => ⟨by rw [ht, hcode, hzero], ?_⟩, fun hfinished => ?_⟩
    · rw [poppedMessages_append, hpops]
      exact List.forall_mem_append.mpr ⟨hearlier, List.forall_mem_singleton.mpr hending⟩
    · rw [ht] at hfinished
      exact absurd hfinished hstate
  · have hends : serve.serverState = .simulationFinished ∧
        (msg = .simulationFinished ∧ serve.returnCode = 0 ∨
          (∃ reason, msg = .simulationAborted reason) ∧ serve.returnCode = 1) := by
      cases serveStep_cases hstep with
      | interthread _ _ _ _ _ hpopped =>
          cases hpopped with
          | finished => exact ⟨rfl, Or.inl ⟨rfl, hzero⟩⟩
          | aborted reason => exact ⟨rfl, Or.inr ⟨⟨reason, rfl⟩, rfl⟩⟩
          | quit => exact absurd rfl hending
          | created => exact absurd rfl hending
    refine ⟨hfifo, fun hnot => ?_, fun _ => ⟨poppedMessages trace, msg, ?_, hearlier, ?_⟩⟩
    · rw [ht] at hnot
      exact absurd hends.1 hnot
    · rw [poppedMessages_append, hpops]
    · rw [ht]
      exact hends.2

theorem step (h : QueueInv s trace) (hstep : ServerStep platformFile s event t out) :
    QueueInv t (trace ++ out) := by
  cases hstep with
  | popped msg rest serve served hqueue hserve => exact h.popped hqueue hserve rfl rfl
  | served event serve served hevent hserve =>
      refine h.served hserve hevent rfl ?_
      cases event with
      | command socket command => cases command <;> rfl
      | _ => rfl
  | unknownHost connections map vector connection => exact h.pushed rfl rfl (List.append_nil _).symm
  | spawned connections map vector => exact h.pushed rfl rfl (List.append_nil _).symm
  | ran event simulation out _ _ _ =>
      obtain ⟨hpushed, hpopped, -⟩ := messages_simulation (event.runs s.simulation) out
      exact h.pushed rfl hpopped (by rw [hpushed]; rfl)
  | received event p queue msg rest simulation out _ _ _ _ _ _ =>
      obtain ⟨hpushed, hpopped, -⟩ := messages_simulation (some p) out
      refine h.pushed rfl hpopped ?_
      change _ = s.toCommand ++ pushedMessages (out.map (.simulation (some p)))
      rw [hpushed]
      rfl
  | aborted reason => exact h.pushed rfl rfl rfl
  | finished => exact h.pushed rfl rfl rfl

end QueueInv

/-! ### `maestro` and the actors -/

/-- An actor ends with an `rsg::Error` in the step. -/
def Server.raises (s : Server K) : ServerEvent K → Bool
  | .simulation event => event.raises s.simulation
  | _ => false

/-- An actor has ended with an `rsg::Error` in the run. -/
def RaisedIn (K : S4u) (platformFile : String) (events : List (ServerEvent K)) : Prop :=
  ∃ before event after s trace, events = before ++ event :: after ∧
    Run (serverStep K platformFile) {} before s trace ∧ s.raises event = true

theorem raisedIn_nil : ¬RaisedIn K platformFile [] := by
  rintro ⟨before, event, after, _, _, heq, -⟩
  simp at heq

theorem raisedIn_snoc {events : List (ServerEvent K)}
    (hrun : Run (serverStep K platformFile) {} events s trace) :
    RaisedIn K platformFile (events ++ [event]) ↔
      RaisedIn K platformFile events ∨ s.raises event = true := by
  constructor
  · rintro ⟨before, event', after, t, first, heq, hbefore, hraises⟩
    rcases List.eq_nil_or_concat after with rfl | ⟨after', last, rfl⟩
    · obtain ⟨rfl, hevent⟩ := List.append_inj' heq rfl
      cases hevent
      obtain ⟨rfl, -⟩ := hrun.unique hbefore
      exact Or.inr hraises
    · have heq' : events ++ [event] = (before ++ event' :: after') ++ [last] := by
        rw [heq]
        simp
      obtain ⟨rfl, -⟩ := List.append_inj' heq' rfl
      exact Or.inl ⟨before, event', after', t, first, rfl, hbefore, hraises⟩
  · rintro (⟨before, event', after, t, first, rfl, hbefore, hraises⟩ | hraises)
    · exact ⟨before, event', after ++ [event], t, first, by simp, hbefore, hraises⟩
    · exact ⟨events, event, [], s, trace, rfl, hrun, hraises⟩

/-- The vector holds the entries of the map that the simulation was started with, by ascending id. -/
def Spawned (s : Server K) (vector : List ActorConnection) : Prop :=
  ∃ map ∈ s.serve.simulationThreads, vector.Perm map.values ∧
    vector.map (·.actorId) = consecutiveIds 2 map.size

/-- Each actor that has ended has announced it, once, and no other has. -/
def Announced (simulation : Simulation K) (trace : List ServerOutput) : Prop :=
  ∀ p, simulation.point p = some .ended ∧ (∃ msg, terminalMessages p trace = [msg]) ∨
    simulation.point p ≠ some .ended ∧ terminalMessages p trace = []

/-- What `maestro` and the actors have done, given whether an actor has raised an error. -/
inductive MaestroInv (s : Server K) (raised : Prop) (trace : List ServerOutput) : Prop
  | notCalled : s.maestro = .notCalled → launches trace = [] → maestroMessages trace = [] →
      pushedMessages trace = [] → (∀ p, terminalMessages p trace = []) → ¬raised →
      MaestroInv s raised trace
  | aborting (reason : String) (connection : ActorConnection) : s.maestro = .aborting reason →
      launches trace = [.unknownHost connection] → maestroMessages trace = [] →
      pushedMessages trace = [] → ¬raised → MaestroInv s raised trace
  | abandoned (reason : String) (connection : ActorConnection) : s.maestro = .returned →
      launches trace = [.unknownHost connection] →
      maestroMessages trace = [.simulationAborted reason] →
      pushedMessages trace = [.simulationAborted reason] → ¬raised → MaestroInv s raised trace
  | running (vector : List ActorConnection) : s.maestro = .running → Spawned s vector →
      launches trace = [.spawned vector] → maestroMessages trace = [] →
      .simulationFinished ∉ pushedMessages trace →
      (raised ↔ ∃ reason, .simulationAborted reason ∈ pushedMessages trace) →
      Announced s.simulation trace → MaestroInv s raised trace
  | finished (vector : List ActorConnection) (before after : List ServerOutput) :
      s.maestro = .returned → Spawned s vector → launches trace = [.spawned vector] →
      trace = before ++ .maestro .simulationFinished :: after → maestroMessages before = [] →
      maestroMessages after = [] → pushedMessages after = [] →
      .simulationFinished ∉ pushedMessages before →
      (raised ↔ ∃ reason, .simulationAborted reason ∈ pushedMessages before) →
      (∀ p actor, s.simulation.actors.find p = some actor →
        ∃ msg, terminalMessages p before = [msg]) → MaestroInv s raised trace

theorem Spawned.mono {vector : List ActorConnection} (h : Spawned s vector)
    (hthreads : ∀ map ∈ s.serve.simulationThreads, map ∈ t.serve.simulationThreads) :
    Spawned t vector := by
  obtain ⟨map, hmem, hperm, hids⟩ := h
  exact ⟨map, hthreads map hmem, hperm, hids⟩

theorem serveStep_threads {serve serve' : Serve} {event : ServeEvent} {out : List ServeOutput}
    (h : serveStep serve event = some (serve', out)) :
    ∀ map ∈ serve.simulationThreads, map ∈ serve'.simulationThreads := by
  intro map hmem
  rcases simulationThreads_step (serveStep_cases h) with ⟨-, -, heq⟩ | ⟨-, heq⟩
  · rw [heq]
    exact List.mem_append_left _ hmem
  · rw [heq]
    exact hmem

namespace MaestroInv

variable {raised raised' : Prop}

/-- The rule for a step of the command thread. -/
theorem quiet (h : MaestroInv s raised trace) (hmaestro : t.maestro = s.maestro)
    (hsimulation : t.simulation = s.simulation) (hraised : raised' ↔ raised)
    (hthreads : ∀ map ∈ s.serve.simulationThreads, map ∈ t.serve.simulationThreads)
    (hpushed : pushedMessages out = []) (hlaunches : launches out = [])
    (hmessages : maestroMessages out = []) (hterminal : ∀ p, terminalMessages p out = []) :
    MaestroInv t raised' (trace ++ out) := by
  have hlaunches' : launches (trace ++ out) = launches trace := by
    rw [launches_append, hlaunches, List.append_nil]
  have hmessages' : maestroMessages (trace ++ out) = maestroMessages trace := by
    rw [maestroMessages_append, hmessages, List.append_nil]
  have hpushed' : pushedMessages (trace ++ out) = pushedMessages trace := by
    rw [pushedMessages_append, hpushed, List.append_nil]
  have hterminal' : ∀ p, terminalMessages p (trace ++ out) = terminalMessages p trace := by
    intro p
    rw [terminalMessages_append, hterminal, List.append_nil]
  cases h with
  | notCalled hpoint hl hm hp hterm hnot =>
      exact .notCalled (hmaestro.trans hpoint) (hlaunches'.trans hl) (hmessages'.trans hm)
        (hpushed'.trans hp) (fun p => (hterminal' p).trans (hterm p)) (hraised.not.mpr hnot)
  | aborting reason connection hpoint hl hm hp hnot =>
      exact .aborting reason connection (hmaestro.trans hpoint) (hlaunches'.trans hl)
        (hmessages'.trans hm) (hpushed'.trans hp) (hraised.not.mpr hnot)
  | abandoned reason connection hpoint hl hm hp hnot =>
      exact .abandoned reason connection (hmaestro.trans hpoint) (hlaunches'.trans hl)
        (hmessages'.trans hm) (hpushed'.trans hp) (hraised.not.mpr hnot)
  | running vector hpoint hspawned hl hm hp hiff hannounced =>
      refine .running vector (hmaestro.trans hpoint) (hspawned.mono hthreads) (hlaunches'.trans hl)
        (hmessages'.trans hm) ?_ ?_ ?_
      · rw [hpushed']
        exact hp
      · rw [hpushed']
        exact hraised.trans hiff
      · intro p
        rw [hterminal', hsimulation]
        exact hannounced p
  | finished vector before after hpoint hspawned hl heq hbefore hafter hpafter hp hiff hactors =>
      refine .finished vector before (after ++ out) (hmaestro.trans hpoint) (hspawned.mono hthreads)
        (hlaunches'.trans hl) ?_ hbefore ?_ ?_ hp (hraised.trans hiff) ?_
      · rw [heq]
        simp
      · rw [maestroMessages_append, hafter, hmessages]
        rfl
      · rw [pushedMessages_append, hpafter, hpushed]
        rfl
      · rw [hsimulation]
        exact hactors

/-- The rule for a step of the SimGrid thread: the actors announce their ends, and an error. -/
theorem simulated {simulation : Simulation K} {event : SimEvent K} {sent : List SimOutput}
    (h : MaestroInv s raised trace) (hrunning : s.maestro = .running)
    (hstep : simulationStep K s.simulation event = some (simulation, sent))
    (ht : t.maestro = .running) (hserve : t.serve = s.serve) (hsimulation : t.simulation = simulation)
    (hpushed : pushedMessages out = sent.filterMap SimOutput.sent) (hlaunches : launches out = [])
    (hmessages : maestroMessages out = [])
    (hterminal : ∀ p, terminalMessages p out =
      if event.runs s.simulation = some p then (sent.filterMap SimOutput.sent).filter (·.terminal)
      else [])
    (hraised : raised' ↔ raised ∨ event.raises s.simulation = true) :
    MaestroInv t raised' (trace ++ out) := by
  have hannounces := (simulationStep_cases hstep).2.announces
  have hraises := simulationStep_raises hstep
  generalize hsent : sent.filterMap SimOutput.sent = messages at *
  cases h with
  | notCalled hpoint => rw [hpoint] at hrunning; cases hrunning
  | aborting _ _ hpoint => rw [hpoint] at hrunning; cases hrunning
  | abandoned _ _ hpoint => rw [hpoint] at hrunning; cases hrunning
  | finished _ _ _ hpoint => rw [hpoint] at hrunning; cases hrunning
  | running vector _ hspawned hl hm hp hiff hannounced =>
      refine .running vector ht (hspawned.mono (by rw [hserve]; exact fun _ => id)) ?_ ?_ ?_ ?_ ?_
      · rw [launches_append, hl, hlaunches]
        rfl
      · rw [maestroMessages_append, hm, hmessages]
        rfl
      · rw [pushedMessages_append, hpushed, List.mem_append]
        rintro (hmem | hmem)
        · exact hp hmem
        · cases hannounces with
          | nothing _ hquiet _ => exact (hquiet _ hmem).2 rfl
          | ended p msg _ hmsg _ _ =>
              rw [← List.mem_singleton.mp hmem] at hmsg
              cases hmsg
      · rw [hraised, hiff, hraises, pushedMessages_append, hpushed]
        simp only [List.mem_append, exists_or]
      · intro q
        rw [terminalMessages_append, hterminal, hsimulation]
        cases hannounces with
        | nothing _ hquiet hpoints =>
            have hnone : messages.filter (·.terminal) = [] := by
              rw [List.filter_eq_nil_iff]
              intro msg hmem
              simp [(hquiet msg hmem).1]
            rw [hnone, ite_self, List.append_nil]
            exact (hannounced q).imp (fun h => ⟨(hpoints q).mpr h.1, h.2⟩)
              (fun h => ⟨fun heq => h.1 ((hpoints q).mp heq), h.2⟩)
        | ended p msg hruns hmsg hbefore hpoints =>
            by_cases hq : q = p
            · subst hq
              have hold := ((hannounced q).resolve_left fun h => hbefore h.1).2
              rw [if_pos hruns, hold, List.filter_singleton, hmsg]
              exact Or.inl ⟨(hpoints q).mpr (Or.inl rfl), msg, rfl⟩
            · have hne : event.runs s.simulation ≠ some q := by
                rw [hruns]
                exact fun heq => hq (Option.some.inj heq).symm
              rw [if_neg hne, List.append_nil]
              have hsame : simulation.point q = some .ended ↔ s.simulation.point q = some .ended :=
                (hpoints q).trans ⟨fun h => h.resolve_left hq, Or.inr⟩
              exact (hannounced q).imp (fun h => ⟨hsame.mpr h.1, h.2⟩)
                (fun h => ⟨fun heq => h.1 (hsame.mp heq), h.2⟩)

theorem init : MaestroInv ({} : Server K) False [] :=
  .notCalled rfl rfl rfl rfl (fun _ => rfl) id

/-- An actor that has just been spawned has not ended. -/
theorem announced_spawn {connections : List ActorConnection}
    (hterminal : ∀ p, terminalMessages p trace = []) :
    Announced (Simulation.spawn K connections) trace := by
  intro p
  refine Or.inr ⟨?_, hterminal p⟩
  intro hpoint
  obtain ⟨actor, hfind, hended⟩ := point_eq_some.mp hpoint
  rw [find_spawn hfind] at hended
  cases hended

/-- `Engine::run` has returned: every actor has announced its end. -/
theorem announced_ended {simulation : Simulation K} (h : Announced simulation trace)
    (hended : simulation.Ended) {p : Pid} {actor : ServerActor}
    (hfind : simulation.actors.find p = some actor) : ∃ msg, terminalMessages p trace = [msg] := by
  have hpoint : simulation.point p = some .ended :=
    point_eq_some.mpr ⟨actor, hfind, hended.2.2 actor (UnorderedMap.mem_values.mpr ⟨p, hfind⟩)⟩
  exact ((h p).resolve_right fun hnot => hnot.1 hpoint).2

theorem step (h : MaestroInv s raised trace) (hstep : ServerStep platformFile s event t out)
    (hraised : raised' ↔ raised ∨ s.raises event = true) : MaestroInv t raised' (trace ++ out) := by
  have hsame : s.raises event = false → (raised' ↔ raised) := by
    intro hfalse
    rw [hraised, hfalse]
    simp
  cases hstep with
  | popped msg rest serve served hqueue hserve =>
      obtain ⟨hpushed, -, hl, hm, hterm⟩ := messages_serve served
      exact h.quiet rfl rfl (hsame rfl) (serveStep_threads hserve) hpushed hl hm hterm
  | served event serve served hevent hserve =>
      obtain ⟨hpushed, -, hl, hm, hterm⟩ := messages_serve served
      have hcommand : (s.uninvite event).maestro = s.maestro ∧
          (s.uninvite event).simulation = s.simulation := by
        cases event with
        | command socket command => cases command <;> exact ⟨rfl, rfl⟩
        | _ => exact ⟨rfl, rfl⟩
      exact h.quiet hcommand.1 hcommand.2 (hsame rfl) (serveStep_threads hserve) hpushed hl hm hterm
  | unknownHost connections map vector connection hnot hthreads hperm hvector hmem hhost =>
      cases h with
      | notCalled _ hl hm hp hterm hno =>
          refine .aborting _ connection rfl ?_ ?_ ?_ ((hsame rfl).not.mpr hno)
          · rw [launches_append, hl]
            rfl
          · rw [maestroMessages_append, hm]
            rfl
          · rw [pushedMessages_append, hp]
            rfl
      | aborting _ _ hpoint => rw [hpoint] at hnot; cases hnot
      | abandoned _ _ hpoint => rw [hpoint] at hnot; cases hnot
      | running _ hpoint => rw [hpoint] at hnot; cases hnot
      | finished _ _ _ hpoint => rw [hpoint] at hnot; cases hnot
  | spawned connections map vector hnot hthreads hperm hvector hhosts =>
      cases h with
      | notCalled _ hl hm hp hterm hno =>
          obtain ⟨hsorted, hids⟩ := connectionsUnorderedmapToVector_eq_ok hvector
          refine .running vector rfl ⟨map, ?_, hsorted.trans hperm, ?_⟩ ?_ ?_ ?_ ?_ ?_
          · change map ∈ s.serve.simulationThreads
            rw [hthreads]
            exact List.mem_singleton_self map
          · rw [hids, hperm.length_eq, UnorderedMap.length_values]
          · rw [launches_append, hl]
            rfl
          · rw [maestroMessages_append, hm]
            rfl
          · rw [pushedMessages_append, hp]
            exact List.not_mem_nil
          · rw [pushedMessages_append, hp]
            exact ⟨fun hyes => absurd ((hsame rfl).mp hyes) hno, fun ⟨_, hmem⟩ => by cases hmem⟩
          · apply announced_spawn
            intro p
            rw [terminalMessages_append, hterm]
            rfl
      | aborting _ _ hpoint => rw [hpoint] at hnot; cases hnot
      | abandoned _ _ hpoint => rw [hpoint] at hnot; cases hnot
      | running _ hpoint => rw [hpoint] at hnot; cases hnot
      | finished _ _ _ hpoint => rw [hpoint] at hnot; cases hnot
  | ran event simulation sent hrunning hpops hsimulation =>
      obtain ⟨hpushed, -, hl, hm, hterm⟩ := messages_simulation (event.runs s.simulation) sent
      exact h.simulated hrunning hsimulation hrunning rfl rfl hpushed hl hm hterm hraised
  | received event p queue msg rest simulation sent hrunning hpops hcurrent _ _ hsimulation =>
      obtain ⟨hpushed, -, hl, hm, hterm⟩ := messages_simulation (some p) sent
      have hruns : event.runs s.simulation = some p := by
        cases event with
        | canConnectAck | connectAck => exact hcurrent
        | _ => cases hpops
      refine h.simulated hrunning hsimulation hrunning rfl rfl hpushed hl hm ?_ hraised
      rw [hruns]
      exact hterm
  | aborted reason hpoint' =>
      cases h with
      | aborting reason' connection hpoint hl hm hp hno =>
          refine .abandoned reason connection rfl ?_ ?_ ?_ ((hsame rfl).not.mpr hno)
          · rw [launches_append, hl]
            rfl
          · rw [maestroMessages_append, hm]
            rfl
          · rw [pushedMessages_append, hp]
            rfl
      | notCalled hpoint => rw [hpoint] at hpoint'; cases hpoint'
      | abandoned _ _ hpoint => rw [hpoint] at hpoint'; cases hpoint'
      | running _ hpoint => rw [hpoint] at hpoint'; cases hpoint'
      | finished _ _ _ hpoint => rw [hpoint] at hpoint'; cases hpoint'
  | finished hpoint' hended =>
      cases h with
      | running vector hpoint hspawned hl hm hp hiff hannounced =>
          refine .finished vector trace [] rfl hspawned ?_ rfl hm rfl rfl hp
            ((hsame rfl).trans hiff) (fun p actor hfind => announced_ended hannounced hended hfind)
          rw [launches_append, hl]
          rfl
      | notCalled hpoint => rw [hpoint] at hpoint'; cases hpoint'
      | aborting _ _ hpoint => rw [hpoint] at hpoint'; cases hpoint'
      | abandoned _ _ hpoint => rw [hpoint] at hpoint'; cases hpoint'
      | finished _ _ _ hpoint => rw [hpoint] at hpoint'; cases hpoint'

/-- An abort has been pushed for a reason. -/
theorem failed_of_abort (h : MaestroInv s raised trace) {reason : String}
    (hmem : .simulationAborted reason ∈ pushedMessages trace) :
    (∃ connection, .unknownHost connection ∈ trace) ∨ raised := by
  cases h with
  | notCalled _ _ _ hp => rw [hp] at hmem; cases hmem
  | aborting _ _ _ _ _ hp => rw [hp] at hmem; cases hmem
  | abandoned _ connection _ hl _ _ _ =>
      have hfound : .unknownHost connection ∈ launches trace := by
        rw [hl]
        exact List.mem_singleton_self _
      exact Or.inl ⟨connection, (List.mem_filter.mp hfound).1⟩
  | running _ _ _ _ _ _ hiff _ => exact Or.inr (hiff.mpr ⟨reason, hmem⟩)
  | finished _ before after _ _ _ heq _ _ hpafter _ hiff _ =>
      refine Or.inr (hiff.mpr ⟨reason, ?_⟩)
      have hsplit : pushedMessages trace =
          pushedMessages before ++ .simulationFinished :: pushedMessages after := by
        rw [heq, pushedMessages_append]
        rfl
      rw [hsplit, hpafter, List.mem_append] at hmem
      exact hmem.resolve_right fun hlast => by cases List.mem_singleton.mp hlast

/-- The end of the simulation, with no abort before it, is announced only when nothing failed. -/
theorem not_failed_of_finished (h : MaestroInv s raised trace)
    {earlier rest : List InterthreadMessage}
    (hsplit : pushedMessages trace = earlier ++ .simulationFinished :: rest)
    (hearlier : ∀ msg ∈ earlier, msg.ending = false) :
    ¬((∃ connection, .unknownHost connection ∈ trace) ∨ raised) := by
  have hmem : .simulationFinished ∈ pushedMessages trace := by
    rw [hsplit]
    exact List.mem_append_right _ (List.mem_cons_self ..)
  cases h with
  | notCalled _ _ _ hp => rw [hp] at hmem; cases hmem
  | aborting _ _ _ _ _ hp => rw [hp] at hmem; cases hmem
  | abandoned _ _ _ _ _ hp => rw [hp] at hmem; cases List.mem_singleton.mp hmem
  | running _ _ _ _ _ hp => exact absurd hmem hp
  | finished vector before after _ _ hl heq _ _ hpafter hp hiff _ =>
      rintro (⟨connection, hfound⟩ | hraised)
      · have hlaunched : .unknownHost connection ∈ launches trace :=
          List.mem_filter.mpr ⟨hfound, rfl⟩
        rw [hl] at hlaunched
        cases List.mem_singleton.mp hlaunched
      · obtain ⟨reason, habort⟩ := hiff.mp hraised
        have hboth : pushedMessages before ++ [.simulationFinished] =
            earlier ++ .simulationFinished :: rest := by
          rw [← hsplit, heq, pushedMessages_append]
          change _ = pushedMessages before ++ .simulationFinished :: pushedMessages after
          rw [hpafter]
        have hin : .simulationAborted reason ∈ earlier := by
          rcases List.append_eq_append_iff.mp hboth with ⟨more, rfl, -⟩ | ⟨more, heq', hmore⟩
          · exact List.mem_append_left _ habort
          · cases more with
            | nil =>
                rw [List.append_nil] at heq'
                rwa [heq'] at habort
            | cons first more =>
                -- the message would be pushed twice
                rw [List.cons_append, List.cons.injEq] at hmore
                refine absurd ?_ hp
                rw [heq', ← hmore.1]
                exact List.mem_append_right _ (List.mem_cons_self ..)
        cases hearlier _ hin

end MaestroInv

theorem serverInv_run {events : List (ServerEvent K)}
    (hrun : Run (serverStep K platformFile) {} events s trace) :
    QueueInv s trace ∧ MaestroInv s (RaisedIn K platformFile events) trace := by
  refine hrun.invariant
    (P := fun events s trace => QueueInv s trace ∧ MaestroInv s (RaisedIn K platformFile events) trace)
    ⟨QueueInv.init, ?_⟩ ?_
  · have hinit := MaestroInv.init (K := K)
    rwa [← eq_false raisedIn_nil] at hinit
  · intro events s trace event t out hrun hinv hstep
    have hcases := serverStep_cases hstep
    exact ⟨hinv.1.step hcases, hinv.2.step hcases (raisedIn_snoc hrun)⟩

/-- `serve` returns 1 when `maestro` has found an unknown host or an actor has ended with an
`rsg::Error`, and 0 otherwise. `maestro` spawns the registered actors by ascending id, or none; it
pushes one message when it returns, and that the simulation has finished only after every actor has
announced its end. -/
theorem serve_returns {events : List (ServerEvent K)}
    (hrun : Run (serverStep K platformFile) {} events s trace) :
    (s.serve.serverState = .simulationFinished →
      (s.serve.returnCode = 1 ∧
          ((∃ connection, .unknownHost connection ∈ trace) ∨ RaisedIn K platformFile events)) ∨
        (s.serve.returnCode = 0 ∧
          ¬((∃ connection, .unknownHost connection ∈ trace) ∨ RaisedIn K platformFile events))) ∧
    (launches trace = [] ∨ (∃ connection, launches trace = [.unknownHost connection]) ∨
      ∃ vector, launches trace = [.spawned vector] ∧ ∃ map ∈ s.serve.simulationThreads,
        vector.Perm map.values ∧ vector.map (·.actorId) = consecutiveIds 2 map.size) ∧
    (s.maestro ≠ .returned → maestroMessages trace = []) ∧
    (s.maestro = .returned →
      (∃ reason, maestroMessages trace = [.simulationAborted reason]) ∨
      (maestroMessages trace = [.simulationFinished] ∧
        ∃ before after, trace = before ++ .maestro .simulationFinished :: after ∧
          ∀ p actor, s.simulation.actors.find p = some actor →
            ∃ msg, terminalMessages p before = [msg])) := by
  obtain ⟨hqueue, hmaestro⟩ := serverInv_run hrun
  refine ⟨?_, ?_, ?_, ?_⟩
  · intro hfinished
    obtain ⟨earlier, last, hpopped, hearlier, hlast⟩ := hqueue.left hfinished
    have hpushed : pushedMessages trace = earlier ++ last :: s.toCommand := by
      rw [hqueue.fifo, hpopped]
      simp
    rcases hlast with ⟨rfl, hcode⟩ | ⟨⟨reason, rfl⟩, hcode⟩
    · exact Or.inr ⟨hcode, hmaestro.not_failed_of_finished hpushed hearlier⟩
    · have hmem : .simulationAborted reason ∈ pushedMessages trace := by
        rw [hpushed]
        exact List.mem_append_right _ (List.mem_cons_self ..)
      exact Or.inl ⟨hcode, hmaestro.failed_of_abort hmem⟩
  · cases hmaestro with
    | notCalled _ hl => exact Or.inl hl
    | aborting _ connection _ hl => exact Or.inr (Or.inl ⟨connection, hl⟩)
    | abandoned _ connection _ hl => exact Or.inr (Or.inl ⟨connection, hl⟩)
    | running vector _ hspawned hl => exact Or.inr (Or.inr ⟨vector, hl, hspawned⟩)
    | finished vector _ _ _ hspawned hl => exact Or.inr (Or.inr ⟨vector, hl, hspawned⟩)
  · intro hnot
    cases hmaestro with
    | notCalled _ _ hm => exact hm
    | aborting _ _ _ _ hm => exact hm
    | running _ _ _ _ hm => exact hm
    | abandoned _ _ hpoint => exact absurd hpoint hnot
    | finished _ _ _ hpoint => exact absurd hpoint hnot
  · intro hreturned
    cases hmaestro with
    | notCalled hpoint => rw [hpoint] at hreturned; cases hreturned
    | aborting _ _ hpoint => rw [hpoint] at hreturned; cases hreturned
    | running _ hpoint => rw [hpoint] at hreturned; cases hreturned
    | abandoned reason _ _ _ hm => exact Or.inl ⟨reason, hm⟩
    | finished _ before after _ _ _ heq hbefore hafter _ _ _ hactors =>
        refine Or.inr ⟨?_, before, after, heq, hactors⟩
        have hsplit : maestroMessages trace =
            maestroMessages before ++ .simulationFinished :: maestroMessages after := by
          rw [heq, maestroMessages_append]
          rfl
        rw [hsplit, hbefore, hafter]
        rfl

end

/-- Two actors run; the connection of one is lost, the other quits, and its socket is dropped first. -/
def lostConnectionEvents : List (ServerEvent permissiveS4u) :=
  launchEvents.map .serve ++
    [.launch
        [{ actorName := "b", hostName := "h", actorId := 3, socket := some 12 },
          { actorName := "a", hostName := "h", actorId := 2, socket := some 14 }],
      .simulation (.schedule 3), .simulation (.decision { type := .quit true }),
      .simulation (.schedule 2), .simulation (.readError ⟨"connection reset"⟩),
      .serve (.interthread (.actorQuit 12)), .runEnds,
      .serve (.interthread (.simulationAborted (Simulation.abortReason 2 ⟨"connection reset"⟩)))]

theorem serve_returns_lost_connection : ∃ s trace,
    Run (serverStep permissiveS4u "platform.xml") {} lostConnectionEvents s trace ∧
      s.serve.serverState = .simulationFinished ∧ s.serve.returnCode = 1 ∧
      RaisedIn permissiveS4u "platform.xml" lostConnectionEvents ∧
      ∃ before after, trace = before ++ .maestro .simulationFinished :: after ∧
        ∀ p actor, s.simulation.actors.find p = some actor →
          ∃ msg, terminalMessages p before = [msg] := by
  obtain ⟨s, trace, hexec, hstate, hcode, hmaestro, hlaunched, hmessages⟩ : ∃ s trace,
      exec (serverStep permissiveS4u "platform.xml") {} lostConnectionEvents = some (s, trace) ∧
      s.serve.serverState = .simulationFinished ∧ s.serve.returnCode = 1 ∧ s.maestro = .returned ∧
      (∃ vector, launches trace = [.spawned vector]) ∧
      maestroMessages trace = [.simulationFinished] := by
    refine ⟨_, _, rfl, ?_⟩
    exact ⟨rfl, rfl, rfl, ⟨_, rfl⟩, rfl⟩
  have hrun := Run.of_exec hexec
  obtain ⟨hreturn, -, -, hreturned⟩ := serve_returns hrun
  refine ⟨s, trace, hrun, hstate, hcode, ?_, ?_⟩
  · rcases hreturn hstate with ⟨-, hunknown | hraised⟩ | ⟨hzero, -⟩
    · obtain ⟨connection, hfound⟩ := hunknown
      obtain ⟨vector, hvector⟩ := hlaunched
      have hmem : .unknownHost connection ∈ launches trace := List.mem_filter.mpr ⟨hfound, rfl⟩
      rw [hvector] at hmem
      cases List.mem_singleton.mp hmem
    · exact hraised
    · omega
  · rcases hreturned hmaestro with ⟨reason, habort⟩ | ⟨-, hlast⟩
    · rw [hmessages] at habort
      cases habort
    · exact hlast

end RemoteSimgrid
