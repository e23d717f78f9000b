import Mathlib.Algebra.Order.Ring.Unbundled.Rat
import RemoteSimgrid.SimulationCases

/-! What a step of the SimGrid thread can do, in terms of the segment it makes an actor run. -/

namespace RemoteSimgrid

open Machine Pb

theorem dispatch_eq (K : S4u) (k : K.State) (self : Pid) (d : Decision) (m : Memory) :
    ∃ segment, Switched d m segment ∧
      dispatch K k self d m = { segment with out := .dispatched self d :: segment.out } :=
  ⟨switchDecision K k self d m, switchDecision_switched, rfl⟩

theorem serve_cases {K : S4u} {s t : Simulation K} {p : Pid} {call : S4uCall} {frame : Frame}
    {ret : S4uReturn} {kernel : K.State} (h : s.serve p call frame ret kernel = some t) :
    t = s.answered p frame ret kernel ∨
    ∃ name host connectAck child, call = .actorCreate name host connectAck ∧ ret = .pid child ∧
      (s.answered p frame ret kernel).actors.find child = none ∧
      t = { s.answered p frame ret kernel with
        actors := (s.answered p frame ret kernel).actors.insert child
          { point := .spawned (some connectAck) }
        due := (s.answered p frame ret kernel).due ++ [child] } := by
  simp only [Simulation.serve] at h
  split at h
  · rename_i name host connectAck child
    split at h
    · rename_i hnone
      cases h
      exact Or.inr ⟨name, host, connectAck, child, rfl, rfl, hnone, rfl⟩
    · cases h
  · cases h
    exact Or.inl rfl

/-- The actors that may still run in the round. -/
def SimEvent.remaining {K : S4u} (event : SimEvent K) (ready : List Pid) : List Pid :=
  match event with
  | .schedule p => ready.erase p
  | _ => ready

/-- The segment that a step makes an actor run. -/
inductive Ran {K : S4u} (s : Simulation K) : SimEvent K → Pid → Socket → Segment → Prop
  | firstYield (p : Pid) (actor : ServerActor) (connectAck : Queue) : s.current = none →
      s.actors.find p = some actor → actor.point = .spawned (some connectAck) →
      Ran s (.schedule p) p actor.socket (.call s.memory .yield (.firstYield connectAck))
  | resumed (p : Pid) (actor : ServerActor) (ret : S4uReturn) (frame : Frame) (segment : Segment) :
      s.current = none → s.actors.find p = some actor → actor.point = .returned ret frame →
      Resumed K s.kernel p actor.socket frame ret s.memory segment →
      Ran s (.schedule p) p actor.socket segment
  | decided (p : Pid) (socket : Socket) (d : Decision) : s.current = some p →
      s.actors.find p = some ⟨socket, .reading⟩ → d.thinkTime = 0 →
      Ran s (.decision d) p socket (dispatch K s.kernel p d s.memory)
  | thinking (p : Pid) (socket : Socket) (d : Decision) : s.current = some p →
      s.actors.find p = some ⟨socket, .reading⟩ → 0 < d.thinkTime →
      Ran s (.decision d) p socket (.call s.memory (.sleepFor d.thinkTime) (.thinkTime d))
  | badThinkTime (p : Pid) (socket : Socket) (d : Decision) (what : String) : s.current = some p →
      s.actors.find p = some ⟨socket, .reading⟩ → d.thinkTime < 0 →
      Ran s (.decision d) p socket (.raise s.memory what)
  | readFailed (p : Pid) (socket : Socket) (e : Error) : s.current = some p →
      s.actors.find p = some ⟨socket, .reading⟩ →
      Ran s (.readError e) p socket { memory := s.memory, outcome := .raised e }
  | childAccepted (p : Pid) (socket : Socket) (canConnectAck : Queue) (child : Pid) :
      s.current = some p →
      s.actors.find p = some ⟨socket, .waitingCanConnectAck canConnectAck child⟩ →
      Ran s (.canConnectAck .actorCreateAck) p socket
        { memory := s.memory
          out := [.writeAck p socket { success := true, data := .actorCreate { id := child } }]
          outcome := .finished { success := true, data := .actorCreate { id := child } }
            false false }
  | badCanConnectAck (p : Pid) (socket : Socket) (canConnectAck : Queue) (child : Pid)
      (msg : InterthreadMessage) (what : String) : s.current = some p →
      s.actors.find p = some ⟨socket, .waitingCanConnectAck canConnectAck child⟩ →
      msg ≠ .actorCreateAck → Ran s (.canConnectAck msg) p socket (.raise s.memory what)

inductive SimStep {K : S4u} (s : Simulation K) : SimEvent K → Simulation K → List SimOutput → Prop
  | ran (event : SimEvent K) (p : Pid) (socket : Socket) (segment : Segment) :
      Ran s event p socket segment →
      SimStep s event (({ s with ready := event.remaining s.ready }).conclude p socket segment).1
        (({ s with ready := event.remaining s.ready }).conclude p socket segment).2
  | started (p : Pid) (actor : ServerActor) : s.current = none → s.actors.find p = some actor →
      actor.point = .spawned none →
      SimStep s (.schedule p)
        { ({ s with ready := s.ready.erase p }).setPoint p .reading with current := some p } []
  | served (p : Pid) (actor : ServerActor) (call : S4uCall) (frame : Frame) (ret : S4uReturn)
      (kernel : K.State) (t : Simulation K) : s.current = none → s.actors.find p = some actor →
      actor.point = .calling call frame → K.serve s.kernel p call ret = some kernel →
      s.serve p call frame ret kernel = some t → SimStep s (.serve p ret) t [.served p call ret]
  | progressed (event : K.Event) (kernel : K.State) (writes : List (Ptr × Ptr)) : s.current = none →
      K.progress s.kernel event = some (kernel, writes) →
      (∀ write ∈ writes, (s.memory.buffers.find write.1).isSome) →
      SimStep s (.progress event)
        { s with
          kernel := kernel
          memory := { s.memory with
            buffers := writes.foldl (fun buffers write => buffers.modify write.1 fun _ => some write.2)
              s.memory.buffers } }
        (writes.map fun write => .transferred write.1 write.2)
  | progressFailed (event : K.Event) (kernel : K.State) (writes : List (Ptr × Ptr)) :
      s.current = none → K.progress s.kernel event = some (kernel, writes) →
      (¬∀ write ∈ writes, (s.memory.buffers.find write.1).isSome) →
      SimStep s (.progress event) { s with crashed := true } []
  | round : s.current = none →
      SimStep s .round { s with ready := s.ready ++ s.due, due := [] } []
  | connected (p : Pid) (socket : Socket) (connectAck : Queue) (socket' : Socket) :
      s.current = some p → s.actors.find p = some ⟨socket, .waitingConnectAck connectAck⟩ →
      SimStep s (.connectAck (.actorConnected socket'))
        { s with actors := s.actors.modify p fun _ => { socket := socket', point := .reading } } []
  | connectFailed (p : Pid) (socket : Socket) (connectAck : Queue) (msg : InterthreadMessage) :
      s.current = some p → s.actors.find p = some ⟨socket, .waitingConnectAck connectAck⟩ →
      (∀ socket', msg ≠ .actorConnected socket') →
      SimStep s (.connectAck msg) { s.setPoint p .terminated with current := none } []

section

variable {K : S4u} {s t : Simulation K} {event : SimEvent K} {out : List SimOutput}

theorem handleDecision_ran {p : Pid} {socket : Socket} {d : Decision} (hcurrent : s.current = some p)
    (hfind : s.actors.find p = some ⟨socket, .reading⟩) :
    Ran s (.decision d) p socket (handleDecision K s.kernel p d s.memory) := by
  simp only [handleDecision]
  split
  · rename_i hnegative
    exact .badThinkTime p socket d _ hcurrent hfind hnegative
  · split
    · rename_i hpositive
      exact .thinking p socket d hcurrent hfind hpositive
    · rename_i hnegative hpositive
      exact .decided p socket d hcurrent hfind
        (le_antisymm (not_lt.mp hpositive) (not_lt.mp hnegative))

theorem resumeCanConnectAck_ran {p : Pid} {socket : Socket} {canConnectAck : Queue} {child : Pid}
    {msg : InterthreadMessage} (hcurrent : s.current = some p)
    (hfind : s.actors.find p = some ⟨socket, .waitingCanConnectAck canConnectAck child⟩) :
    Ran s (.canConnectAck msg) p socket (resumeCanConnectAck p socket child msg s.memory) := by
  cases msg with
  | actorCreateAck => exact .childAccepted p socket canConnectAck child hcurrent hfind
  | undefined => exact .badCanConnectAck p socket _ child _ _ hcurrent hfind nofun
  | startSimulation => exact .badCanConnectAck p socket _ child _ _ hcurrent hfind nofun
  | actorConnected socket' => exact .badCanConnectAck p socket _ child _ _ hcurrent hfind nofun
  | simulationFinished => exact .badCanConnectAck p socket _ child _ _ hcurrent hfind nofun
  | simulationAborted reason => exact .badCanConnectAck p socket _ child _ _ hcurrent hfind nofun
  | actorQuit socket' => exact .badCanConnectAck p socket _ child _ _ hcurrent hfind nofun
  | actorCreate id q q' => exact .badCanConnectAck p socket _ child _ _ hcurrent hfind nofun

/-- Every step is one of the cases of `SimStep`, and is made before any undefined behaviour. -/
theorem simulationStep_cases (h : simulationStep K s event = some (t, out)) :
    s.crashed = false ∧ SimStep s event t out := by
  obtain ⟨kernel, memory, actors, current, ready, due, crashed⟩ := s
  cases crashed with
  | true => cases h
  | false =>
      refine ⟨rfl, ?_⟩
      cases event with
      | schedule p =>
          cases current with
          | some q => cases h
          | none =>
              simp only [simulationStep, Bool.false_eq_true, if_false] at h
              split at h
              · cases h
              · rename_i actor hfind
                split at h
                · rename_i hpoint
                  cases h
                  exact .started p actor rfl hfind hpoint
                · rename_i connectAck hpoint
                  cases h
                  exact .ran (.schedule p) p actor.socket _ (.firstYield p actor connectAck rfl hfind hpoint)
                · rename_i ret frame hpoint
                  split at h
                  · rename_i segment hsegment
                    cases h
                    exact .ran (.schedule p) p actor.socket _
                      (.resumed p actor ret frame segment rfl hfind hpoint (resume_resumed hsegment))
                  · cases h
                · cases h
      | serve p ret =>
          cases current with
          | some q => cases h
          | none =>
              simp only [simulationStep, Bool.false_eq_true, if_false] at h
              split at h
              · cases h
              · rename_i actor hfind
                split at h
                · rename_i call frame hpoint
                  split at h
                  · cases h
                  · rename_i kernel' hkernel
                    split at h
                    · rename_i s' hserve
                      cases h
                      exact .served p actor call frame ret kernel' _ rfl hfind hpoint hkernel hserve
                    · cases h
                · cases h
      | progress e =>
          cases current with
          | some q => cases h
          | none =>
              simp only [simulationStep, Bool.false_eq_true, if_false] at h
              split at h
              · rename_i kernel' writes hprogress
                split at h
                · rename_i hwrites
                  cases h
                  exact .progressed e kernel' writes rfl hprogress hwrites
                · rename_i hwrites
                  cases h
                  exact .progressFailed e kernel' writes rfl hprogress hwrites
              · cases h
      | round =>
          cases current with
          | some q => cases h
          | none =>
              cases h
              exact .round rfl
      | decision d =>
          cases current with
          | none => cases h
          | some p =>
              simp only [simulationStep, Bool.false_eq_true, if_false] at h
              split at h
              · rename_i socket hfind
                cases h
                exact .ran (.decision d) p socket _ (handleDecision_ran rfl hfind)
              · cases h
      | readError e =>
          cases current with
          | none => cases h
          | some p =>
              simp only [simulationStep, Bool.false_eq_true, if_false] at h
              split at h
              · rename_i socket hfind
                cases h
                exact .ran (.readError e) p socket _ (.readFailed p socket e rfl hfind)
              · cases h
      | canConnectAck msg =>
          cases current with
          | none => cases h
          | some p =>
              simp only [simulationStep, Bool.false_eq_true, if_false] at h
              split at h
              · rename_i socket canConnectAck child hfind
                cases h
                exact .ran (.canConnectAck msg) p socket _ (resumeCanConnectAck_ran rfl hfind)
              · cases h
      | connectAck msg =>
          cases current with
          | none => cases h
          | some p =>
              simp only [simulationStep, Bool.false_eq_true, if_false] at h
              split at h
              · rename_i socket connectAck hfind
                split at h
                · rename_i socket'
                  cases h
                  exact .connected p socket connectAck socket' rfl hfind
                · rename_i hmsg
                  cases h
                  exact .connectFailed p socket connectAck msg rfl hfind hmsg
              · cases h

theorem Ran.find {p : Pid} {socket : Socket} {segment : Segment} (h : Ran s event p socket segment) :
    ∃ actor, s.actors.find p = some actor := by
  cases h with
  | firstYield _ actor _ _ hfind _ => exact ⟨actor, hfind⟩
  | resumed _ actor _ _ _ _ hfind _ _ => exact ⟨actor, hfind⟩
  | decided _ _ _ _ hfind _ => exact ⟨_, hfind⟩
  | thinking _ _ _ _ hfind _ => exact ⟨_, hfind⟩
  | badThinkTime _ _ _ _ _ hfind _ => exact ⟨_, hfind⟩
  | readFailed _ _ _ _ hfind => exact ⟨_, hfind⟩
  | childAccepted _ _ _ _ _ hfind => exact ⟨_, hfind⟩
  | badCanConnectAck _ _ _ _ _ _ _ hfind _ => exact ⟨_, hfind⟩

/-- The actor that reads a decision is at the beginning of its loop. -/
theorem SimStep.reading {d : Decision} (h : SimStep s (.decision d) t out) {p : Pid}
    (hcurrent : s.current = some p) : ∃ socket, s.actors.find p = some ⟨socket, .reading⟩ := by
  have hsame : ∀ {q : Pid}, s.current = some q → q = p := by
    intro q hq
    rw [hcurrent, Option.some.injEq] at hq
    exact hq.symm
  cases h with
  | ran _ q socket segment hran =>
      cases hran with
      | decided _ _ _ hq hfind _ => exact ⟨socket, hsame hq ▸ hfind⟩
      | thinking _ _ _ hq hfind _ => exact ⟨socket, hsame hq ▸ hfind⟩
      | badThinkTime _ _ _ what hq hfind _ => exact ⟨socket, hsame hq ▸ hfind⟩

end

end RemoteSimgrid
