import RemoteSimgrid.RsgLaunch

/-! What an `add-actor` can rely on while no client has connected as its actor, whatever has become of
`add-actor` itself and of its program: the server waits for this client. -/

namespace RemoteSimgrid

open Machine Pb

/-- The step of the server in a step of an experiment. -/
def ExperimentEvent.serve : ExperimentEvent → Option ServeEvent
  | .server event _ => some event
  | .other (.server event _) => some event
  | _ => none

/-- The server has registered an actor that has no client, and has not started the simulation. -/
def Serve.Awaits (server : Serve) (actorId : Int) : Prop :=
  ∃ c, server.actorConnections.find actorId = some c ∧ c.socket = none ∧ server.simulationThreads = []

section

variable {s t : Serve} {event : ServeEvent} {trace out : List ServeOutput} {actorId : Int}

/-- Only a client of the actor ends the wait for it: the simulation is given actors that are connected. -/
theorem Serve.Awaits.step (h : s.Awaits actorId) (hstep : serveStep s event = some (t, out))
    (hinv : LaunchInv t trace) (hno : ∀ socket, event ≠ .command socket (.connect { id := actorId })) :
    t.Awaits actorId := by
  obtain ⟨c, hfind, hfree, hthreads⟩ := h
  have hfind' : t.actorConnections.find actorId = some c := by
    rcases entry_step hstep hfind with hfind' | ⟨socket, he, -⟩
    · exact hfind'
    · exact absurd he (hno socket)
  refine ⟨c, hfind', hfree, ?_⟩
  rcases simulationThreads_step (serveStep_cases hstep) with ⟨-, -, hstarted⟩ | ⟨-, hsame⟩
  · have hregistered := hinv.launched t.actorConnections
      (hstarted ▸ List.mem_append_right _ (List.mem_singleton_self _))
    exact absurd hfree (hregistered.connected actorId c hfind')
  · rw [hsame, hthreads]

/-- An actor that is registered is awaited. -/
theorem awaits_registered (hstep : ServeStep s event t out) (hinv : LaunchInv s trace)
    (hfits : (acceptedIds (trace ++ out)).length + 1 < 2 ^ 31) (hid : actorId ∈ acceptedIds out) :
    t.Awaits actorId := by
  cases hstep with
  | accept => cases hid
  | delete => cases hid
  | interthread _ _ _ _ _ hpopped => cases hpopped <;> cases hid
  | command socket command v _ drop _ hhandled =>
      cases hhandled with
      | added connection hstate hnext hfree _ =>
          cases List.mem_singleton.mp hid
          have hthreads := hinv.notStarted (Or.inl hstate)
          have hregistering := hinv.registering hthreads
          rw [acceptedIds_append, List.length_append] at hfits
          have hlength : (acceptedIds trace).length + 2 < 2 ^ 31 := hfits
          have hnext' : connection.actorId = ((acceptedIds trace).length : Int) + 2 := by
            rw [hnext, hregistering.size, toInt_of_lt hlength]
            push_cast
            rfl
          exact ⟨connection, UnorderedMap.find_insert_self _ (hregistering.add hnext' hfree).1, hfree,
            hthreads⟩
      | unchanged ack hack =>
          simp [acceptedIds, hack] at hid
      | _ => cases hid

end

section

variable {s t : Experiment} {event : ExperimentEvent} {trace out : List ServeOutput}

theorem ExperimentStep.serve (h : ExperimentStep s event t out) :
    t.agreement.server = s.agreement.server ∧ out = [] ∨
      ∃ e, event.serve = some e ∧ serveStep s.agreement.server e = some (t.agreement.server, out) := by
  cases h with
  | added => exact Or.inl ⟨rfl, rfl⟩
  | ended => exact Or.inl ⟨rfl, rfl⟩
  | connected l c way launch actorId environment agreement _ _ _ _ hopening =>
      rcases hopening.server with ⟨hserver, hout, -⟩ | ⟨e, client, he, -⟩
      · exact Or.inl ⟨hserver, hout⟩
      · cases he
  | served e l launch point agreement _ _ _ hserve =>
      rcases hserve.server with ⟨-, -, hno⟩ | ⟨e', client, he, hstep⟩
      · exact absurd rfl (hno e none)
      · cases he
        exact Or.inr ⟨e, rfl, hstep⟩
  | other e agreement _ hother =>
      rcases hother.server with ⟨hserver, hout, -⟩ | ⟨e', client, rfl, hstep⟩
      · exact Or.inl ⟨hserver, hout⟩
      · exact Or.inr ⟨e', rfl, hstep⟩

theorem awaits_run {events : List ExperimentEvent} (hrun : Run experimentStep {} events s trace)
    (hfits : (acceptedIds trace).length + 1 < 2 ^ 31) {actorId : Int}
    (hno : ∀ event ∈ events, ∀ socket, event.serve ≠ some (.command socket (.connect { id := actorId })))
    (hid : actorId ∈ acceptedIds trace) : s.agreement.server.Awaits actorId := by
  revert hfits hno hid
  refine hrun.invariant (P := fun events s trace => (acceptedIds trace).length + 1 < 2 ^ 31 →
    (∀ event ∈ events, ∀ socket, event.serve ≠ some (.command socket (.connect { id := actorId }))) →
      actorId ∈ acceptedIds trace → s.agreement.server.Awaits actorId) (fun _ _ hid => by cases hid) ?_
  intro events s trace event t out hrun hinv hstep hfits hno hid
  have hbefore : (acceptedIds trace).length + 1 < 2 ^ 31 := by
    rw [acceptedIds_append, List.length_append] at hfits
    omega
  have hserver := (experimentInv_run hrun hbefore).server.launch
  have hserver' := (experimentInv_run (hrun.snoc hstep) hfits).server.launch
  have hawaits : actorId ∈ acceptedIds trace → s.agreement.server.Awaits actorId :=
    hinv hbefore fun event hevent => hno event (List.mem_append_left _ hevent)
  rw [acceptedIds_append] at hid
  rcases (experimentStep_cases hstep).serve with ⟨hsame, rfl⟩ | ⟨e, he, hserve⟩
  · rw [hsame]
    exact hawaits ((List.mem_append.mp hid).resolve_right (fun h => by cases h))
  · rcases List.mem_append.mp hid with hid | hid
    · refine (hawaits hid).step hserve hserver' fun socket heq => ?_
      exact hno event (List.mem_append_right _ (List.mem_singleton_self _)) socket (by rw [he, heq])
    · exact awaits_registered (serveStep_cases hserve) hserver hfits hid

/-- A server that has not started the simulation takes the first client of an actor, unless it is killed. -/
theorem handleCommand_takes {server : Serve} {actorId : Int} {c : ActorConnection} (socket : Socket)
    (hrunning : server.serverState ≠ .simulationRunning)
    (hfinished : server.serverState ≠ .simulationFinished)
    (hfind : server.actorConnections.find actorId = some c) (hfree : c.socket = none) :
    ∃ t out drop ack, server.handleCommand (.connect { id := actorId }) socket = .ok (t, out, drop) ∧
      commandAck out = some ack ∧ (ack.success = true ↔ server.serverState ≠ .killed) := by
  have hstate : server.serverState = .acceptingNewActors ∨
      server.serverState = .waitingForAllActorsConnection ∨ server.serverState = .simulationRunning ∨
      server.serverState = .killed := by
    cases hserver : server.serverState with
    | simulationFinished => exact absurd hserver hfinished
    | _ => simp
  simp only [Serve.handleCommand, rsgEnforce, if_pos hstate]
  by_cases hkilled : server.serverState = .killed
  · rw [if_neg (not_not.mpr hkilled)]
    exact ⟨_, _, _, {}, rfl, rfl, iff_of_false Bool.false_ne_true (not_not.mpr hkilled)⟩
  · simp only [if_pos hkilled, hfind, if_pos hfree, if_neg hrunning]
    split
    · exact ⟨_, _, _, _, rfl, rfl, iff_of_true rfl hkilled⟩
    · exact ⟨_, _, _, _, rfl, rfl, iff_of_true rfl hkilled⟩

/-- The actors of the `add-actor` commands are registered. While the server has handled no `CONNECT` with the
id of a registered actor, it does not start the simulation, and it takes such a `CONNECT` whenever it reads
one, unless it is killed. -/
theorem program_is_expected {events : List ExperimentEvent} (hrun : Run experimentStep {} events s trace)
    (hfits : (acceptedIds trace).length + 1 < 2 ^ 31) :
    (∀ l launch actorId, s.launches.find l = some launch → launch.point.actorId = some actorId →
      actorId ∈ acceptedIds trace) ∧
    ∀ actorId ∈ acceptedIds trace,
      (∀ event ∈ events, ∀ socket, event.serve ≠ some (.command socket (.connect { id := actorId }))) →
      s.agreement.server.simulationThreads = [] ∧
      ∀ socket ∈ s.agreement.server.barelyConnectedSockets,
        ∃ server out ack, serveStep s.agreement.server (.command socket (.connect { id := actorId })) =
          some (server, out) ∧ commandAck out = some ack ∧
          (ack.success = true ↔ s.agreement.server.serverState ≠ .killed) := by
  have hinv := experimentInv_run hrun hfits
  refine ⟨fun l launch actorId hfind hid => (hinv.holds l launch actorId hfind hid).accepted, ?_⟩
  intro actorId hid hno
  obtain ⟨c, hentry, hfree, hthreads⟩ := awaits_run hrun hfits hno hid
  have hfinished : s.agreement.server.serverState ≠ .simulationFinished :=
    fun h => hinv.server.finished h hthreads
  have hrunning : s.agreement.server.serverState ≠ .simulationRunning :=
    fun h => hinv.server.launch.running h hthreads
  refine ⟨hthreads, fun socket hsocket => ?_⟩
  obtain ⟨t, out, drop, ack, hhandled, hack, hsuccess⟩ :=
    handleCommand_takes socket hrunning hfinished hentry hfree
  refine ⟨t.afterCommand socket drop, out, ack, ?_, hack, hsuccess⟩
  simp only [serveStep, if_neg hfinished, if_pos hsocket, hhandled]

end

/-- The program of the first `add-actor` has lost its connection before its `CONNECT` was handled. The second
`add-actor` has not found its program, and exits. -/
def lostEvents : List ExperimentEvent :=
  [.addActor 0 launchOptions, .server (.accept 5) 0, .server (.command 5 launchOptions.registration) 0,
    .addActor 1 bobOptions, .server (.accept 6) 1, .server (.command 6 bobOptions.registration) 1,
    .ends 0 launchCalls {}, .ends 1 { bobCalls with execvp := some "No such file or directory" } {},
    .connects 0 9 .autoconnect, .other (.server (.accept 8) (some 9)),
    .other (.connectionLost 9 ⟨"Connection lost"⟩)]

theorem program_is_expected_lost : ∃ s trace, Run experimentStep {} lostEvents s trace ∧
    acceptedIds trace = [2, 3] ∧ s.agreement.server.simulationThreads = [] ∧
    (∃ server out ack, serveStep s.agreement.server (.command 8 (.connect { id := 2 })) = some (server, out) ∧
      commandAck out = some ack ∧ (ack.success = true ↔ s.agreement.server.serverState ≠ .killed)) ∧
    ∃ server out ack, serveStep s.agreement.server (.command 8 (.connect { id := 3 })) = some (server, out) ∧
      commandAck out = some ack ∧ (ack.success = true ↔ s.agreement.server.serverState ≠ .killed) := by
  have hexec : (exec experimentStep {} lostEvents).any (fun result =>
      decide (acceptedIds result.2 = [2, 3]) &&
        decide (8 ∈ result.1.agreement.server.barelyConnectedSockets)) = true := by
    decide +kernel
  obtain ⟨s, trace, hrun, hcheck⟩ := Run.of_check hexec
  simp only [Bool.and_eq_true, decide_eq_true_eq] at hcheck
  obtain ⟨hids, hsocket⟩ := hcheck
  have hno : ∀ actorId : Int, ∀ event ∈ lostEvents, ∀ socket,
      event.serve ≠ some (.command socket (.connect { id := actorId })) := by
    intro actorId event hevent socket
    simp only [lostEvents, List.mem_cons, List.not_mem_nil, or_false] at hevent
    rcases hevent with rfl | rfl | rfl | rfl | rfl | rfl | rfl | rfl | rfl | rfl | rfl <;>
      exact fun h => by cases h
  obtain ⟨-, hawaited⟩ := program_is_expected hrun (by rw [hids]; decide)
  obtain ⟨hthreads, htaken⟩ := hawaited 2 (by rw [hids]; decide) (hno 2)
  obtain ⟨-, htaken'⟩ := hawaited 3 (by rw [hids]; decide) (hno 3)
  exact ⟨s, trace, hrun, hids, hthreads, htaken 8 hsocket, htaken' 8 hsocket⟩

end RemoteSimgrid
