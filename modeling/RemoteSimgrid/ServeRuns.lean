import RemoteSimgrid.ServeInvariant

/-! The runs of `serve`: every step keeps the launch invariant, so the simulation is started at most
once, with the registered actors, all connected. -/

namespace RemoteSimgrid

open Machine Pb

/-- What a popped message does when its handling does not raise. -/
inductive Serve.Popped (s : Serve) : InterthreadMessage → Serve → List ServeOutput → Prop
  | finished : Popped s .simulationFinished { s with serverState := .simulationFinished } []
  | aborted (abortReason : String) :
      Popped s (.simulationAborted abortReason)
        { s with serverState := .simulationFinished, returnCode := 1 } []
  | quit (socket : Socket) :
      Popped s (.actorQuit socket) { s with droppedSockets := s.droppedSockets ++ [socket] } []
  | created (actorId : Int) (canConnectAck connectAck : Queue) :
      s.actorConnections.find actorId = none →
      Popped s (.actorCreate actorId canConnectAck connectAck)
        { s with
          actorConnections := s.actorConnections.insert actorId
            { actorId := actorId, connectAck := some connectAck } }
        [.push canConnectAck .actorCreateAck]

theorem Serve.handleInterthreadMessage_popped {msg : InterthreadMessage} {s t : Serve}
    {out : List ServeOutput} (h : s.handleInterthreadMessage msg = .ok (t, out)) :
    Popped s msg t out := by
  cases msg with
  | simulationFinished =>
      cases h
      exact Popped.finished
  | simulationAborted abortReason =>
      cases h
      exact Popped.aborted abortReason
  | actorQuit socket =>
      cases h
      exact Popped.quit socket
  | actorCreate actorId canConnectAck connectAck =>
      simp only [handleInterthreadMessage, rsgEnforce_eq_ok] at h
      obtain ⟨hfree, h⟩ := h
      cases h
      exact Popped.created actorId canConnectAck connectAck hfree
  | undefined => cases h
  | startSimulation => cases h
  | actorCreateAck => cases h
  | actorConnected socket => cases h

/-- The steps of the command thread. -/
inductive ServeStep (s : Serve) : ServeEvent → Serve → List ServeOutput → Prop
  | accept (socket : Socket) : socket ∉ s.sockets →
      ServeStep s (.accept socket)
        { s with
          barelyConnectedSockets := insert socket s.barelyConnectedSockets
          sockets := insert socket s.sockets } []
  | command (socket : Socket) (command : Command) (t : Serve) (out : List ServeOutput)
      (dropClient : Bool) : socket ∈ s.barelyConnectedSockets →
      s.Handled socket t out dropClient →
      ServeStep s (.command socket command) (t.afterCommand socket dropClient) out
  | interthread (msg : InterthreadMessage) (t : Serve) (out : List ServeOutput) :
      s.simulationThreads ≠ [] → msg.FromSimgrid → s.Popped msg t out →
      ServeStep s (.interthread msg) t out
  | delete (socket : Socket) : socket ∈ s.droppedSockets →
      ServeStep s (.delete socket)
        { s with
          droppedSockets := s.droppedSockets.erase socket
          sockets := s.sockets.erase socket } []

variable {s t : Serve} {event : ServeEvent} {events : List ServeEvent} {out out' : List ServeOutput}

theorem serveStep_cases (h : serveStep s event = some (t, out)) : ServeStep s event t out := by
  unfold serveStep at h
  split at h
  · cases h
  · cases event with
    | accept socket =>
        simp only at h
        split at h
        · cases h
        · rename_i hfresh
          cases h
          exact ServeStep.accept socket hfresh
    | command socket command =>
        simp only at h
        split at h
        · rename_i hsocket
          split at h
          · cases h
          · rename_i v out dropClient hhandled
            cases h
            exact ServeStep.command socket command v _ dropClient hsocket
              (Serve.handleCommand_handled hhandled)
        · cases h
    | interthread msg =>
        simp only at h
        split at h
        · rename_i hmsg
          split at h
          · cases h
          · rename_i v out hpopped
            cases h
            exact ServeStep.interthread msg _ _ hmsg.1 hmsg.2
              (Serve.handleInterthreadMessage_popped hpopped)
        · cases h
    | delete socket =>
        simp only at h
        split at h
        · rename_i hsocket
          cases h
          exact ServeStep.delete socket hsocket
        · cases h

/-! ### The invariant along a run -/

theorem LaunchInv.handled {socket : Socket} {dropClient : Bool} (h : LaunchInv s out)
    (hsocket : socket ∈ s.barelyConnectedSockets) (hhandled : s.Handled socket t out' dropClient)
    (hfits : (acceptedIds (out ++ out')).length + 1 < 2 ^ 31) :
    LaunchInv (t.afterCommand socket dropClient) (out ++ out') := by
  cases hhandled with
  | added connection hstate hid hnull _ =>
      refine h.add hsocket hstate hid hnull ?_
      rw [acceptedIds_append, List.length_append] at hfits
      exact hfits
  | started hstate hall => exact h.start (h.notStarted (Or.inl hstate)) hall true rfl
  | waiting hstate hall =>
      refine h.same rfl rfl rfl rfl (fun _ => h.notStarted (Or.inl hstate)) (fun hbad => by cases hbad)
        (fun _ => ?_) (fun _ hregistering => ?_)
      · rw [h.counted] at hall
        exact lt_of_le_of_ne (connectedEntries_le _) hall
      · exact Registering.drop (s := { s with serverState := .waitingForAllActorsConnection })
          { hregistering with } hsocket
  | killed =>
      refine h.same rfl rfl rfl rfl (fun hbad => ?_) (fun hbad => by cases hbad)
        (fun hbad => by cases hbad) (fun _ hregistering => ?_)
      · rcases hbad with hbad | hbad <;> cases hbad
      · exact Registering.drop (s := { s with serverState := .killed }) { hregistering with } hsocket
  | unchanged ack hack =>
      refine h.same rfl rfl rfl ?_ h.notStarted h.running h.waiting
        (fun _ hregistering => hregistering.drop hsocket)
      simp [acceptedIds, hack]
  | connectedDynamic id connection connectAck hstate hfind hnull _ =>
      refine h.connect hfind hnull hsocket (fun hbad => ?_) rfl
      rw [hstate] at hbad
      cases hbad
  | connectedLast id connection hstate hfind hnull hall =>
      exact h.connectLast hstate hfind hnull hsocket hall rfl
  | connectedInitial id connection _ hfind hnull hwaiting =>
      exact h.connect hfind hnull hsocket hwaiting rfl

theorem LaunchInv.popped {msg : InterthreadMessage} (h : LaunchInv s out)
    (hthreads : s.simulationThreads ≠ []) (hmsg : msg.FromSimgrid) (hpopped : s.Popped msg t out') :
    LaunchInv t (out ++ out') := by
  cases hpopped with
  | finished =>
      refine h.same rfl rfl rfl rfl (fun hbad => ?_) (fun hbad => by cases hbad)
        (fun hbad => by cases hbad) (fun hnone => absurd hnone hthreads)
      rcases hbad with hbad | hbad <;> cases hbad
  | aborted abortReason =>
      refine h.same rfl rfl rfl rfl (fun hbad => ?_) (fun hbad => by cases hbad)
        (fun hbad => by cases hbad) (fun hnone => absurd hnone hthreads)
      rcases hbad with hbad | hbad <;> cases hbad
  | quit socket =>
      exact h.same rfl rfl rfl rfl h.notStarted h.running h.waiting
        (fun hnone => absurd hnone hthreads)
  | created actorId canConnectAck connectAck hfree =>
      have hids : acceptedIds (out ++ [.push canConnectAck .actorCreateAck]) = acceptedIds out := by
        rw [acceptedIds_append]
        exact List.append_nil _
      exact
        { keyed := fun id c hid => by
            rw [UnorderedMap.find_insert] at hid
            split at hid
            · rename_i heq
              obtain ⟨rfl, -⟩ := heq
              cases hid
              exact ⟨rfl, hmsg⟩
            · exact h.keyed id c hid
          counted := by rw [connectedEntries_insert hfree rfl, h.counted]
          notStarted := h.notStarted
          running := h.running
          waiting := fun hstate => absurd (h.notStarted (Or.inr hstate)) hthreads
          acked := by rw [hids, ← h.acked]
          once := h.once
          registering := fun hnone => absurd hnone hthreads
          launched := by rw [hids]; exact h.launched }

theorem LaunchInv.step (h : LaunchInv s out) (hstep : ServeStep s event t out')
    (hfits : (acceptedIds (out ++ out')).length + 1 < 2 ^ 31) : LaunchInv t (out ++ out') := by
  cases hstep with
  | accept socket hfresh =>
      exact h.same rfl rfl rfl rfl h.notStarted h.running h.waiting
        (fun _ hregistering => hregistering.accept hfresh)
  | command socket command v _ dropClient hsocket hhandled => exact h.handled hsocket hhandled hfits
  | interthread msg _ _ hthreads hmsg hpopped => exact h.popped hthreads hmsg hpopped
  | delete socket hsocket =>
      exact h.same rfl rfl rfl rfl h.notStarted h.running h.waiting
        (fun _ hregistering => hregistering.delete hsocket)

theorem launchInv_run (hrun : Run serveStep {} events s out)
    (hfits : (acceptedIds out).length + 1 < 2 ^ 31) : LaunchInv s out := by
  revert hfits
  refine hrun.invariant (P := fun _ s out => (acceptedIds out).length + 1 < 2 ^ 31 → LaunchInv s out)
    (fun _ => LaunchInv.init) ?_
  intro _ t out label u out' _ hinv hstep hfits
  refine (hinv ?_).step (serveStep_cases hstep) hfits
  rw [acceptedIds_append, List.length_append] at hfits
  omega

/-! ### The start -/

/-- A step starts the simulation exactly when it turns the state into running. -/
theorem simulationThreads_step (hstep : ServeStep s event t out) :
    (s.serverState ≠ .simulationRunning ∧ t.serverState = .simulationRunning ∧
      t.simulationThreads = s.simulationThreads ++ [t.actorConnections]) ∨
    ((t.serverState = .simulationRunning → s.serverState = .simulationRunning) ∧
      t.simulationThreads = s.simulationThreads) := by
  cases hstep with
  | accept socket hfresh => exact Or.inr ⟨id, rfl⟩
  | delete socket hsocket => exact Or.inr ⟨id, rfl⟩
  | command socket command v out dropClient hsocket hhandled =>
      cases hhandled with
      | added => exact Or.inr ⟨id, rfl⟩
      | started hstate _ =>
          refine Or.inl ⟨?_, rfl, rfl⟩
          rw [hstate]
          decide
      | waiting => exact Or.inr ⟨nofun, rfl⟩
      | killed => exact Or.inr ⟨nofun, rfl⟩
      | unchanged => exact Or.inr ⟨id, rfl⟩
      | connectedDynamic => exact Or.inr ⟨id, rfl⟩
      | connectedLast id connection hstate _ _ _ =>
          refine Or.inl ⟨?_, rfl, rfl⟩
          rw [hstate]
          decide
      | connectedInitial => exact Or.inr ⟨id, rfl⟩
  | interthread msg _ _ _ _ hpopped =>
      cases hpopped with
      | finished => exact Or.inr ⟨nofun, rfl⟩
      | aborted => exact Or.inr ⟨nofun, rfl⟩
      | quit => exact Or.inr ⟨id, rfl⟩
      | created => exact Or.inr ⟨id, rfl⟩

theorem find_connected {c : ActorConnection} {id id' : Int} {socket socket' : Socket}
    (hfind : s.actorConnections.find id = some c) (hc : c.socket = some socket)
    {c' : ActorConnection} (hfind' : s.actorConnections.find id' = some c') (hc' : c'.socket = none) :
    (s.connected id' socket').actorConnections.find id = some c := by
  have hne : id ≠ id' := by
    rintro rfl
    rw [hfind] at hfind'
    cases hfind'
    rw [hc] at hc'
    cases hc'
  rw [Serve.connected, UnorderedMap.find_modify_of_ne _ _ hne, hfind]

/-- A connected entry is never changed again. -/
theorem find_step (hstep : ServeStep s event t out) {id : Int} {c : ActorConnection} {socket : Socket}
    (hfind : s.actorConnections.find id = some c) (hc : c.socket = some socket) :
    t.actorConnections.find id = some c := by
  have hinsert : ∀ {id' : Int} {c' : ActorConnection},
      (s.actorConnections.insert id' c').find id = some c := by
    intro id' c'
    rw [UnorderedMap.find_insert, if_neg ?_, hfind]
    rintro ⟨rfl, hnone⟩
    rw [hfind] at hnone
    cases hnone
  cases hstep with
  | accept socket hfresh => exact hfind
  | delete socket hsocket => exact hfind
  | command socket command v out dropClient hsocket hhandled =>
      cases hhandled with
      | added => exact hinsert
      | started => exact hfind
      | waiting => exact hfind
      | killed => exact hfind
      | unchanged => exact hfind
      | connectedDynamic id' c' _ _ hfind' hc' _ => exact find_connected hfind hc hfind' hc'
      | connectedLast id' c' _ hfind' hc' _ => exact find_connected hfind hc hfind' hc'
      | connectedInitial id' c' _ hfind' hc' _ => exact find_connected hfind hc hfind' hc'
  | interthread msg _ _ _ _ hpopped =>
      cases hpopped with
      | finished => exact hfind
      | aborted => exact hfind
      | quit => exact hfind
      | created => exact hinsert

theorem find_run (hrun : Run serveStep s events t out) {id : Int} {c : ActorConnection}
    {socket : Socket} (hfind : s.actorConnections.find id = some c) (hc : c.socket = some socket) :
    t.actorConnections.find id = some c :=
  hrun.invariant (P := fun _ t _ => t.actorConnections.find id = some c) hfind
    (fun _ hfind hstep => find_step (serveStep_cases hstep) hfind hc)

/-- The simulation is started at most once, on the step that turns the state into running, with the
accepted actors and no other, all connected; the conversion of the map to a vector cannot fail,
whatever the iteration order. In every state the counter counts the connected entries, a waiting
server still has an entry to connect, and a connected entry keeps its socket. -/
theorem simulation_starts_once (hrun : Run serveStep {} events s out)
    (hfits : (acceptedIds out).length + 1 < 2 ^ 31) :
    s.simulationThreads.length ≤ 1 ∧
    (∀ event t out', serveStep s event = some (t, out') →
      (s.serverState ≠ .simulationRunning ∧ t.serverState = .simulationRunning ∧
        t.simulationThreads = s.simulationThreads ++ [t.actorConnections]) ∨
      ((t.serverState = .simulationRunning → s.serverState = .simulationRunning) ∧
        t.simulationThreads = s.simulationThreads)) ∧
    (∀ m ∈ s.simulationThreads, Registered (acceptedIds out).length m ∧
      ∀ connections, connections.Perm m.values →
        ∃ vector, connectionsUnorderedmapToVector connections = .ok vector ∧
          vector.Perm connections ∧
          vector.map (·.actorId) = consecutiveIds 2 (acceptedIds out).length) ∧
    (acceptedIds out).Nodup ∧
    s.nbConnectedActors = connectedEntries s.actorConnections ∧
    (s.serverState = .waitingForAllActorsConnection →
      ∃ id c, s.actorConnections.find id = some c ∧ c.socket = none) ∧
    (∀ events' t out', Run serveStep s events' t out' → ∀ id c socket,
      s.actorConnections.find id = some c → c.socket = some socket →
      t.actorConnections.find id = some c) := by
  have hinv := launchInv_run hrun hfits
  refine ⟨hinv.once, ?_, ?_, ?_, hinv.counted, fun hstate => exists_socket_none (hinv.waiting hstate),
    ?_⟩
  · intro event t out' hstep
    exact simulationThreads_step (serveStep_cases hstep)
  · intro m hm
    have hregistered := hinv.launched m hm
    refine ⟨hregistered, ?_⟩
    intro connections hperm
    exact connectionsUnorderedmapToVector_ok ((hperm.map _).trans hregistered.perm)
  · rw [hinv.acked]
    exact nodup_consecutiveIds _ _
  · intro events' t out' hrest id c socket hfind hc
    exact find_run hrest hfind hc

/-- Two actors are registered, one connects before the start and one after it. -/
def launchEvents : List ServeEvent :=
  [.accept 10, .command 10 (.addActor { actorName := "a", hostName := "h" }),
    .accept 11, .command 11 (.addActor { actorName := "b", hostName := "h" }),
    .accept 12, .command 12 (.connect { id := 3 }),
    .accept 13, .command 13 (.start true),
    .accept 14, .command 14 (.connect { id := 2 })]

theorem simulation_starts_once_two_actors :
    ∃ s out, Run serveStep {} launchEvents s out ∧ s.serverState = .simulationRunning ∧
      (acceptedIds out).length = 2 ∧ s.nbConnectedActors = connectedEntries s.actorConnections ∧
      ∃ m, s.simulationThreads = [m] ∧ Registered 2 m := by
  obtain ⟨s, out, hexec, hids, hstate, m, hm⟩ : ∃ s out,
      exec serveStep {} launchEvents = some (s, out) ∧ (acceptedIds out).length = 2 ∧
      s.serverState = .simulationRunning ∧ ∃ m, s.simulationThreads = [m] := by
    refine ⟨_, _, rfl, ?_⟩
    refine ⟨rfl, rfl, ?_⟩
    exact ⟨_, rfl⟩
  have hrun := Run.of_exec hexec
  obtain ⟨-, -, hlaunched, -, hcounted, -, -⟩ := simulation_starts_once hrun (by omega)
  refine ⟨s, out, hrun, hstate, hids, hcounted, m, hm, ?_⟩
  rw [← hids]
  exact (hlaunched m (by rw [hm]; exact List.mem_singleton_self m)).1

end RemoteSimgrid
