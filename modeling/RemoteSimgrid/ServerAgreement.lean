import RemoteSimgrid.ClientConnection
import RemoteSimgrid.ServeRuns

/-! Who is connected, for the clients and for the server. Each thread that connects is followed from its
call of `rsg::connect` to the return of that call, beside the command thread, which also handles the
commands of any other program. -/

namespace RemoteSimgrid

open Machine Pb

/-- Where a thread is in `rsg::connect`: its `CONNECT` is sent, on a socket once the server has accepted
its connection; the acknowledgment is written; the call has returned, or raised. -/
inductive ConnectPoint where
  | sent (actorId : Int) (socket : Option Socket)
  | acked (actorId : Int) (socket : Socket) (ack : CommandAck)
  | returned (connection : Connection) (ack : CommandAck)
  | raised (error : Error)

/-- A thread that connects, with the environment of its process. -/
structure ConnectingClient where
  environment : Environment
  point : ConnectPoint

structure Agreement where
  server : Serve := {}
  clients : UnorderedMap Nat ConnectingClient := ∅

/-- A thread calls `rsg::connect`, reads its acknowledgment or loses its connection; the server makes a
step, which concerns one of these threads or none. -/
inductive AgreementEvent where
  | opening (client : Nat) (environment : Environment) (way : Opening)
  | readAck (client : Nat)
  | connectionLost (client : Nat) (error : Error)
  | server (event : ServeEvent) (client : Option Nat)

/-- The acknowledgment that a command is answered with. -/
def commandAck (out : List ServeOutput) : Option CommandAck :=
  out.findSome? fun
    | .writeCommandAck _ ack => some ack
    | .push _ _ => none

/-- A command of a program that is not one of the clients. -/
def Agreement.foreign (s : Agreement) : ServeEvent → Bool
  | .command socket _ => s.clients.values.all fun client =>
      match client.point with
      | .sent _ (some socket') => socket ≠ socket'
      | _ => true
  | _ => true

/-- The step of a client that the server makes with its own. -/
def ConnectPoint.served (event : ServeEvent) (out : List ServeOutput) : ConnectPoint → Option ConnectPoint
  | .sent actorId none =>
      match event with
      | .accept socket => some (.sent actorId (some socket))
      | _ => none
  | .sent actorId (some socket) =>
      if event = .command socket (.connect { id := actorId }) then
        (commandAck out).map (.acked actorId socket)
      else none
  | _ => none

def agreementStep (s : Agreement) (event : AgreementEvent) : Option (Agreement × List ServeOutput) :=
  match event with
  | .opening c environment way =>
      if s.clients.find c = none then
        match way.start environment none with
        | none => none
        | some (.sends actorId) =>
            some ({ s with clients := s.clients.insert c ⟨environment, .sent actorId none⟩ }, [])
        | some (.throws _ e) =>
            some ({ s with clients := s.clients.insert c ⟨environment, .raised e⟩ }, [])
      else none
  | .readAck c =>
      match s.clients.find c with
      | some ⟨environment, .acked actorId socket ack⟩ =>
          let point := match (Connection.ofServer environment actorId socket ack).2 with
            | .ok connection => .returned connection ack
            | .error e => .raised e
          some ({ s with clients := s.clients.set c ⟨environment, point⟩ }, [])
      | _ => none
  | .connectionLost c e =>
      match s.clients.find c with
      | some ⟨environment, .sent _ _⟩ | some ⟨environment, .acked _ _ _⟩ =>
          some ({ s with clients := s.clients.set c ⟨environment, .raised e⟩ }, [])
      | _ => none
  | .server event client =>
      match serveStep s.server event with
      | none => none
      | some (server, out) =>
          match client with
          | none => if s.foreign event then some ({ s with server := server }, out) else none
          | some c =>
              match s.clients.find c with
              | none => none
              | some client =>
                  match client.point.served event out with
                  | none => none
                  | some point =>
                      some ({ server := server
                              clients := s.clients.set c { client with point := point } }, out)

/-! ### Agreement -/

/-- The server has accepted a client as an actor: it has answered so, and keeps the socket. -/
def Serve.Accepted (s : Serve) (actorId : Int) (socket : Socket) (ack : CommandAck) : Prop :=
  ack.success = true ∧
    ∃ connection, s.actorConnections.find actorId = some connection ∧ connection.socket = some socket

/-- A client that has returned from `rsg::connect`, or will when it reads its acknowledgment, has been
accepted. -/
def ConnectingClient.Agrees (server : Serve) (client : ConnectingClient) : Prop :=
  match client.point with
  | .acked actorId socket ack =>
      (Connection.ofServer client.environment actorId socket ack).2.isOk →
        server.Accepted actorId socket ack
  | .returned connection ack => server.Accepted connection.actorId connection.socket ack
  | _ => True

def Agreement.Agrees (s : Agreement) : Prop :=
  ∀ c client, s.clients.find c = some client → client.Agrees s.server

/-- A killed server handles no `CONNECT`, but those of threads whose think time is not valid. -/
def ConnectsUnkilled (s : Agreement) : AgreementEvent → Prop
  | .server (.command _ _) (some c) =>
      s.server.serverState = .killed → ∀ client, s.clients.find c = some client →
        client.environment.retrieveRsgThinkTimeFromEnv.isOk = false
  | _ => True

theorem handleCommand_accepted {s t : Serve} {actor : Actor} {socket : Socket} {out : List ServeOutput}
    {drop : Bool} (h : s.handleCommand (.connect actor) socket = .ok (t, out, drop)) :
    s.serverState = .killed ∧ commandAck out = some {} ∨
      s.serverState ≠ .killed ∧ ∃ ack, commandAck out = some ack ∧ t.Accepted actor.id socket ack := by
  have hconnected : ∀ {c : ActorConnection}, s.actorConnections.find actor.id = some c →
      (s.connected actor.id socket).Accepted actor.id socket { success := true } := by
    intro c hfind
    refine ⟨rfl, { c with socket := some socket }, ?_, rfl⟩
    rw [Serve.connected, UnorderedMap.find_modify_self, hfind, Option.map_some]
  simp only [Serve.handleCommand, rsgEnforce_eq_ok] at h
  obtain ⟨-, h⟩ := h
  split at h
  · rename_i hkilled
    refine Or.inr ⟨hkilled, ?_⟩
    split at h
    · cases h
    · rename_i connection hfind
      rw [rsgEnforce_eq_ok] at h
      obtain ⟨-, h⟩ := h
      split at h
      · split at h
        · cases h
        · cases h
          exact ⟨_, rfl, hconnected hfind⟩
      · split at h
        · cases h
          exact ⟨_, rfl, hconnected hfind⟩
        · cases h
          exact ⟨_, rfl, hconnected hfind⟩
  · rename_i hkilled
    cases h
    exact Or.inl ⟨not_not.mp hkilled, rfl⟩

section

variable {s t : Serve} {event : ServeEvent} {out : List ServeOutput}

theorem serveStep_command {socket : Socket} {command : Command}
    (hstep : serveStep s (.command socket command) = some (t, out)) :
    ∃ u drop, s.handleCommand command socket = .ok (u, out, drop) ∧ t = u.afterCommand socket drop := by
  unfold serveStep at hstep
  split at hstep
  · cases hstep
  · simp only at hstep
    split at hstep
    · split at hstep
      · cases hstep
      · rename_i u out' drop hhandled
        cases hstep
        exact ⟨u, drop, hhandled, rfl⟩
    · cases hstep

theorem Serve.Accepted.step (hstep : ServeStep s event t out) {actorId : Int} {socket : Socket}
    {ack : CommandAck} (h : s.Accepted actorId socket ack) : t.Accepted actorId socket ack := by
  obtain ⟨hack, connection, hfind, hsocket⟩ := h
  exact ⟨hack, connection, find_step hstep hfind hsocket, hsocket⟩

theorem ConnectingClient.Agrees.step (hstep : ServeStep s event t out) {client : ConnectingClient}
    (h : client.Agrees s) : client.Agrees t := by
  obtain ⟨environment, point⟩ := client
  cases point with
  | sent => trivial
  | acked actorId socket ack => exact fun hok => Serve.Accepted.step hstep (h hok)
  | returned connection ack => exact Serve.Accepted.step hstep h
  | raised => trivial

end

theorem isOk_ofServer (env : Environment) (actorId : Int) (socket : Socket) (ack : CommandAck) :
    (Connection.ofServer env actorId socket ack).2.isOk = env.retrieveRsgThinkTimeFromEnv.isOk := by
  unfold Connection.ofServer
  cases env.retrieveRsgThinkTimeFromEnv <;> rfl

/-! ### Steps -/

section

variable {s t : Agreement} {out : List ServeOutput}

/-- Where one client moves, the others still agree. -/
theorem Agreement.agrees_set {server : Serve} {c : Nat} {client : ConnectingClient}
    (hothers : ∀ c' client', s.clients.find c' = some client' → client'.Agrees server) :
    Agreement.Agrees ⟨server, s.clients.set c client⟩ ↔ client.Agrees server := by
  constructor
  · intro h
    exact h c client (UnorderedMap.find_set_self _ c client)
  · intro hclient c' client' hfind
    replace hfind : (s.clients.set c client).find c' = some client' := hfind
    rw [UnorderedMap.find_set] at hfind
    split at hfind
    · cases hfind
      exact hclient
    · exact hothers c' client' hfind

theorem Agreement.Agrees.insert (h : s.Agrees) {c : Nat} {client : ConnectingClient}
    (hclient : client.Agrees s.server) : Agreement.Agrees ⟨s.server, s.clients.insert c client⟩ := by
  intro c' client' hfind
  replace hfind : (s.clients.insert c client).find c' = some client' := hfind
  rw [UnorderedMap.find_insert] at hfind
  split at hfind
  · cases hfind
    exact hclient
  · exact h c' client' hfind

/-- The client that a command comes from agrees with the server after it when its `CONNECT` was accepted,
or its think time makes it raise. -/
theorem agrees_of_command {server server' : Serve} {socket : Socket} {actorId : Int} {ack : CommandAck}
    {env : Environment} (hstep : serveStep server (.command socket (.connect { id := actorId })) =
      some (server', out)) (hack : commandAck out = some ack) :
    ConnectingClient.Agrees server' ⟨env, .acked actorId socket ack⟩ ↔
      (server.serverState = .killed → env.retrieveRsgThinkTimeFromEnv.isOk = false) := by
  have hconnect : server.serverState = .killed ∧ ack = {} ∨
      server.serverState ≠ .killed ∧ server'.Accepted actorId socket ack := by
    obtain ⟨t, drop, hhandled, rfl⟩ := serveStep_command hstep
    rcases handleCommand_accepted hhandled with ⟨hkilled, hrefused⟩ | ⟨hkilled, ack', hack', haccepted⟩
    · rw [hack] at hrefused
      cases hrefused
      exact Or.inl ⟨hkilled, rfl⟩
    · rw [hack] at hack'
      cases hack'
      exact Or.inr ⟨hkilled, haccepted⟩
  show ((Connection.ofServer env actorId socket ack).2.isOk → server'.Accepted actorId socket ack) ↔ _
  rw [isOk_ofServer]
  rcases hconnect with ⟨hkilled, rfl⟩ | ⟨hkilled, haccepted⟩
  · constructor
    · intro hagrees _
      by_contra hvalid
      rw [Bool.not_eq_false] at hvalid
      exact absurd (hagrees hvalid).1 Bool.false_ne_true
    · intro hinvalid hvalid
      rw [hinvalid hkilled] at hvalid
      cases hvalid
  · exact iff_of_true (fun _ => haccepted) fun h => absurd h hkilled

theorem agrees_readAck {server : Serve} {env : Environment} {actorId : Int} {socket : Socket}
    {ack : CommandAck} (h : ConnectingClient.Agrees server ⟨env, .acked actorId socket ack⟩) :
    ConnectingClient.Agrees server ⟨env, match (Connection.ofServer env actorId socket ack).2 with
      | .ok connection => .returned connection ack
      | .error e => .raised e⟩ := by
  replace h : (Connection.ofServer env actorId socket ack).2.isOk →
    server.Accepted actorId socket ack := h
  rw [isOk_ofServer] at h
  unfold Connection.ofServer
  cases hthink : env.retrieveRsgThinkTimeFromEnv with
  | error e => trivial
  | ok thinkTime =>
      rw [hthink] at h
      exact h rfl

theorem agrees_served {server : Serve} {event : ServeEvent} {c : Nat} {client : ConnectingClient}
    {point : ConnectPoint} (hserve : serveStep s.server event = some (server, out))
    (hfind : s.clients.find c = some client) (hserved : client.point.served event out = some point) :
    ConnectingClient.Agrees server { client with point := point } ↔
      ConnectsUnkilled s (.server event (some c)) := by
  have hguard : ∀ {socket : Socket} {command : Command}, event = .command socket command →
      (ConnectsUnkilled s (.server event (some c)) ↔ (s.server.serverState = .killed →
        client.environment.retrieveRsgThinkTimeFromEnv.isOk = false)) := by
    rintro socket command rfl
    constructor
    · exact fun h hkilled => h hkilled client hfind
    · intro h hkilled client' hfind'
      rw [hfind] at hfind'
      cases hfind'
      exact h hkilled
  obtain ⟨environment, clientPoint⟩ := client
  cases clientPoint with
  | sent actorId socket =>
      cases socket with
      | none =>
          cases event with
          | accept socket =>
              cases hserved
              exact iff_of_true trivial trivial
          | _ => cases hserved
      | some socket =>
          simp only [ConnectPoint.served] at hserved
          split at hserved
          · rename_i hevent
            obtain ⟨ack, hack, rfl⟩ := Option.map_eq_some_iff.mp hserved
            rw [hguard hevent]
            rw [hevent] at hserve
            exact agrees_of_command hserve hack
          · cases hserved
  | _ => cases hserved

/-- Agreement is lost only where a killed server handles a `CONNECT`. -/
theorem agrees_step {event : AgreementEvent} (h : s.Agrees)
    (hstep : agreementStep s event = some (t, out)) : t.Agrees ↔ ConnectsUnkilled s event := by
  cases event with
  | opening c environment way =>
      simp only [agreementStep] at hstep
      split at hstep
      · split at hstep
        · cases hstep
        · cases hstep
          exact iff_of_true (h.insert trivial) trivial
        · cases hstep
          exact iff_of_true (h.insert trivial) trivial
      · cases hstep
  | readAck c =>
      simp only [agreementStep] at hstep
      split at hstep
      · rename_i environment actorId socket ack hfind
        cases hstep
        exact iff_of_true ((Agreement.agrees_set h).mpr (agrees_readAck (h c _ hfind))) trivial
      · cases hstep
  | connectionLost c e =>
      simp only [agreementStep] at hstep
      split at hstep
      · cases hstep
        exact iff_of_true ((Agreement.agrees_set h).mpr trivial) trivial
      · cases hstep
        exact iff_of_true ((Agreement.agrees_set h).mpr trivial) trivial
      · cases hstep
  | server event client =>
      simp only [agreementStep] at hstep
      split at hstep
      · cases hstep
      · rename_i server out' hserve
        have hothers : ∀ c' client', s.clients.find c' = some client' → client'.Agrees server :=
          fun c' client' hfind => (h c' client' hfind).step (serveStep_cases hserve)
        cases client with
        | none =>
            simp only at hstep
            split at hstep
            · cases hstep
              refine iff_of_true hothers ?_
              cases event <;> trivial
            · cases hstep
        | some c =>
            simp only at hstep
            split at hstep
            · cases hstep
            · rename_i client hfind
              split at hstep
              · cases hstep
              · rename_i point hserved
                cases hstep
                rw [Agreement.agrees_set hothers]
                exact agrees_served hserve hfind hserved

/-- A client that returns from `rsg::connect` has been accepted by the server in the runs where a killed
server handles no `CONNECT`, and in no other run. -/
theorem connected_clients_agree_iff {events : List AgreementEvent}
    (hrun : Run agreementStep {} events t out) :
    Always agreementStep (fun s _ => s.Agrees) {} events ↔
      Throughout agreementStep ConnectsUnkilled {} events := by
  have hinit : ({} : Agreement).Agrees := by
    intro c client hfind
    rw [UnorderedMap.find_empty] at hfind
    cases hfind
  have hassumed : Throughout agreementStep (fun _ _ => True) {} events :=
    fun _ _ _ _ _ _ _ => trivial
  refine always_iff_throughout (I := fun s _ => s.Agrees) hrun hassumed hinit (fun _ _ h => h) ?_ ?_
  · intro s trace event t out hagrees _ hguard hstep
    exact (agrees_step hagrees hstep).mpr hguard
  · intro s trace event t out hagrees _ hguard hstep
    exact fun h => hguard ((agrees_step hagrees hstep).mp h)

end

/-- A client whose environment is complete. -/
def completeEnvironment : Environment where
  serverHostname := some "localhost"
  serverPort := .valid 35000
  initialActorId := .valid 2

/-- An actor is added, and the server is killed between the connection of its client and its command. -/
def refusedEvents : List AgreementEvent :=
  [.server (.accept 5) none, .server (.command 5 (.addActor { actorName := "a", hostName := "h" })) none,
    .opening 0 completeEnvironment (.connect 2), .server (.accept 6) (some 0), .server (.accept 7) none,
    .server (.command 7 (.kill "done")) none, .server (.command 6 (.connect { id := 2 })) (some 0),
    .readAck 0]

/-- The client has returned from `rsg::connect` as the actor, which the server has refused. -/
def Agreement.refused (s : Agreement) : Bool :=
  match s.clients.find 0, s.server.actorConnections.find 2 with
  | some ⟨_, .returned connection ack⟩, some entry =>
      !ack.success && connection.actorId == 2 && entry.socket == none
  | _, _ => false

theorem refused_run : ∃ t out, Run agreementStep {} refusedEvents t out ∧ t.refused = true := by
  have hexec : (exec agreementStep {} refusedEvents).any (fun result => result.1.refused) = true := by
    decide +kernel
  exact Run.of_check hexec

theorem connected_clients_agree_iff_refused : ∃ t out, Run agreementStep {} refusedEvents t out ∧
    (Always agreementStep (fun s _ => s.Agrees) {} refusedEvents ↔
      Throughout agreementStep ConnectsUnkilled {} refusedEvents) := by
  obtain ⟨t, out, hrun, -⟩ := refused_run
  exact ⟨t, out, hrun, connected_clients_agree_iff hrun⟩

/-- `rsg::connect` returns in the client, and the server keeps no socket for the actor. -/
theorem refused_client_is_connected : ∃ t out, Run agreementStep {} refusedEvents t out ∧
    ∃ environment connection ack entry,
      t.clients.find 0 = some ⟨environment, .returned connection ack⟩ ∧ ack.success = false ∧
      t.server.actorConnections.find connection.actorId = some entry ∧ entry.socket = none ∧
      ¬t.Agrees := by
  obtain ⟨t, out, hrun, hrefused⟩ := refused_run
  refine ⟨t, out, hrun, ?_⟩
  unfold Agreement.refused at hrefused
  split at hrefused
  · rename_i environment connection ack entry hclient hentry
    simp only [Bool.and_eq_true, Bool.not_eq_true', beq_iff_eq] at hrefused
    obtain ⟨⟨hack, hactor⟩, hsocket⟩ := hrefused
    refine ⟨environment, connection, ack, entry, hclient, hack, by rw [hactor, hentry], hsocket, ?_⟩
    intro hagrees
    have haccepted : t.server.Accepted connection.actorId connection.socket ack := hagrees 0 _ hclient
    rw [haccepted.1] at hack
    cases hack
  · cases hrefused

end RemoteSimgrid
