import RemoteSimgrid.RsgAddActor
import RemoteSimgrid.ServerAgreement

/-! An experiment: any number of `add-actor` commands and of other clients, against one server. Each
`add-actor` is followed from its command to the connection of the program that it turns into. Whatever
the order of the steps, a program becomes the actor that its `add-actor` has registered. -/

namespace RemoteSimgrid

open Machine Pb Raising

/-- Where an `add-actor` is: its command is sent, on a socket once the server has accepted its connection;
the acknowledgment is written; it is its program, which has not connected yet; the program is a client of
the server; or it has ended. -/
inductive LaunchPoint where
  | sent (socket : Option Socket)
  | acked (ack : CommandAck)
  | program (actorId : Int) (environment : Environment)
  | client (actorId : Int) (client : Nat)
  | exited

structure Launch where
  options : AddActorOptions
  point : LaunchPoint

structure Experiment where
  agreement : Agreement := {}
  launches : UnorderedMap Nat Launch := ∅

/-- An `add-actor` is called; it ends, or goes on as its program; the program connects as its environment
says; the server makes a step that concerns an `add-actor`, or something else happens. -/
inductive ExperimentEvent where
  | addActor (launch : Nat) (options : AddActorOptions)
  | ends (launch : Nat) (calls : RsgCalls) (process : RsgProcess)
  | connects (launch client : Nat) (way : Opening)
  | server (event : ServeEvent) (launch : Nat)
  | other (event : AgreementEvent)

/-- The step of an `add-actor` that the server makes with its own. -/
def LaunchPoint.served (options : AddActorOptions) (event : ServeEvent) (out : List ServeOutput) :
    LaunchPoint → Option LaunchPoint
  | .sent none =>
      match event with
      | .accept socket => some (.sent (some socket))
      | _ => none
  | .sent (some socket) =>
      if event = .command socket options.registration then (commandAck out).map .acked else none
  | _ => none

/-- What `add-actor` becomes at its end. A program whose think time is not finite is not followed. -/
def AddActorOptions.endPoint (options : AddActorOptions) (calls : RsgCalls) (process : RsgProcess)
    (ack : CommandAck) : Option LaunchPoint :=
  match ending (options.addActor calls) process with
  | (.ok (.executes _ _), q) =>
      (q.environ.environment calls.strtod).map (.program (ack.actor.getD {}).id)
  | _ => some .exited

/-- An `add-actor` gets to a point. -/
def Experiment.move (s : Experiment) (l : Nat) (launch : Launch) (point : LaunchPoint) : Experiment :=
  { s with launches := s.launches.set l { launch with point := point } }

def experimentStep (s : Experiment) (event : ExperimentEvent) : Option (Experiment × List ServeOutput) :=
  match event with
  | .addActor l options =>
      if s.launches.find l = none then
        some ({ s with launches := s.launches.insert l ⟨options, .sent none⟩ }, [])
      else none
  | .ends l calls process =>
      match s.launches.find l with
      | none => none
      | some launch =>
          match launch.point, calls.conversation launch.options.registration with
          | .acked ack, .acked ack' =>
              if ack' = ack then
                (launch.options.endPoint calls process ack).map fun point => (s.move l launch point, [])
              else none
          | .sent _, .acked _ => none
          -- the command may be on its way, and an acknowledgment may be lost
          | .sent _, _ | .acked _, _ => some (s.move l launch .exited, [])
          | _, _ => none
  | .connects l c way =>
      match s.launches.find l with
      | some ⟨options, .program actorId environment⟩ =>
          if way = .autoconnect ∨ way = .connect (-1) then
            match agreementStep s.agreement (.opening c environment way) with
            | none => none
            | some (agreement, out) =>
                some (Experiment.move { s with agreement := agreement } l
                  ⟨options, .program actorId environment⟩ (.client actorId c), out)
          else none
      | _ => none
  | .server event l =>
      match agreementStep s.agreement (.server event none) with
      | none => none
      | some (agreement, out) =>
          match s.launches.find l with
          | none => none
          | some launch =>
              match launch.point.served launch.options event out with
              | none => none
              | some point =>
                  some (Experiment.move { s with agreement := agreement } l launch point, out)
  | .other event =>
      match agreementStep s.agreement event with
      | none => none
      | some (agreement, out) => some ({ s with agreement := agreement }, out)

/-! ### The steps of the clients -/

/-- The steps of the clients and of the server. -/
inductive AgreementStep (s : Agreement) : AgreementEvent → Agreement → List ServeOutput → Prop
  | opened (c : Nat) (environment : Environment) (way : Opening) (actorId : Int) :
      s.clients.find c = none → way.start environment none = some (.sends actorId) →
      AgreementStep s (.opening c environment way)
        { s with clients := s.clients.insert c ⟨environment, .sent actorId none⟩ } []
  | notOpened (c : Nat) (environment : Environment) (way : Opening) (kills : Bool) (e : Error) :
      s.clients.find c = none → way.start environment none = some (.throws kills e) →
      AgreementStep s (.opening c environment way)
        { s with clients := s.clients.insert c ⟨environment, .raised e⟩ } []
  | returned (c : Nat) (environment : Environment) (actorId : Int) (socket : Socket) (ack : CommandAck)
      (connection : Connection) :
      s.clients.find c = some ⟨environment, .acked actorId socket ack⟩ →
      connection.actorId = actorId → connection.socket = socket →
      AgreementStep s (.readAck c)
        { s with clients := s.clients.set c ⟨environment, .returned connection ack⟩ } []
  | raised (event : AgreementEvent) (c : Nat) (client : ConnectingClient) (e : Error) :
      s.clients.find c = some client →
      event = .connectionLost c e ∨
        event = .readAck c ∧ client.environment.retrieveRsgThinkTimeFromEnv.isOk = false →
      AgreementStep s event { s with clients := s.clients.set c { client with point := .raised e } } []
  | served (event : ServeEvent) (server : Serve) (out : List ServeOutput) (c : Nat)
      (client : ConnectingClient) (point : ConnectPoint) :
      serveStep s.server event = some (server, out) → s.clients.find c = some client →
      client.point.served event out = some point →
      AgreementStep s (.server event (some c))
        { server := server, clients := s.clients.set c { client with point := point } } out
  | foreign (event : ServeEvent) (server : Serve) (out : List ServeOutput) :
      serveStep s.server event = some (server, out) →
      AgreementStep s (.server event none) { s with server := server } out

theorem agreementStep_cases {s t : Agreement} {event : AgreementEvent} {out : List ServeOutput}
    (hstep : agreementStep s event = some (t, out)) : AgreementStep s event t out := by
  cases event with
  | opening c environment way =>
      simp only [agreementStep] at hstep
      split at hstep
      · rename_i hfind
        split at hstep
        · cases hstep
        · rename_i actorId hway
          cases hstep
          exact .opened c environment way actorId hfind hway
        · rename_i kills e hway
          cases hstep
          exact .notOpened c environment way kills e hfind hway
      · cases hstep
  | readAck c =>
      simp only [agreementStep] at hstep
      split at hstep
      · rename_i environment actorId socket ack hfind
        have hisOk := isOk_ofServer environment actorId socket ack
        unfold Connection.ofServer at hstep hisOk
        cases hthink : environment.retrieveRsgThinkTimeFromEnv with
        | error e =>
            rw [hthink] at hstep
            cases hstep
            exact .raised _ c _ e hfind (Or.inr ⟨rfl, by rw [hthink]; rfl⟩)
        | ok thinkTime =>
            rw [hthink] at hstep
            cases hstep
            exact .returned c environment actorId socket ack _ hfind rfl rfl
      · cases hstep
  | connectionLost c e =>
      simp only [agreementStep] at hstep
      split at hstep
      · rename_i hfind
        cases hstep
        exact .raised _ c _ e hfind (Or.inl rfl)
      · rename_i hfind
        cases hstep
        exact .raised _ c _ e hfind (Or.inl rfl)
      · cases hstep
  | server event client =>
      simp only [agreementStep] at hstep
      split at hstep
      · cases hstep
      · rename_i server out' hserve
        cases client with
        | none =>
            simp only at hstep
            split at hstep
            · cases hstep
              exact .foreign event server out hserve
            · cases hstep
        | some c =>
            simp only at hstep
            split at hstep
            · cases hstep
            · rename_i client hfind
              split at hstep
              · cases hstep
              · rename_i point hserved
                cases hstep
                exact .served event server out c client point hserve hfind hserved

theorem AgreementStep.server {s t : Agreement} {event : AgreementEvent} {out : List ServeOutput}
    (h : AgreementStep s event t out) :
    t.server = s.server ∧ out = [] ∧ (∀ e client, event ≠ .server e client) ∨
      ∃ e client, event = .server e client ∧ serveStep s.server e = some (t.server, out) := by
  cases h with
  | opened => exact Or.inl ⟨rfl, rfl, fun _ _ heq => by cases heq⟩
  | notOpened => exact Or.inl ⟨rfl, rfl, fun _ _ heq => by cases heq⟩
  | returned => exact Or.inl ⟨rfl, rfl, fun _ _ heq => by cases heq⟩
  | raised _ _ _ _ _ hevent =>
      rcases hevent with rfl | ⟨rfl, -⟩ <;> exact Or.inl ⟨rfl, rfl, fun _ _ heq => by cases heq⟩
  | served event _ _ c _ _ hserve => exact Or.inr ⟨event, some c, rfl, hserve⟩
  | foreign event _ _ hserve => exact Or.inr ⟨event, none, rfl, hserve⟩

/-- The id that a client connects with, unless `rsg::connect` has raised. -/
def ConnectPoint.actorId : ConnectPoint → Option Int
  | .sent actorId _ | .acked actorId _ _ => some actorId
  | .returned connection _ => some connection.actorId
  | .raised _ => none

/-- A client keeps its environment and its id. -/
theorem AgreementStep.client {s t : Agreement} {event : AgreementEvent} {out : List ServeOutput}
    (h : AgreementStep s event t out) {c : Nat} {client : ConnectingClient}
    (hfind : s.clients.find c = some client) :
    ∃ point, t.clients.find c = some { client with point := point } ∧
      (point.actorId = client.point.actorId ∨ point.actorId = none) := by
  have hsame : t.clients.find c = some client →
      ∃ point, t.clients.find c = some { client with point := point } ∧
        (point.actorId = client.point.actorId ∨ point.actorId = none) :=
    fun hfind => ⟨client.point, hfind, Or.inl rfl⟩
  cases h with
  | opened c' environment way actorId hnone _ =>
      have hne : c ≠ c' := by
        rintro rfl
        rw [hfind] at hnone
        cases hnone
      refine hsame ?_
      rw [UnorderedMap.find_insert_of_ne _ _ hne, hfind]
  | notOpened c' environment way kills e hnone _ =>
      have hne : c ≠ c' := by
        rintro rfl
        rw [hfind] at hnone
        cases hnone
      refine hsame ?_
      rw [UnorderedMap.find_insert_of_ne _ _ hne, hfind]
  | returned c' environment actorId socket ack connection hfind' hid _ =>
      by_cases hc : c = c'
      · subst hc
        rw [hfind'] at hfind
        cases hfind
        exact ⟨_, UnorderedMap.find_set_self _ _ _, Or.inl (congrArg some hid)⟩
      · refine hsame ?_
        rw [UnorderedMap.find_set_of_ne _ _ hc, hfind]
  | raised _ c' client' e hfind' _ =>
      by_cases hc : c = c'
      · subst hc
        rw [hfind'] at hfind
        cases hfind
        exact ⟨_, UnorderedMap.find_set_self _ _ _, Or.inr rfl⟩
      · refine hsame ?_
        rw [UnorderedMap.find_set_of_ne _ _ hc, hfind]
  | served event' server _ c' client' point _ hfind' hserved =>
      by_cases hc : c = c'
      · subst hc
        rw [hfind'] at hfind
        cases hfind
        refine ⟨point, UnorderedMap.find_set_self _ _ _, Or.inl ?_⟩
        obtain ⟨environment, clientPoint⟩ := client
        cases clientPoint with
        | sent actorId socket =>
            cases socket with
            | none =>
                cases event' with
                | accept socket =>
                    cases hserved
                    rfl
                | _ => cases hserved
            | some socket =>
                simp only [ConnectPoint.served] at hserved
                split at hserved
                · obtain ⟨ack, -, rfl⟩ := Option.map_eq_some_iff.mp hserved
                  rfl
                · cases hserved
        | _ => cases hserved
      · refine hsame ?_
        rw [UnorderedMap.find_set_of_ne _ _ hc, hfind]
  | foreign _ _ _ _ => exact hsame hfind

/-! ### The server -/

theorem find_insert_of_some {m : UnorderedMap Int ActorConnection} {id id' : Int} {c c' : ActorConnection}
    (hfind : m.find id = some c) : (m.insert id' c').find id = some c := by
  rw [UnorderedMap.find_insert, if_neg ?_, hfind]
  rintro ⟨rfl, hnone⟩
  rw [hfind] at hnone
  cases hnone

theorem handleCommand_entry {s t : Serve} {command : Command} {socket : Socket} {out : List ServeOutput}
    {drop : Bool} (h : s.handleCommand command socket = .ok (t, out, drop)) {id : Int}
    {c : ActorConnection} (hfind : s.actorConnections.find id = some c) :
    t.actorConnections.find id = some c ∨ command = .connect { id := id } ∧
      t.actorConnections.find id = some { c with socket := some socket } := by
  cases command with
  | addActor addActor =>
      simp only [Serve.handleCommand, rsgEnforce_eq_ok] at h
      obtain ⟨-, h⟩ := h
      split at h
      · cases h
        exact Or.inl (find_insert_of_some hfind)
      · cases h
        exact Or.inl hfind
  | start =>
      simp only [Serve.handleCommand, rsgEnforce_eq_ok] at h
      obtain ⟨-, h⟩ := h
      split at h <;>
        · cases h
          exact Or.inl hfind
  | kill =>
      cases h
      exact Or.inl hfind
  | status =>
      cases h
      exact Or.inl hfind
  | typeNotSet => cases h
  | connect actor =>
      have hconnected : (s.connected actor.id socket).actorConnections.find id = some c ∨
          Command.connect actor = .connect { id := id } ∧
          (s.connected actor.id socket).actorConnections.find id = some { c with socket := some socket } := by
        by_cases hid : id = actor.id
        · subst hid
          refine Or.inr ⟨rfl, ?_⟩
          rw [Serve.connected, UnorderedMap.find_modify_self, hfind, Option.map_some]
        · refine Or.inl ?_
          rw [Serve.connected, UnorderedMap.find_modify_of_ne _ _ hid, hfind]
      simp only [Serve.handleCommand, rsgEnforce_eq_ok] at h
      obtain ⟨-, h⟩ := h
      split at h
      · split at h
        · cases h
        · rw [rsgEnforce_eq_ok] at h
          obtain ⟨-, h⟩ := h
          split at h
          · split at h
            · cases h
            · cases h
              exact hconnected
          · split at h
            · cases h
              exact hconnected
            · cases h
              exact hconnected
      · cases h
        exact Or.inl hfind

/-- The entry of an actor changes only when a client connects as this actor. -/
theorem entry_step {s t : Serve} {event : ServeEvent} {out : List ServeOutput}
    (hstep : serveStep s event = some (t, out)) {id : Int} {c : ActorConnection}
    (hfind : s.actorConnections.find id = some c) :
    t.actorConnections.find id = some c ∨ ∃ socket, event = .command socket (.connect { id := id }) ∧
      t.actorConnections.find id = some { c with socket := some socket } := by
  cases event with
  | command socket command =>
      obtain ⟨u, drop, hhandled, rfl⟩ := serveStep_command hstep
      rcases handleCommand_entry hhandled hfind with h | ⟨rfl, h⟩
      · exact Or.inl h
      · exact Or.inr ⟨socket, rfl, h⟩
  | accept socket =>
      cases serveStep_cases hstep
      exact Or.inl hfind
  | delete socket =>
      cases serveStep_cases hstep
      exact Or.inl hfind
  | interthread msg =>
      refine Or.inl ?_
      cases serveStep_cases hstep with
      | interthread _ _ _ _ _ hpopped =>
          cases hpopped with
          | created => exact find_insert_of_some hfind
          | _ => exact hfind

attribute [local irreducible] toInt in
/-- A registration takes an id that is free. -/
theorem handleCommand_registers {s t : Serve} {addActor : AddActor} {socket : Socket}
    {trace out : List ServeOutput} {drop : Bool}
    (h : s.handleCommand (.addActor addActor) socket = .ok (t, out, drop)) (hinv : LaunchInv s trace)
    (hfits : (acceptedIds (trace ++ out)).length + 1 < 2 ^ 31) :
    commandAck out = some {} ∨ ∃ c : ActorConnection, s.simulationThreads = [] ∧
      s.actorConnections.find c.actorId = none ∧ t.actorConnections.find c.actorId = some c ∧
      t.simulationThreads = [] ∧ c.actorName = cStr addActor.actorName ∧
      c.hostName = cStr addActor.hostName ∧ c.socket = none ∧
      commandAck out = some { success := true, actor := some { id := c.actorId } } := by
  simp only [Serve.handleCommand, rsgEnforce_eq_ok] at h
  obtain ⟨hstate, h⟩ := h
  split at h
  · rename_i hkilled
    cases h
    have hnone := hinv.notStarted (Or.inl (hstate.resolve_right hkilled))
    have hregistering := hinv.registering hnone
    rw [acceptedIds_append, List.length_append] at hfits
    have hlength : (acceptedIds trace).length + 2 < 2 ^ 31 := hfits
    have hnext : toInt (s.actorConnections.size + 2) = ((acceptedIds trace).length : Int) + 2 := by
      rw [hregistering.size, toInt_of_lt hlength]
      push_cast
      rfl
    let c : ActorConnection :=
      { actorName := cStr addActor.actorName
        hostName := cStr addActor.hostName
        actorId := toInt (s.actorConnections.size + 2) }
    have hfree : s.actorConnections.find c.actorId = none := (hregistering.add (c := c) hnext rfl).1
    exact Or.inr ⟨c, hnone, hfree, UnorderedMap.find_insert_self _ hfree, hnone, rfl, rfl, rfl, rfl⟩
  · cases h
    exact Or.inl rfl

/-! ### The invariant -/

/-- A client that the server has told so is accepted. -/
def ConnectingClient.Told (server : Serve) (client : ConnectingClient) : Prop :=
  match client.point with
  | .acked actorId socket ack => ack.success = true → server.Accepted actorId socket ack
  | .returned connection ack =>
      ack.success = true → server.Accepted connection.actorId connection.socket ack
  | _ => True

/-- The server in every state of an experiment, given what it has written so far. -/
structure ServerInv (s : Agreement) (out : List ServeOutput) : Prop where
  launch : LaunchInv s.server out
  finished : s.server.serverState = .simulationFinished → s.server.simulationThreads ≠ []
  told : ∀ c client, s.clients.find c = some client → client.Told s.server

/-- The id under which the server has registered the actor of an `add-actor`. -/
def LaunchPoint.actorId : LaunchPoint → Option Int
  | .acked ack => if ack.success then some (ack.actor.getD {}).id else none
  | .program actorId _ | .client actorId _ => some actorId
  | _ => none

/-- A map where the actor of an `add-actor` is entered under an id. -/
def AddActorOptions.Entered (options : AddActorOptions) (actorId : Int)
    (m : UnorderedMap Int ActorConnection) : Prop :=
  ∃ c, m.find actorId = some c ∧ c.actorName = cStr options.actorName ∧
    c.hostName = cStr options.vhostName

/-- An environment from which a process connects as an actor, by itself or when it asks to. -/
def Environment.ConnectsAs (environment : Environment) (actorId : Int) : Prop :=
  environment.retrieveRsgThinkTimeFromEnv.isOk = true ∧
    ∀ way : Opening, way = .autoconnect ∨ way = .connect (-1) →
      ∀ start, way.start environment none = some start → start = .sends actorId

/-- What holds of an `add-actor` whose actor is registered. -/
structure LaunchHolds (s : Agreement) (trace : List ServeOutput) (launch : Launch) (actorId : Int) :
    Prop where
  accepted : actorId ∈ acceptedIds trace
  entered : launch.options.Entered actorId s.server.actorConnections
  started : ∀ m ∈ s.server.simulationThreads, launch.options.Entered actorId m
  program : ∀ id environment, launch.point = .program id environment → environment.ConnectsAs actorId
  client : ∀ id c, launch.point = .client id c → ∃ client, s.clients.find c = some client ∧
    client.environment.retrieveRsgThinkTimeFromEnv.isOk = true ∧
    (client.point.actorId = some actorId ∨ client.point.actorId = none)

structure ExperimentInv (s : Experiment) (out : List ServeOutput) : Prop where
  server : ServerInv s.agreement out
  holds : ∀ l launch actorId, s.launches.find l = some launch → launch.point.actorId = some actorId →
    LaunchHolds s.agreement out launch actorId
  distinct : ∀ l l' launch launch' actorId, s.launches.find l = some launch →
    s.launches.find l' = some launch' → launch.point.actorId = some actorId →
    launch'.point.actorId = some actorId → l = l'

section

variable {s t : Agreement} {event : AgreementEvent} {trace out : List ServeOutput}

theorem ConnectingClient.Told.step {server server' : Serve} {e : ServeEvent} {out : List ServeOutput}
    (hstep : ServeStep server e server' out) {client : ConnectingClient} (h : client.Told server) :
    client.Told server' := by
  obtain ⟨environment, point⟩ := client
  cases point with
  | sent => trivial
  | acked actorId socket ack => exact fun hack => Serve.Accepted.step hstep (h hack)
  | returned connection ack => exact fun hack => Serve.Accepted.step hstep (h hack)
  | raised => trivial

theorem told_set {server : Serve} {c : Nat} {client : ConnectingClient}
    (hothers : ∀ c' client', s.clients.find c' = some client' → client'.Told server)
    (hclient : client.Told server) {c' : Nat} {client' : ConnectingClient}
    (hfind : (s.clients.set c client).find c' = some client') : client'.Told server := by
  rw [UnorderedMap.find_set] at hfind
  split at hfind
  · cases hfind
    exact hclient
  · exact hothers c' client' hfind

theorem told_insert (hothers : ∀ c' client', s.clients.find c' = some client' → client'.Told s.server)
    {c : Nat} {client : ConnectingClient} (hclient : client.Told s.server) {c' : Nat}
    {client' : ConnectingClient} (hfind : (s.clients.insert c client).find c' = some client') :
    client'.Told s.server := by
  rw [UnorderedMap.find_insert] at hfind
  split at hfind
  · cases hfind
    exact hclient
  · exact hothers c' client' hfind

theorem told_served {server : Serve} {e : ServeEvent} {client : ConnectingClient} {point : ConnectPoint}
    (hserve : serveStep s.server e = some (server, out))
    (hserved : client.point.served e out = some point) :
    ConnectingClient.Told server { client with point := point } := by
  obtain ⟨environment, clientPoint⟩ := client
  cases clientPoint with
  | sent actorId socket =>
      cases socket with
      | none =>
          cases e with
          | accept socket =>
              cases hserved
              trivial
          | _ => cases hserved
      | some socket =>
          simp only [ConnectPoint.served] at hserved
          split at hserved
          · rename_i hevent
            obtain ⟨ack, hack, rfl⟩ := Option.map_eq_some_iff.mp hserved
            rw [hevent] at hserve
            obtain ⟨u, drop, hhandled, rfl⟩ := serveStep_command hserve
            intro hsuccess
            rcases handleCommand_accepted hhandled with ⟨-, hrefused⟩ | ⟨-, ack', hack', haccepted⟩
            · rw [hack] at hrefused
              cases hrefused
              cases hsuccess
            · rw [hack] at hack'
              cases hack'
              exact haccepted
          · cases hserved
  | _ => cases hserved

/-- The simulation finishes after it has started. -/
theorem finished_step {server server' : Serve} {e : ServeEvent} (hstep : ServeStep server e server' out)
    (h : server.serverState = .simulationFinished → server.simulationThreads ≠ []) :
    server'.serverState = .simulationFinished → server'.simulationThreads ≠ [] := by
  cases hstep with
  | accept => exact h
  | delete => exact h
  | interthread _ _ _ hthreads _ hpopped => cases hpopped <;> exact fun _ => hthreads
  | command _ _ _ _ _ _ hhandled =>
      cases hhandled with
      | started | connectedLast => exact fun hfinished => by cases hfinished
      | waiting | killed => exact fun hfinished => by cases hfinished
      | added | unchanged | connectedDynamic | connectedInitial => exact h

theorem ServerInv.step (h : ServerInv s trace) (hstep : AgreementStep s event t out)
    (hfits : (acceptedIds (trace ++ out)).length + 1 < 2 ^ 31) : ServerInv t (trace ++ out) := by
  have hserver : LaunchInv t.server (trace ++ out) ∧
      (t.server.serverState = .simulationFinished → t.server.simulationThreads ≠ []) := by
    rcases hstep.server with ⟨hserver, rfl, -⟩ | ⟨e, client, -, hserve⟩
    · rw [hserver, List.append_nil]
      exact ⟨h.launch, h.finished⟩
    · exact ⟨h.launch.step (serveStep_cases hserve) hfits, finished_step (serveStep_cases hserve) h.finished⟩
  refine ⟨hserver.1, hserver.2, ?_⟩
  cases hstep with
  | opened c environment way actorId _ _ =>
      have htold : ConnectingClient.Told s.server ⟨environment, .sent actorId none⟩ := trivial
      exact fun _ _ => told_insert h.told htold
  | notOpened c environment way kills e _ _ =>
      have htold : ConnectingClient.Told s.server ⟨environment, .raised e⟩ := trivial
      exact fun _ _ => told_insert h.told htold
  | returned c environment actorId socket ack connection hfind hid hsocket =>
      have htold : ack.success = true → s.server.Accepted actorId socket ack := h.told c _ hfind
      refine fun _ _ => told_set h.told ?_
      show ack.success = true → s.server.Accepted connection.actorId connection.socket ack
      rw [hid, hsocket]
      exact htold
  | raised _ c client e _ _ =>
      have htold : ConnectingClient.Told s.server ⟨client.environment, .raised e⟩ := trivial
      exact fun _ _ => told_set h.told htold
  | served e server _ c client point hserve hfind hserved =>
      refine fun _ _ => told_set (fun c' client' hfind' => ?_) (told_served hserve hserved)
      exact (h.told c' client' hfind').step (serveStep_cases hserve)
  | foreign e server _ hserve =>
      exact fun c client hfind => (h.told c client hfind).step (serveStep_cases hserve)

end

/-! ### Steps -/

section

variable {s t : Agreement} {event : AgreementEvent} {trace out : List ServeOutput} {launch : Launch}
  {actorId : Int}

theorem Entered.step {options : AddActorOptions} (h : options.Entered actorId s.server.actorConnections)
    (hstep : AgreementStep s event t out) : options.Entered actorId t.server.actorConnections := by
  obtain ⟨c, hfind, hactorName, hhostName⟩ := h
  rcases hstep.server with ⟨hserver, -, -⟩ | ⟨e, client, -, hserve⟩
  · exact ⟨c, hserver ▸ hfind, hactorName, hhostName⟩
  · rcases entry_step hserve hfind with hfind | ⟨socket, -, hfind⟩
    · exact ⟨c, hfind, hactorName, hhostName⟩
    · exact ⟨_, hfind, hactorName, hhostName⟩

/-- A step of the clients and the server, for an `add-actor` that does not move. -/
theorem LaunchHolds.step (h : LaunchHolds s trace launch actorId) (hstep : AgreementStep s event t out) :
    LaunchHolds t (trace ++ out) launch actorId where
  accepted := by
    rw [acceptedIds_append]
    exact List.mem_append_left _ h.accepted
  entered := Entered.step h.entered hstep
  started m hm := by
    rcases hstep.server with ⟨hserver, -, -⟩ | ⟨e, client, -, hserve⟩
    · exact h.started m (hserver ▸ hm)
    · rcases simulationThreads_step (serveStep_cases hserve) with ⟨-, -, hthreads⟩ | ⟨-, hthreads⟩
      · rw [hthreads] at hm
        rcases List.mem_append.mp hm with hm | hm
        · exact h.started m hm
        · rw [List.mem_singleton.mp hm]
          exact Entered.step h.entered hstep
      · exact h.started m (hthreads ▸ hm)
  program := h.program
  client id c hpoint := by
    obtain ⟨client, hfind, hthink, hactorId⟩ := h.client id c hpoint
    obtain ⟨point, hfind', hpoint'⟩ := hstep.client hfind
    refine ⟨_, hfind', hthink, ?_⟩
    rcases hpoint' with hsame | hraised
    · rw [← hsame] at hactorId
      exact hactorId
    · exact Or.inr hraised

end

/-- The steps of an experiment. -/
inductive ExperimentStep (s : Experiment) : ExperimentEvent → Experiment → List ServeOutput → Prop
  | added (l : Nat) (options : AddActorOptions) : s.launches.find l = none →
      ExperimentStep s (.addActor l options)
        { s with launches := s.launches.insert l ⟨options, .sent none⟩ } []
  | ended (l : Nat) (calls : RsgCalls) (process : RsgProcess) (launch : Launch) (point : LaunchPoint) :
      s.launches.find l = some launch →
      (∃ ack, launch.point = .acked ack ∧ calls.conversation launch.options.registration = .acked ack ∧
        launch.options.endPoint calls process ack = some point) ∨ point = .exited →
      ExperimentStep s (.ends l calls process) (s.move l launch point) []
  | connected (l c : Nat) (way : Opening) (launch : Launch) (actorId : Int) (environment : Environment)
      (agreement : Agreement) (out : List ServeOutput) :
      s.launches.find l = some launch → launch.point = .program actorId environment →
      way = .autoconnect ∨ way = .connect (-1) →
      AgreementStep s.agreement (.opening c environment way) agreement out →
      ExperimentStep s (.connects l c way)
        (Experiment.move { s with agreement := agreement } l launch (.client actorId c)) out
  | served (event : ServeEvent) (l : Nat) (launch : Launch) (point : LaunchPoint)
      (agreement : Agreement) (out : List ServeOutput) :
      s.launches.find l = some launch → launch.point.served launch.options event out = some point →
      AgreementStep s.agreement (.server event none) agreement out →
      ExperimentStep s (.server event l)
        (Experiment.move { s with agreement := agreement } l launch point) out
  | other (event : AgreementEvent) (agreement : Agreement) (out : List ServeOutput) :
      AgreementStep s.agreement event agreement out →
      ExperimentStep s (.other event) { s with agreement := agreement } out

theorem experimentStep_cases {s t : Experiment} {event : ExperimentEvent} {out : List ServeOutput}
    (hstep : experimentStep s event = some (t, out)) : ExperimentStep s event t out := by
  cases event with
  | addActor l options =>
      simp only [experimentStep] at hstep
      split at hstep
      · cases hstep
        exact .added l options ‹_›
      · cases hstep
  | ends l calls process =>
      simp only [experimentStep] at hstep
      split at hstep
      · cases hstep
      · rename_i launch hfind
        split at hstep
        · rename_i ack ack' hpoint hconversation
          split at hstep
          · rename_i hack
            obtain ⟨point, hend, heq⟩ := Option.map_eq_some_iff.mp hstep
            cases heq
            exact .ended l calls process launch _ hfind
              (Or.inl ⟨ack, hpoint, by rw [hconversation, hack], hend⟩)
          · cases hstep
        · cases hstep
        · cases hstep
          exact .ended l calls process launch _ hfind (Or.inr rfl)
        · cases hstep
          exact .ended l calls process launch _ hfind (Or.inr rfl)
        · cases hstep
  | connects l c way =>
      simp only [experimentStep] at hstep
      split at hstep
      · rename_i options actorId environment hfind
        split at hstep
        · rename_i hway
          split at hstep
          · cases hstep
          · rename_i agreement out' hopening
            cases hstep
            exact .connected l c way _ actorId environment agreement out hfind rfl hway
              (agreementStep_cases hopening)
        · cases hstep
      · cases hstep
  | server event l =>
      simp only [experimentStep] at hstep
      split at hstep
      · cases hstep
      · rename_i agreement out' hserve
        split at hstep
        · cases hstep
        · rename_i launch hfind
          split at hstep
          · cases hstep
          · rename_i point hserved
            cases hstep
            exact .served event l launch point agreement out hfind hserved (agreementStep_cases hserve)
  | other event =>
      simp only [experimentStep] at hstep
      split at hstep
      · cases hstep
      · rename_i agreement out' hother
        cases hstep
        exact .other event agreement out (agreementStep_cases hother)

section

variable {s t : Experiment} {trace out : List ServeOutput}

/-- An `add-actor` moves beside a step of the clients and the server. Its actor is the same, or new. -/
theorem ExperimentInv.move (h : ExperimentInv s trace) {agreement : Agreement} {l : Nat}
    {launch : Launch} {point : LaunchPoint} (hfind : s.launches.find l = some launch)
    (hserver : ServerInv agreement out)
    (hothers : ∀ l' launch' actorId, s.launches.find l' = some launch' →
      launch'.point.actorId = some actorId → LaunchHolds agreement out launch' actorId)
    (hmoved : ∀ actorId, point.actorId = some actorId →
      LaunchHolds agreement out { launch with point := point } actorId)
    (hnew : ∀ actorId, point.actorId = some actorId → launch.point.actorId = some actorId ∨
      ∀ l' launch', s.launches.find l' = some launch' → launch'.point.actorId ≠ some actorId) :
    ExperimentInv (Experiment.move { s with agreement := agreement } l launch point) out where
  server := hserver
  holds l' launch' actorId hfind' hid := by
    replace hfind' : (s.launches.set l { launch with point := point }).find l' = some launch' := hfind'
    rw [UnorderedMap.find_set] at hfind'
    split at hfind'
    · cases hfind'
      exact hmoved actorId hid
    · exact hothers l' launch' actorId hfind' hid
  distinct l₁ l₂ launch₁ launch₂ actorId hfind₁ hfind₂ hid₁ hid₂ := by
    replace hfind₁ : (s.launches.set l { launch with point := point }).find l₁ = some launch₁ := hfind₁
    replace hfind₂ : (s.launches.set l { launch with point := point }).find l₂ = some launch₂ := hfind₂
    have hother : ∀ l' launch', l' ≠ l → s.launches.find l' = some launch' →
        launch'.point.actorId = some actorId → point.actorId ≠ some actorId := by
      intro l' launch' hne hfind' hid' hid
      rcases hnew actorId hid with hsame | hnone
      · exact hne (h.distinct l' l launch' launch actorId hfind' hfind hid' hsame)
      · exact hnone l' launch' hfind' hid'
    rw [UnorderedMap.find_set] at hfind₁ hfind₂
    split at hfind₁
    · split at hfind₂
      · rename_i h₁ h₂
        rw [h₁, h₂]
      · cases hfind₁
        exact absurd hid₁ (hother l₂ launch₂ ‹_› hfind₂ hid₂)
    · split at hfind₂
      · cases hfind₂
        exact absurd hid₂ (hother l₁ launch₁ ‹_› hfind₁ hid₁)
      · exact h.distinct l₁ l₂ launch₁ launch₂ actorId hfind₁ hfind₂ hid₁ hid₂

end

section

variable {s t : Experiment} {trace out : List ServeOutput} {event : ExperimentEvent}

theorem connectsAs_of_runsAs {options : AddActorOptions} {strtod : String → Option Double} {actorId : Int}
    {environ environ' : Variables} (h : RunsAs options strtod actorId environ environ')
    {environment : Environment} (henvironment : environ'.environment strtod = some environment) :
    environment.ConnectsAs actorId := by
  refine ⟨?_, ?_⟩
  · obtain ⟨measured, thinkTime, hread, -⟩ := h.thinks
    obtain ⟨value, -, hvalue⟩ := Variables.retrieve_environment henvironment hread
    rw [hvalue]
    rfl
  · obtain ⟨thinkTime, -, rfl⟩ := Option.map_eq_some_iff.mp henvironment
    rintro way (rfl | rfl) start hstart
    · cases hautoconnect : options.autoconnect with
      | true =>
          rw [h.opens _ _ (Or.inl ⟨rfl, hautoconnect⟩)] at hstart
          exact (Option.some.inj hstart).symm
      | false =>
          rw [h.waits hautoconnect] at hstart
          cases hstart
    · rw [h.opens _ _ (Or.inr rfl)] at hstart
      exact (Option.some.inj hstart).symm

/-- An `add-actor` whose actor is registered ends, or goes on as a program that connects as this actor. -/
theorem endPoint_cases {options : AddActorOptions} {calls : RsgCalls} {process : RsgProcess}
    {ack : CommandAck} {point : LaunchPoint} (hend : options.endPoint calls process ack = some point)
    (hack : calls.conversation options.registration = .acked ack) :
    point = .exited ∨
      ∃ environment, point = .program (ack.actor.getD {}).id environment ∧ ack.success = true ∧
        (InInt (ack.actor.getD {}).id → environment.ConnectsAs (ack.actor.getD {}).id) := by
  unfold AddActorOptions.endPoint at hend
  split at hend
  · rename_i file argv q hending
    obtain ⟨environment, henvironment, rfl⟩ := Option.map_eq_some_iff.mp hend
    obtain ⟨ack', hack', hsuccess, hthinkTime, rfl⟩ := executes_cases hending
    rw [hack] at hack'
    cases hack'
    exact Or.inr ⟨environment, rfl, hsuccess,
      fun hid => connectsAs_of_runsAs (runsAs_prepared hid hthinkTime) henvironment⟩
  · cases hend
    exact Or.inl rfl

theorem inInt_of_entered {options : AddActorOptions} {server : Serve} {actorId : Int}
    (hinv : LaunchInv server trace) (h : options.Entered actorId server.actorConnections) :
    InInt actorId := by
  obtain ⟨c, hfind, -⟩ := h
  obtain ⟨-, hpos, hlt⟩ := hinv.keyed actorId c hfind
  unfold InInt
  omega

theorem mem_acceptedIds {ack : CommandAck} {actor : Actor} (hack : commandAck out = some ack)
    (hactor : ack.actor = some actor) : actor.id ∈ acceptedIds out := by
  obtain ⟨output, hmem, houtput⟩ := List.exists_of_findSome?_eq_some hack
  refine List.mem_filterMap.mpr ⟨output, hmem, ?_⟩
  cases output with
  | writeCommandAck socket ack' =>
      cases houtput
      exact congrArg (Option.map _) hactor
  | push => cases houtput

/-- The server answers an `add-actor`: its actor is new. -/
theorem registered_holds (launch : Launch) {a b : Agreement} {socket : Socket} {ack : CommandAck}
    (hinv : ServerInv a trace) (hfits : (acceptedIds (trace ++ out)).length + 1 < 2 ^ 31)
    (hstep : AgreementStep a (.server (.command socket launch.options.registration) none) b out)
    (hack : commandAck out = some ack) {actorId : Int}
    (hid : (LaunchPoint.acked ack).actorId = some actorId) :
    LaunchHolds b (trace ++ out) { launch with point := .acked ack } actorId ∧
      a.server.actorConnections.find actorId = none := by
  rcases hstep.server with ⟨-, -, hno⟩ | ⟨e, client, hevent, hserve⟩
  · exact absurd rfl (hno _ _)
  · cases hevent
    obtain ⟨u, drop, hhandled, hb⟩ := serveStep_command hserve
    rcases handleCommand_registers hhandled hinv.launch hfits with
      hrefused | ⟨c, -, hfree, hfind, hthreads, hactorName, hhostName, hsocket, haccepted⟩
    · rw [hack] at hrefused
      cases hrefused
      cases hid
    · rw [hack] at haccepted
      cases haccepted
      cases hid
      refine ⟨?_, hfree⟩
      have hentered : launch.options.Entered c.actorId b.server.actorConnections := by
        rw [hb]
        exact ⟨c, hfind, hactorName, hhostName⟩
      exact
        { accepted := by
            rw [acceptedIds_append]
            exact List.mem_append_right _ (mem_acceptedIds hack rfl)
          entered := hentered
          started := fun m hm => by
            rw [hb] at hm
            replace hm : m ∈ u.simulationThreads := hm
            rw [hthreads] at hm
            cases hm
          program := fun _ _ hpoint => by cases hpoint
          client := fun _ _ hpoint => by cases hpoint }

theorem ExperimentInv.step (h : ExperimentInv s trace) (hstep : ExperimentStep s event t out)
    (hfits : (acceptedIds (trace ++ out)).length + 1 < 2 ^ 31) : ExperimentInv t (trace ++ out) := by
  have hkept : ∀ {e : AgreementEvent} {agreement : Agreement} (_ : AgreementStep s.agreement e agreement out),
      ServerInv agreement (trace ++ out) ∧ ∀ l launch actorId, s.launches.find l = some launch →
        launch.point.actorId = some actorId → LaunchHolds agreement (trace ++ out) launch actorId :=
    fun hagreement => ⟨h.server.step hagreement hfits,
      fun l launch actorId hfind hid => (h.holds l launch actorId hfind hid).step hagreement⟩
  cases hstep with
  | added l options hnone =>
      have hfind' : ∀ {l' launch' actorId}, (s.launches.insert l ⟨options, .sent none⟩).find l' = some launch' →
          launch'.point.actorId = some actorId → s.launches.find l' = some launch' := by
        intro l' launch' actorId hfind hid
        rw [UnorderedMap.find_insert] at hfind
        split at hfind
        · cases hfind
          cases hid
        · exact hfind
      rw [List.append_nil]
      exact
        { server := h.server
          holds := fun l' launch' actorId hfind hid => h.holds l' launch' actorId (hfind' hfind hid) hid
          distinct := fun l₁ l₂ launch₁ launch₂ actorId hfind₁ hfind₂ hid₁ hid₂ =>
            h.distinct l₁ l₂ launch₁ launch₂ actorId (hfind' hfind₁ hid₁) (hfind' hfind₂ hid₂) hid₁ hid₂ }
  | ended l calls process launch point hfind hpoint =>
      rw [List.append_nil]
      have hexits : ExperimentInv (s.move l launch .exited) trace :=
        h.move hfind h.server h.holds (fun _ hid => by cases hid) fun _ hid => by cases hid
      rcases hpoint with ⟨ack, hacked, hconversation, hend⟩ | rfl
      · rcases endPoint_cases hend hconversation with rfl | ⟨environment, rfl, hsuccess, hconnects⟩
        · exact hexits
        · have hid : launch.point.actorId = some (ack.actor.getD {}).id := by
            rw [hacked, LaunchPoint.actorId, if_pos hsuccess]
          have hholds := h.holds l launch _ hfind hid
          refine h.move hfind h.server h.holds (fun actorId hid' => ?_) fun actorId hid' => Or.inl ?_
          · cases hid'
            exact
              { accepted := hholds.accepted
                entered := hholds.entered
                started := hholds.started
                program := fun _ _ heq => by
                  cases heq
                  exact hconnects (inInt_of_entered h.server.launch hholds.entered)
                client := fun _ _ heq => by cases heq }
          · cases hid'
            exact hid
      · exact hexits
  | connected l c way launch actorId environment agreement _ hfind hpoint hway hopening =>
      obtain ⟨hserver, hholds⟩ := hkept hopening
      have hid : launch.point.actorId = some actorId := by
        rw [hpoint]
        rfl
      have hlaunch := hholds l launch actorId hfind hid
      obtain ⟨hthink, hstart⟩ := hlaunch.program _ _ hpoint
      refine h.move hfind hserver hholds (fun actorId' hid' => ?_) fun actorId' hid' => Or.inl ?_
      · cases hid'
        refine
          { accepted := hlaunch.accepted
            entered := hlaunch.entered
            started := hlaunch.started
            program := fun _ _ heq => by cases heq
            client := fun id' c' heq => ?_ }
        cases heq
        cases hopening with
        | opened _ _ _ id hnone hsends =>
            cases hstart way hway _ hsends
            exact ⟨_, UnorderedMap.find_insert_self _ hnone, hthink, Or.inl rfl⟩
        | notOpened _ _ _ kills e _ hthrows => cases hstart way hway _ hthrows
        | raised _ _ _ _ _ he => rcases he with he | ⟨he, -⟩ <;> cases he
      · cases hid'
        exact hid
  | served event l launch point agreement _ hfind hserved hserve =>
      obtain ⟨options, launchPoint⟩ := launch
      cases launchPoint with
      | sent socket =>
          cases socket with
          | none =>
              cases event with
              | accept socket =>
                  cases hserved
                  obtain ⟨hserver, hholds⟩ := hkept hserve
                  exact h.move hfind hserver hholds (fun _ hid => by cases hid) fun _ hid => by cases hid
              | _ => cases hserved
          | some socket =>
              simp only [LaunchPoint.served] at hserved
              split at hserved
              · rename_i hevent
                obtain ⟨ack, hack, rfl⟩ := Option.map_eq_some_iff.mp hserved
                rw [hevent] at hserve
                obtain ⟨hserver, hholds⟩ := hkept hserve
                have hnew : ∀ actorId, (LaunchPoint.acked ack).actorId = some actorId →
                    LaunchHolds agreement (trace ++ out) ⟨options, .acked ack⟩ actorId ∧
                      s.agreement.server.actorConnections.find actorId = none :=
                  fun actorId => registered_holds ⟨options, .sent (some socket)⟩ h.server hfits
                    hserve hack
                refine h.move hfind hserver hholds (fun actorId hid => (hnew actorId hid).1)
                  fun actorId hid => Or.inr fun l' launch' hfind' hid' => ?_
                obtain ⟨c, hentered, -⟩ := (h.holds l' launch' actorId hfind' hid').entered
                rw [(hnew actorId hid).2] at hentered
                cases hentered
              · cases hserved
      | _ => cases hserved
  | other event agreement _ hother =>
      obtain ⟨hserver, hholds⟩ := hkept hother
      exact { server := hserver, holds := hholds, distinct := h.distinct }

theorem experimentInv_run {events : List ExperimentEvent} (hrun : Run experimentStep {} events s trace)
    (hfits : (acceptedIds trace).length + 1 < 2 ^ 31) : ExperimentInv s trace := by
  revert hfits
  refine hrun.invariant (P := fun _ s out => (acceptedIds out).length + 1 < 2 ^ 31 → ExperimentInv s out)
    (fun _ => ?_) ?_
  · exact
      { server :=
          { launch := LaunchInv.init
            finished := fun h => by cases h
            told := fun _ _ h => by rw [UnorderedMap.find_empty] at h; cases h }
        holds := fun _ _ _ h => by rw [UnorderedMap.find_empty] at h; cases h
        distinct := fun _ _ _ _ _ h => by rw [UnorderedMap.find_empty] at h; cases h }
  · intro _ s trace event t out _ hinv hstep hfits
    refine (hinv ?_).step (experimentStep_cases hstep) hfits
    rw [acceptedIds_append, List.length_append] at hfits
    omega

/-- The program of an `add-actor` is the actor that was registered, and no other program is. The server has
this actor under the names of the options, the simulation is given it under these names, and a program that
has connected is the client of this actor. -/
theorem program_is_its_actor {events : List ExperimentEvent} (hrun : Run experimentStep {} events s trace)
    (hfits : (acceptedIds trace).length + 1 < 2 ^ 31) {l : Nat} {launch : Launch} {actorId : Int}
    (hfind : s.launches.find l = some launch) (hid : launch.point.actorId = some actorId) :
    (∀ l' launch', s.launches.find l' = some launch' → launch'.point.actorId = some actorId → l' = l) ∧
    launch.options.Entered actorId s.agreement.server.actorConnections ∧
    (∀ m ∈ s.agreement.server.simulationThreads, launch.options.Entered actorId m) ∧
    ∀ c environment connection ack, launch.point = .client actorId c →
      s.agreement.clients.find c = some ⟨environment, .returned connection ack⟩ →
      connection.actorId = actorId ∧
        (ack.success = true → s.agreement.server.Accepted actorId connection.socket ack) := by
  have hinv := experimentInv_run hrun hfits
  have hholds := hinv.holds l launch actorId hfind hid
  refine ⟨fun l' launch' hfind' hid' => hinv.distinct l' l launch' launch actorId hfind' hfind hid' hid,
    hholds.entered, hholds.started, fun c environment connection ack hpoint hclient => ?_⟩
  have hactorId : connection.actorId = actorId := by
    obtain ⟨client, hfind', -, hactorId⟩ := hholds.client actorId c hpoint
    rw [hclient] at hfind'
    cases hfind'
    exact Option.some.inj (hactorId.resolve_right fun h => by cases h)
  have htold : ack.success = true →
      s.agreement.server.Accepted connection.actorId connection.socket ack :=
    hinv.server.told c _ hclient
  rw [hactorId] at htold
  exact ⟨hactorId, htold⟩

end

/-- A second actor, whom the server registers as 3. -/
def bobOptions : AddActorOptions := { launchOptions with actorName := "bob", vhostName := "host1" }

def bobCalls : RsgCalls :=
  { launchCalls with conversation := fun _ => .acked { success := true, actor := some { id := 3 } } }

/-- Two `add-actor` until their programs run, and the order to start the simulation. -/
def registrationEvents : List ExperimentEvent :=
  [.addActor 0 launchOptions, .server (.accept 5) 0, .addActor 1 bobOptions,
    .server (.command 5 launchOptions.registration) 0, .server (.accept 6) 1,
    .server (.command 6 bobOptions.registration) 1, .ends 1 bobCalls {}, .ends 0 launchCalls {},
    .other (.server (.accept 7) none), .other (.server (.command 7 (.start true)) none)]

/-- The connections of the programs, with which the simulation starts. -/
def connectionEvents : List ExperimentEvent :=
  [.connects 0 9 .autoconnect, .other (.server (.accept 8) (some 9)), .connects 1 10 .autoconnect,
    .other (.server (.command 8 (.connect { id := 2 })) (some 9)), .other (.readAck 9),
    .other (.server (.accept 9) (some 10)),
    .other (.server (.command 9 (.connect { id := 3 })) (some 10)), .other (.readAck 10)]

def LaunchPoint.connected : LaunchPoint → Option Nat
  | .client _ c => some c
  | _ => none

def ConnectPoint.isAccepted : ConnectPoint → Bool
  | .returned _ ack => ack.success
  | _ => false

theorem experiment_run : ∃ s trace alice bob environment connection ack m,
    Run experimentStep {} (registrationEvents ++ connectionEvents) s trace ∧
    (acceptedIds trace).length + 1 < 2 ^ 31 ∧ s.launches.find 0 = some alice ∧
    s.launches.find 1 = some bob ∧ alice.point = .client 2 9 ∧ bob.point.actorId = some 3 ∧
    m ∈ s.agreement.server.simulationThreads ∧
    s.agreement.clients.find 9 = some ⟨environment, .returned connection ack⟩ ∧ ack.success = true := by
  have hexec : (exec experimentStep {} (registrationEvents ++ connectionEvents)).any (fun result =>
      decide ((acceptedIds result.2).length + 1 < 2 ^ 31) &&
        (result.1.launches.find 0).any (fun launch =>
          launch.point.actorId == some 2 && launch.point.connected == some 9) &&
        (result.1.launches.find 1).any (fun launch => launch.point.actorId == some 3) &&
        !result.1.agreement.server.simulationThreads.isEmpty &&
        (result.1.agreement.clients.find 9).any fun client => client.point.isAccepted) = true := by
    decide +kernel
  obtain ⟨s, trace, hrun, hcheck⟩ := Run.of_check hexec
  simp only [Bool.and_eq_true, decide_eq_true_eq, Option.any_eq_true, beq_iff_eq] at hcheck
  obtain ⟨⟨⟨⟨hfits, alice, halice, hid, hconnected⟩, bob, hbob, hidBob⟩, hstarted⟩, client, hclient,
    haccepted⟩ := hcheck
  obtain ⟨m, threads, hthreads⟩ : ∃ m threads, s.agreement.server.simulationThreads = m :: threads := by
    cases hthreads : s.agreement.server.simulationThreads with
    | nil => rw [hthreads] at hstarted; cases hstarted
    | cons m threads => exact ⟨m, threads, rfl⟩
  obtain ⟨environment, connection, ack, rfl, hack⟩ : ∃ environment connection ack,
      client = ⟨environment, .returned connection ack⟩ ∧ ack.success = true := by
    obtain ⟨environment, point⟩ := client
    cases point with
    | returned connection ack => exact ⟨environment, connection, ack, rfl, haccepted⟩
    | _ => cases haccepted
  have hpoint : alice.point = .client 2 9 := by
    cases hpoint : alice.point with
    | client actorId c =>
        rw [hpoint] at hid hconnected
        cases hid
        cases hconnected
        rfl
    | _ => rw [hpoint] at hconnected; cases hconnected
  exact ⟨s, trace, alice, bob, environment, connection, ack, m, hrun, hfits, halice, hbob, hpoint, hidBob,
    hthreads ▸ List.mem_cons_self, hclient, hack⟩

theorem program_is_its_actor_alice : ∃ s trace alice bob m, ∃ connection : Connection, ∃ ack,
    Run experimentStep {} (registrationEvents ++ connectionEvents) s trace ∧
    s.launches.find 0 = some alice ∧ s.launches.find 1 = some bob ∧ bob.point.actorId = some 3 ∧
    m ∈ s.agreement.server.simulationThreads ∧
    (∀ l' launch', s.launches.find l' = some launch' → launch'.point.actorId = some 2 → l' = 0) ∧
    alice.options.Entered 2 s.agreement.server.actorConnections ∧ alice.options.Entered 2 m ∧
    connection.actorId = 2 ∧ s.agreement.server.Accepted 2 connection.socket ack := by
  obtain ⟨s, trace, alice, bob, environment, connection, ack, m, hrun, hfits, halice, hbob, hpoint, hidBob,
    hm, hclient, hack⟩ := experiment_run
  obtain ⟨hdistinct, hentered, hstarted, hconnected⟩ :=
    program_is_its_actor hrun hfits halice (congrArg LaunchPoint.actorId hpoint)
  obtain ⟨hactorId, haccepted⟩ := hconnected 9 environment connection ack hpoint hclient
  exact ⟨s, trace, alice, bob, m, connection, ack, hrun, halice, hbob, hidBob, hm, hdistinct, hentered,
    hstarted m hm, hactorId, haccepted hack⟩

end RemoteSimgrid
