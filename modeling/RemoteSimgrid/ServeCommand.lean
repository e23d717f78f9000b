import Mathlib.Data.Finset.Basic
import RemoteSimgrid.Interthread
import RemoteSimgrid.LibraryMachine
import RemoteSimgrid.LibraryUnorderedMap
import RemoteSimgrid.Messages

/-! The command thread of the server: the commands of `serve`, the inter-thread messages it pops and
the start of the simulation. A step of the machine is one command read completely on a barely
connected socket, one accepted client, one popped message or one deleted socket; the order of these
steps is free, so every pass of the main loop over its sockets is one of its runs. -/

namespace RemoteSimgrid

open Pb

inductive ServerState where
  | acceptingNewActors
  | waitingForAllActorsConnection
  | simulationRunning
  | simulationFinished
  | killed
  deriving DecidableEq, Repr

def serverStateToString : ServerState → String
  | .acceptingNewActors => "ACCEPTING_NEW_ACTORS"
  | .waitingForAllActorsConnection => "WAITING_FOR_ALL_ACTORS_CONNECTION"
  | .simulationRunning => "SIMULATION_RUNNING"
  | .simulationFinished => "SIMULATION_FINISHED"
  | .killed => "KILLED"

structure ActorConnection where
  actorName : String := "unset"
  hostName : String := "unset"
  actorId : Int := -1
  socket : Option Socket := none
  connectAck : Option Queue := none
  deriving DecidableEq, Repr

/-- The state of the command thread: the variables of `serve`, the global socket collections, the
`TcpSocket` objects that are allocated and the simulation threads created so far, each with the copy
of the connection map it was given. -/
structure Serve where
  serverState : ServerState := .acceptingNewActors
  returnCode : Nat := 0
  actorConnections : UnorderedMap Int ActorConnection := ∅
  nbConnectedActors : Nat := 0
  barelyConnectedSockets : Finset Socket := ∅
  droppedSockets : List Socket := []
  sockets : Finset Socket := ∅
  simulationThreads : List (UnorderedMap Int ActorConnection) := []

/-- What the command thread writes: acknowledgments on sockets, messages on queues. -/
inductive ServeOutput where
  | writeCommandAck (socket : Socket) (ack : CommandAck)
  | push (queue : Queue) (msg : InterthreadMessage)
  deriving DecidableEq, Repr

def ServeOutput.isPush : ServeOutput → Bool
  | .push _ _ => true
  | .writeCommandAck _ _ => false

/-- Conversion of a `size_t` to `int`. -/
def toInt (n : Nat) : Int := (n : Int).bmod (2 ^ 32)

theorem toInt_of_lt {n : Nat} (h : n < 2 ^ 31) : toInt n = n := by
  unfold toInt
  rw [Int.bmod_def]
  omega

def abortMsg : String :=
  "As this is probably a bug in your experiment setup, the simulation aborts now."

namespace Serve

def startSimulationInAnotherThread (s : Serve) : Serve :=
  { s with simulationThreads := s.simulationThreads ++ [s.actorConnections] }

/-- `handle_command`: the new state, what is written and whether the client is dropped. -/
def handleCommand (command : Command) (issuerSocket : Socket) (s : Serve) :
    Except Error (Serve × List ServeOutput × Bool) :=
  let state := serverStateToString s.serverState
  let answer (ack : CommandAck) := ServeOutput.writeCommandAck issuerSocket ack
  match command with
  | .addActor addActor =>
      rsgEnforce (s.serverState = .acceptingNewActors ∨ s.serverState = .killed)
        s!"Received an ADD_ACTOR command while the simulation state is '{state}'. {abortMsg}" <|
      if s.serverState ≠ .killed then
        let connection : ActorConnection :=
          { actorName := cStr addActor.actorName
            hostName := cStr addActor.hostName
            actorId := toInt (s.actorConnections.size + 2) }
        .ok ({ s with
            actorConnections := s.actorConnections.insert connection.actorId connection },
          [answer { success := true, actor := some { id := connection.actorId } }], true)
      else
        .ok (s, [answer {}], true)
  | .start _ =>
      rsgEnforce (s.serverState = .acceptingNewActors)
        s!"Received an ADD_ACTOR command while the simulation state is '{state}'. {abortMsg}" <|
      if s.nbConnectedActors = s.actorConnections.size then
        .ok (startSimulationInAnotherThread { s with serverState := .simulationRunning },
          [answer { success := true }], true)
      else
        .ok ({ s with serverState := .waitingForAllActorsConnection },
          [answer { success := true }], true)
  | .kill _ =>
      .ok ({ s with serverState := .killed }, [answer { success := true }], true)
  | .status _ =>
      .ok (s, [answer { success := true
                        status := some { nbConnectedActors := s.nbConnectedActors } }], true)
  | .connect actor =>
      rsgEnforce (s.serverState = .acceptingNewActors ∨
          s.serverState = .waitingForAllActorsConnection ∨
          s.serverState = .simulationRunning ∨ s.serverState = .killed)
        s!"Received a CONNECT command while the simulation state is '{state}'. {abortMsg}" <|
      if s.serverState ≠ .killed then
        let id := actor.id
        match s.actorConnections.find id with
        | none =>
            .error ⟨s!"Received a CONNECT command from an unknown actor id ({id}). {abortMsg}"⟩
        | some connection =>
            rsgEnforce (connection.socket = none)
              (s!"Received a CONNECT command from actor id {id}, " ++
                s!"but a client is already connected to this actor. {abortMsg}") <|
            let connected : Serve :=
              { s with
                actorConnections := s.actorConnections.modify id
                  fun c => { c with socket := some issuerSocket }
                nbConnectedActors := (s.nbConnectedActors + 1) % 2 ^ 32 }
            if s.serverState = .simulationRunning then
              match connection.connectAck with
              | none => .error ⟨"Invalid dynamic client: No connect_ack message queue"⟩
              | some connectAck =>
                  .ok (connected, [.push connectAck (.actorConnected issuerSocket),
                    answer { success := true }], false)
            else if s.serverState = .waitingForAllActorsConnection ∧
                connected.nbConnectedActors = connected.actorConnections.size then
              .ok (startSimulationInAnotherThread
                { connected with serverState := .simulationRunning },
                [answer { success := true }], false)
            else
              .ok (connected, [answer { success := true }], false)
      else
        .ok (s, [answer {}], true)
  | .typeNotSet => .error ⟨s!"Received a command with unset command type. {abortMsg}"⟩

/-- The handling of a message popped from `to_command`. -/
def handleInterthreadMessage (msg : InterthreadMessage) (s : Serve) :
    Except Error (Serve × List ServeOutput) :=
  match msg with
  | .simulationFinished => .ok ({ s with serverState := .simulationFinished }, [])
  | .simulationAborted _ =>
      .ok ({ s with serverState := .simulationFinished, returnCode := 1 }, [])
  | .actorQuit socketToDrop =>
      .ok ({ s with droppedSockets := s.droppedSockets ++ [socketToDrop] }, [])
  | .actorCreate actorId canConnectAck connectAck =>
      rsgEnforce (s.actorConnections.find actorId = none) s!"actor_id={actorId} already exists" <|
      let connection : ActorConnection :=
        { actorId := actorId, connectAck := some connectAck }
      .ok ({ s with actorConnections := s.actorConnections.insert actorId connection },
        [.push canConnectAck .actorCreateAck])
  | msg =>
      let type := msg.type
      .error ⟨s!"Unhandled interthread message type received ({type})"⟩

/-- A socket whose command has been handled is no longer barely connected. It is dropped, or left to
the simulated actor that reads it from now on. -/
def afterCommand (socket : Socket) (dropClient : Bool) (s : Serve) : Serve :=
  { s with
    barelyConnectedSockets := s.barelyConnectedSockets.erase socket
    droppedSockets := if dropClient then s.droppedSockets ++ [socket] else s.droppedSockets }

end Serve

/-- One step of the command thread. -/
inductive ServeEvent where
  | accept (socket : Socket)
  | command (socket : Socket) (command : Command)
  | interthread (msg : InterthreadMessage)
  | delete (socket : Socket)
  deriving DecidableEq, Repr

/-- What the SimGrid thread can send: its pids are positive and fit the `int` they are stored in. -/
def InterthreadMessage.FromSimgrid : InterthreadMessage → Prop
  | .actorCreate actorId _ _ => 0 < actorId ∧ actorId < 2 ^ 31
  | _ => True

instance (msg : InterthreadMessage) : Decidable msg.FromSimgrid := by
  cases msg <;> simp only [InterthreadMessage.FromSimgrid] <;> infer_instance

/-- The step function. A raised error ends `serve`, and with it the run; so does the end of the
simulation. Messages arrive once a simulation thread exists. -/
def serveStep (s : Serve) (event : ServeEvent) : Option (Serve × List ServeOutput) :=
  if s.serverState = .simulationFinished then none
  else
    match event with
    | .accept socket =>
        if socket ∈ s.sockets then none
        else some ({ s with
          barelyConnectedSockets := insert socket s.barelyConnectedSockets
          sockets := insert socket s.sockets }, [])
    | .command socket command =>
        if socket ∈ s.barelyConnectedSockets then
          match s.handleCommand command socket with
          | .error _ => none
          | .ok (t, out, dropClient) => some (t.afterCommand socket dropClient, out)
        else none
    | .interthread msg =>
        if s.simulationThreads ≠ [] ∧ msg.FromSimgrid then
          match s.handleInterthreadMessage msg with
          | .error _ => none
          | .ok (t, out) => some (t, out)
        else none
    | .delete socket =>
        if socket ∈ s.droppedSockets then
          some ({ s with
            droppedSockets := s.droppedSockets.erase socket
            sockets := s.sockets.erase socket }, [])
        else none

end RemoteSimgrid
