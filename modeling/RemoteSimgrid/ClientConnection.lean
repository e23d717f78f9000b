import Mathlib.Data.List.Infix
import RemoteSimgrid.Interthread
import RemoteSimgrid.LibraryDouble
import RemoteSimgrid.Messages

/-! The connection of a client thread to the server: what `librsg` reads from the environment, the two
constructors of `rsg::Connection`, and the decisions that a connection sends. -/

namespace RemoteSimgrid

open Pb

/-- An environment variable: unset, set to a text that cannot be converted, or converted. -/
inductive EnvVariable (α : Type) where
  | unset
  | invalid (text : String)
  | valid (value : α)

/-- The valid values of `RSG_THINK_TIME`. -/
inductive ThinkTimeMode where
  | asMeasuredByClient
  | constant (thinkTime : ℚ)

/-- What `librsg` reads from the environment of a process. -/
structure Environment where
  serverHostname : Option String := none
  serverPort : EnvVariable Int := .unset
  initialActorId : EnvVariable Int := .unset
  thinkTime : EnvVariable ThinkTimeMode := .unset
  autoconnect : Bool := false

namespace Environment

variable (env : Environment)

def retrieveInitialActorIdFromEnv : Except Error Int :=
  match env.initialActorId with
  | .unset => .error ⟨"Invalid RSG connection initialization: RSG_INITIAL_ACTOR_ID is not set."⟩
  | .invalid text =>
      .error ⟨"Invalid RSG connection initialization: " ++
        s!"RSG_INITIAL_ACTOR_ID ('{text}') is not a valid actor id"⟩
  | .valid actorId => .ok actorId

/-- The port is converted to 16 bits. -/
def retrieveRsgConnectionParamsFromEnv : Except Error (String × Nat × Int) :=
  match env.serverHostname with
  | none => .error ⟨"Invalid RSG connection initialization: RSG_SERVER_HOSTNAME is not set."⟩
  | some serverHostname =>
      match env.serverPort with
      | .unset => .error ⟨"Invalid RSG connection initialization: RSG_SERVER_PORT is not set."⟩
      | .invalid text =>
          .error ⟨"Invalid RSG connection initialization: " ++
            s!"RSG_SERVER_PORT ('{text}') is not a valid port"⟩
      | .valid port =>
          match env.retrieveInitialActorIdFromEnv with
          | .error e => .error e
          | .ok actorId => .ok (serverHostname, (port % 2 ^ 16).toNat, actorId)

/-- Whether the think time is measured, and the think time when it is not. -/
def retrieveRsgThinkTimeFromEnv : Except Error (Bool × ℚ) :=
  match env.thinkTime with
  | .unset => .ok (false, 0)
  | .valid .asMeasuredByClient => .ok (true, 0)
  | .valid (.constant thinkTime) =>
      rsgEnforce (0 ≤ thinkTime) s!"RSG_THINK_TIME ({formatG thinkTime}) should not be negative" <|
      .ok (false, thinkTime)
  | .invalid text => .error ⟨s!"RSG_THINK_TIME ('{text}') is not a valid double"⟩

end Environment

/-- A connection object. The socket is named as in the server. -/
structure Connection where
  actorId : Int
  socket : Socket
  measureThinkTime : Bool := false
  decisionThinkTime : ℚ := 0

namespace Connection

/-- The constructor that connects to the server, after it has read the acknowledgment of its `CONNECT`.
A refusal is printed and not raised. -/
def ofServer (env : Environment) (actorId : Int) (socket : Socket) (ack : CommandAck) :
    List String × Except Error Connection :=
  (if ack.success then [] else ["connect failed\n"],
    match env.retrieveRsgThinkTimeFromEnv with
    | .error e => .error e
    | .ok (measureThinkTime, decisionThinkTime) =>
        .ok { actorId := actorId, socket := socket, measureThinkTime := measureThinkTime
              decisionThinkTime := decisionThinkTime })

/-- The constructor that uses an already existing socket. -/
def ofSocket (fd : Socket) (actorId : Int) : Connection := { actorId := actorId, socket := fd }

/-- The decision that `send_decision` writes, when `elapsed` is the time since the last answer. -/
def sendDecision (connection : Connection) (elapsed : ℚ) (decision : Decision) : Decision :=
  { decision with
    thinkTime := if connection.measureThinkTime then elapsed else connection.decisionThinkTime }

/-- The decision that the destructor writes. -/
def quit : Decision := { type := .quit true }

end Connection

/-- How `rsg::connect` begins: it writes a `CONNECT`, or throws, after having killed the server when
the actor id is the reason. -/
inductive ConnectStart where
  | sends (actorId : Int)
  | throws (killsServer : Bool) (error : Error)

def connect (env : Environment) (connection : Option Connection) (actorId : Int) : ConnectStart :=
  if connection.isSome then .throws false ⟨"Invalid rsg::connect() call: Already connected!"⟩
  else
    match env.retrieveRsgConnectionParamsFromEnv with
    | .error e => .throws (decide ("RSG_INITIAL_ACTOR_ID".toList <:+: e.what.toList)) e
    | .ok (_, _, envActorId) => .sends (if actorId = -1 then envActorId else actorId)

def reuseConnectedSocket (env : Environment) (connection : Option Connection) (fd : Socket) :
    Except Error Connection :=
  if connection.isSome then
    .error ⟨"Invalid rsg::reuse_connected_socket() call: Already connected!"⟩
  else
    match env.retrieveInitialActorIdFromEnv with
    | .error e => .error e
    | .ok actorId => .ok (.ofSocket fd actorId)

/-- The ways for a thread to connect: when the library is loaded, by a call, as the thread of an actor
that was created, or as the child process of a fork. -/
inductive Opening where
  | autoconnect
  | connect (actorId : Int)
  | actorWrapper (actorId : Int)
  | fork (actorId : Int)
  deriving DecidableEq

/-- How a connection is opened. There is none when the library is loaded without `RSG_AUTOCONNECT`. -/
def Opening.start (env : Environment) (connection : Option Connection) : Opening → Option ConnectStart
  | .autoconnect => if env.autoconnect then some (RemoteSimgrid.connect env connection (-1)) else none
  | .connect actorId => some (RemoteSimgrid.connect env connection actorId)
  | .actorWrapper actorId =>
      if actorId = -1 then some (.throws false ⟨"actor_id should not be -1"⟩)
      else some (RemoteSimgrid.connect env none actorId)
  | .fork actorId => some (RemoteSimgrid.connect env none actorId)

end RemoteSimgrid
