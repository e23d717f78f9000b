import Mathlib.Logic.Function.Basic
import RemoteSimgrid.ClientEnvironment
import RemoteSimgrid.LibraryRaising

/-! The `rsg` commands that talk to a server: `add-actor`, which registers an actor and turns into its
program, `kill`, `start` and `status`. A command is a computation over its process, which prints, changes
its environment variables and sends commands to the server. The C library, the operating system and the
server are what the calls return. -/

namespace RemoteSimgrid

open Pb Raising

/-- The environment variables of a process. -/
abbrev Variables := String → Option String

structure RsgProcess where
  environ : Variables := fun _ => none
  sent : List Command := []
  printed : String := ""

namespace RsgProcess

variable (p : RsgProcess)

def set (name : String) (value : Option String) : RsgProcess :=
  { p with environ := Function.update p.environ name value }

def send (command : Command) : RsgProcess := { p with sent := p.sent ++ [command] }

def print (text : String) : RsgProcess := { p with printed := p.printed ++ text }

end RsgProcess

abbrev RsgAction := Action Error RsgProcess

/-- What comes of connecting to the server, writing a command and reading its acknowledgment. -/
inductive Conversation where
  | notSent (error : Error)
  | unanswered (error : Error)
  | acked (ack : CommandAck)
  deriving DecidableEq

/-- What the calls of a command return. A call of the C library that fails does so with the text of
`strerror`; `strtod` returns a value when it reads the whole text and its value is in range. The socket of
`add_actor` is closed before its destructor, which closes it again when that has failed. The other sockets
are closed by their destructors only, which do not fail. -/
structure RsgCalls where
  conversation : Command → Conversation
  close : Option String
  closeAgain : Option String
  fork : Except String Nat
  setenv : String → Option String
  unsetenv : String → Option String
  execvp : Option String
  strtod : String → Option Double

/-- How a command ends: its process exits, goes on as another program, or is ended by `std::terminate`,
since a destructor has thrown. -/
inductive RsgEnding where
  | exits (returnCode : Int)
  | executes (file : String) (argv : List String)
  | terminates
  deriving DecidableEq

/-- The arguments of `add_actor`. The port is an `int`. -/
structure AddActorOptions where
  serverHostname : String
  serverPort : Int
  serverPort_inInt : InInt serverPort
  actorName : String
  vhostName : String
  thinkTime : String
  autoconnect : Bool
  fork : Bool
  commandToRun : String
  commandArgs : List String

def printf (text : String) : RsgAction Unit := modify fun p => p.print text

section

variable (calls : RsgCalls)

/-- The part that all commands have: connect, write the command, read the acknowledgment. -/
def converse (command : Command) : RsgAction CommandAck :=
  match calls.conversation command with
  | .notSent e => throw e
  | .unanswered e => do
      modify fun p => p.send command
      throw e
  | .acked ack => do
      modify fun p => p.send command
      pure ack

def setenv (name value : String) : RsgAction Unit :=
  match calls.setenv name with
  | none => modify fun p => p.set name (some (cStr value))
  | some reason => throw (rsgError s!"Cannot setenv {name} to '{cStr value}': {reason}")

def unsetenv (name : String) : RsgAction Unit :=
  match calls.unsetenv name with
  | none => modify fun p => p.set name none
  | some reason => throw (rsgError s!"Cannot unsetenv {name}: {reason}")

/-- `snprintf` of an `int` into a buffer of 16 bytes. -/
def intString (what : String) (value : Int) : RsgAction String :=
  if (toString value).length < 16 then pure (toString value)
  else throw (rsgError s!"Cannot convert {what}={value} to a 16-length string")

/-- A command that prints what the server has answered, and returns whether it was accepted. -/
def order (name : String) (command : Command) (answered : CommandAck → RsgAction Unit) : RsgAction Int := do
  let ack ← converse calls command
  if ack.success then do
    answered ack
    pure 0
  else do
    printf s!"{name} refused from server\n"
    pure 1

/-- An error that ends a command is printed. -/
def reporting (command : RsgAction Int) : RsgAction Int :=
  tryCatch command fun err => do
    printf (err.what ++ "\n")
    pure 1

def kill (reason : String) : RsgAction Int :=
  reporting (order calls "kill" (.kill reason) fun _ => pure ())

def start : RsgAction Int := reporting (order calls "start" (.start true) fun _ => pure ())

/-- The connection of `status`. The attempts are those that fail before the first one that does not, each
with the milliseconds that have passed. -/
def connectWithin (timeout : Int) : List (Error × Nat) → RsgAction Unit
  | [] => pure ()
  | (e, elapsed) :: attempts =>
      if (elapsed : Int) < timeout then connectWithin timeout attempts else throw e

def status (retryTimeoutMs : Int) (attempts : List (Error × Nat)) : RsgAction Int :=
  reporting do
    connectWithin retryTimeoutMs attempts
    order calls "status" (.status true) fun ack =>
      printf ("\x7b\"nb_connected_actors\":" ++ toString (ack.status.getD {}).nbConnectedActors ++ "\x7d\n")

namespace AddActorOptions

variable (options : AddActorOptions)

def checkThinkTime : RsgAction Unit :=
  if options.thinkTime = "AS_MEASURED_BY_CLIENT" then pure ()
  else
    match calls.strtod (cStr options.thinkTime) with
    | none => throw (rsgError s!"think-time ('{cStr options.thinkTime}') is not a valid double")
    | some thinkTime =>
        if thinkTime.nonneg then pure ()
        else throw (rsgError s!"think-time ({thinkTime.formatG}) should not be negative")

def setAutoconnect : RsgAction Unit :=
  if options.autoconnect then setenv calls "RSG_AUTOCONNECT" "1" else unsetenv calls "RSG_AUTOCONNECT"

def argv : List String := (options.commandToRun :: options.commandArgs).map cStr

/-- What is printed about a call of `execvp` that has returned. -/
def notExecuted (reason : String) : String :=
  s!"Could not mute into the target process: {reason}\n" ++ "execvp arguments were:\n" ++
    s!"- file: {cStr options.commandToRun}\n" ++ "- argv: [" ++
    ", ".intercalate ((options.argv ++ ["(null)"]).map fun arg => s!"'{arg}'") ++ "]\n"

/-- The part of `add_actor` whose errors kill the server. -/
def execute (actorId : Int) : RsgAction RsgEnding := do
  options.checkThinkTime calls
  setenv calls "RSG_THINK_TIME" options.thinkTime
  options.setAutoconnect calls
  let actorIdString ← intString "actor_id" actorId
  setenv calls "RSG_INITIAL_ACTOR_ID" actorIdString
  match calls.execvp with
  | none => pure (.executes (cStr options.commandToRun) options.argv)
  | some reason => do
      printf (options.notExecuted reason)
      throw (rsgError s!"Could not execvp into '{cStr options.commandToRun}'")

/-- `kill_reason`, of 128 bytes. -/
def killReason (actorId : Int) (e : Error) : String :=
  String.ofList ((s!"add-actor (actor_id={actorId}) failed: " ++ e.what).toList.take 127)

/-- The child process, or the only one. -/
def child (actorId : Int) : RsgAction RsgEnding := do
  setenv calls "RSG_SERVER_HOSTNAME" options.serverHostname
  let portString ← intString "port" options.serverPort
  setenv calls "RSG_SERVER_PORT" portString
  tryCatch (options.execute calls actorId) fun e => do
    printf "Killing the server, as executing the process failed.\n"
    let _ ← kill calls (killReason actorId e)
    pure (.exits 1)

/-- What the server is asked for. -/
def registration : Command := .addActor { actorName := options.actorName, hostName := options.vhostName }

/-- The part of `add_actor` that comes after its conversation with the server. -/
def answered (ack : CommandAck) : RsgAction RsgEnding :=
  let actorId := (ack.actor.getD {}).id
  if ack.success = false then do
    printf "add-actor refused from server\n"
    pure (.exits 1)
  else if options.fork = false then options.child calls actorId
  else
    match calls.fork with
    | .error reason => throw (rsgError s!"Cannot create a new process: {reason}")
    | .ok pid => if pid = 0 then options.child calls actorId else pure (.exits 0)

def addActor : RsgAction RsgEnding :=
  tryCatch
    (do
      let ack ← converse calls options.registration
      match calls.close, calls.closeAgain with
      | none, _ => options.answered calls ack
      | some reason, none => throw (rsgError s!"Cannot close: {reason}\n")
      -- the destructor throws while the first error is on its way to its handler
      | some _, some _ => pure .terminates)
    fun err => do
      printf (err.what ++ "\n")
      pure (.exits 1)

end AddActorOptions

end

end RemoteSimgrid
