import RemoteSimgrid.MessageFraming
import RemoteSimgrid.ServeCommand

/-! The main loop of `serve`, system call by system call: the selector, the two passes over the client
sockets with the incremental reader of commands, the message popped at the end of an iteration and
the closing of the sockets. What the system calls return and what the queue holds are labels; so is the
iteration order of the unordered map of sockets, which is fixed during a pass. -/

namespace RemoteSimgrid

open Pb

/-- What has been read of a command: the bytes written into `content_size`, then those of
`content_buffer`. -/
structure BarelyConnectedSocketInformation where
  header : Bytes := []
  content : Bytes := []
  deriving DecidableEq, Repr

namespace BarelyConnectedSocketInformation

def bytesRead (info : BarelyConnectedSocketInformation) : Nat :=
  info.header.length + info.content.length

def contentSize (endianness : Endianness) (info : BarelyConnectedSocketInformation) : Nat :=
  endianness.value info.header

end BarelyConnectedSocketInformation

/-- What a client sends: the byte order of its machine and the serialization of its commands. -/
structure CommandFormat where
  endianness : Endianness
  parseFromArray : Bytes → Option Command

/-- What one `::recv` returns. -/
inductive RecvOutcome where
  | data (bytes : Bytes)
  | closed
  | failed (errno : String)
  deriving DecidableEq, Repr

/-- Where the command thread is: in front of `select`, of `accept`, of a `recv` (on the header or the
content of a command, or on a dropped socket), of the removal of a connected socket from the selector,
of the test of the queue or of `close_open_sockets`; or it has left `serve`, past the closing of the
sockets or by another exception. The lists are the rest of a pass over sockets. -/
inductive LoopPoint where
  | select
  | accept
  | header (socket : Socket) (rest : List Socket)
  | content (socket : Socket) (rest : List Socket)
  | unregister (socket : Socket) (rest : List Socket)
  | dropped (socket : Socket) (rest : List Socket)
  | message
  | closing (abortive : Bool) (code : Nat)
  | left (result : Except Error Nat)
  | raised (error : Error)

/-- The command thread with its `TcpSocket` objects, the selector and the descriptors of the process
that are open. `actors` are the sockets that the SimGrid thread has, `unread` the descriptors that the
last `select` reported readable and that no `recv` has been issued on since. -/
structure Loop where
  serve : Serve := {}
  point : LoopPoint := .select
  infos : Socket → BarelyConnectedSocketInformation := fun _ => {}
  objects : Socket → TcpSocket := fun _ => {}
  actorSockets : List Socket := []
  signalFd : Int
  listenerFd : Int
  registered : Finset Int
  readable : Finset Int := ∅
  unread : Finset Int := ∅
  openFds : Finset Int
  clientDropped : Bool := false
  actors : Finset Socket := ∅

inductive LoopOutput where
  | handled (socket : Socket) (command : Command)
  | wrote (output : ServeOutput)
  | shutdown (socket : Socket) (abortive : Bool)
  | deleted (socket : Socket)
  deriving DecidableEq

/-- One step: of the command thread, or the end of a connection that an actor of the SimGrid thread
reads, which closes its socket. `unanswered` is a `recv` that completes a command whose `CommandAck`
cannot be written; after any other `recv` it is written. -/
inductive LoopEvent where
  | select (readable : Finset Int) (order : List Socket)
  | accept (socket : Socket) (fd : Int)
  | recv (outcome : RecvOutcome)
  | unanswered (bytes : Bytes) (errno : String)
  | unregister
  | message (msg : Option InterthreadMessage)
  | close (order : List Socket) (failing : Finset Socket)
  | actorCloses (socket : Socket)

namespace Loop

/-- The state before the first iteration. -/
def start (signalFd listenerFd : Nat) : Loop :=
  { signalFd := signalFd
    listenerFd := listenerFd
    registered := {(signalFd : Int), (listenerFd : Int)}
    openFds := {(signalFd : Int), (listenerFd : Int)} }

section

variable (s : Loop)

def fd (socket : Socket) : Int := (s.objects socket).fd

def raise (e : Error) : Loop := { s with point := .raised e }

/-! ### The passes -/

/-- The traversal of the dropped sockets. -/
def droppedPass : List Socket → Loop
  | [] => { s with point := .message }
  | socket :: rest =>
      if s.fd socket ∈ s.readable then { s with point := .dropped socket rest }
      else droppedPass rest

/-- After the traversal of the barely connected sockets. -/
def afterBarelyConnected : Loop :=
  if s.clientDropped then { s with point := .message } else s.droppedPass s.serve.droppedSockets

/-- The `recv` that `handle_barely_connected_socket_read` makes first. -/
def enterRead (socket : Socket) (rest : List Socket) : Loop :=
  if (s.infos socket).header.length < 4 then { s with point := .header socket rest }
  else { s with point := .content socket rest }

/-- The traversal of the barely connected sockets. -/
def barelyConnectedPass : List Socket → Loop
  | [] => s.afterBarelyConnected
  | socket :: rest =>
      if s.fd socket ∈ s.readable then s.enterRead socket rest else barelyConnectedPass rest

/-! ### Commands -/

/-- A command that has been read completely is handled, and its socket dropped or left to its actor. -/
def handle (command : Command) (socket : Socket) (rest : List Socket) : Loop × List LoopOutput :=
  match s.serve.handleCommand command socket with
  | .error e => (s.raise e, [.handled socket command])
  | .ok (serve, out, dropClient) =>
      let out := .handled socket command :: out.map .wrote
      let serve := serve.afterCommand socket dropClient
      if dropClient then
        (({ s with serve := serve, clientDropped := true } : Loop).barelyConnectedPass rest, out)
      else
        ({ s with
            serve := serve
            actors := insert socket s.actors
            point := .unregister socket rest }, out)

/-- A command is handled, but the `send` of its acknowledgment fails: what `handle_command` has changed
and pushed stays, and the error leaves `serve` with the socket still barely connected. -/
def handleUnanswered (command : Command) (socket : Socket) (errno : String) :
    Option (Loop × List LoopOutput) :=
  match s.serve.handleCommand command socket with
  | .error _ => none
  | .ok (serve, out, _) =>
      some (({ s with serve := serve } : Loop).raise ⟨s!"Could not send: {errno}"⟩,
        .handled socket command :: (out.filter ServeOutput.isPush).map .wrote)

/-- The first part of `handle_barely_connected_socket_read`: more bytes of the header. A read that
leaves the command incomplete does not advance the traversal. -/
def readHeader (format : CommandFormat) (socket : Socket) (rest : List Socket) (bytes : Bytes) :
    Loop × List LoopOutput :=
  let info := { s.infos socket with header := (s.infos socket).header ++ bytes }
  let t := { s with infos := Function.update s.infos socket info }
  if info.header.length < 4 then (t.enterRead socket rest, [])
  else
    let contentSize := info.contentSize format.endianness
    if contentSize < maxContentSize then
      if contentSize = 0 then t.handle .typeNotSet socket rest
      else ({ t with point := .content socket rest }, [])
    else
      (t.raise ⟨s!"Read invalid message content size ({contentSize}). " ++
        s!"Expected it to be in [0,{maxContentSize}]"⟩, [])

/-- The second part: more bytes of the content. -/
def readContent (format : CommandFormat) (socket : Socket) (rest : List Socket) (bytes : Bytes) :
    Loop × List LoopOutput :=
  let info := { s.infos socket with content := (s.infos socket).content ++ bytes }
  let t := { s with infos := Function.update s.infos socket info }
  if info.content.length = info.contentSize format.endianness then
    match format.parseFromArray info.content with
    | some command => t.handle command socket rest
    | none => (t.raise ⟨"Could not deserialize Protobuf Command message"⟩, [])
  else (t.enterRead socket rest, [])

/-- The second part for the last bytes of a command that is not acknowledged. -/
def readUnanswered (format : CommandFormat) (socket : Socket) (bytes : Bytes) (errno : String) :
    Option (Loop × List LoopOutput) :=
  let info := { s.infos socket with content := (s.infos socket).content ++ bytes }
  let t := { s with infos := Function.update s.infos socket info }
  if info.content.length = info.contentSize format.endianness then
    match format.parseFromArray info.content with
    | some command => t.handleUnanswered command socket errno
    | none => none
  else none

/-- The size of the buffer given to a `recv`. -/
def remaining (format : CommandFormat) : Nat :=
  match s.point with
  | .header socket _ => 4 - (s.infos socket).header.length
  | .content socket _ =>
      (s.infos socket).contentSize format.endianness - (s.infos socket).content.length
  | .dropped _ _ => 256
  | _ => 0

/-! ### Closing -/

def closeObject (socket : Socket) : Loop :=
  { s with
    objects := Function.update s.objects socket (s.objects socket).close
    openFds := s.openFds.erase (s.fd socket) }

/-- `delete` on a `TcpSocket *`, whose destructor closes the descriptor. -/
def deleteSocket (socket : Socket) : Loop :=
  { s.closeObject socket with
    serve := { s.serve with
      barelyConnectedSockets := s.serve.barelyConnectedSockets.erase socket
      droppedSockets := s.serve.droppedSockets.erase socket
      sockets := s.serve.sockets.erase socket } }

/-- What is done with a dropped socket on which `recv` raises an error. `fd_before_close` is the
descriptor only if `recv` has closed the socket. -/
def forget (socket : Socket) : Loop :=
  ({ s with registered := s.registered.erase (s.objects socket).fdBeforeClose } :
    Loop).deleteSocket socket

/-- The three loops of `close_open_sockets`, up to the first `::shutdown` that fails. -/
def closeSockets (abortive : Bool) (code : Nat) (failing : Finset Socket) :
    List Socket → Loop → Loop × List LoopOutput
  | [], s => ({ s with point := .left (.ok code) }, [])
  | socket :: rest, s =>
      if socket ∈ failing ∧ s.fd socket ≠ -1 then
        ({ s with point := .left (.error ⟨"Cannot shutdown"⟩) }, [.shutdown socket abortive])
      else
        let (t, out) := closeSockets abortive code failing rest (s.deleteSocket socket)
        (t, .shutdown socket abortive :: .deleted socket :: out)

/-! ### Messages -/

/-- The SimGrid thread pushes `ACTOR_QUIT` for a socket it has and has not closed. -/
def Sends : InterthreadMessage → Prop
  | .actorQuit socket => socket ∈ s.actors ∧ s.fd socket ≠ -1
  | msg => msg.FromSimgrid

instance (msg : InterthreadMessage) : Decidable (s.Sends msg) :=
  match msg with
  | .actorQuit socket => inferInstanceAs (Decidable (socket ∈ s.actors ∧ s.fd socket ≠ -1))
  | .actorCreate actorId _ _ => inferInstanceAs (Decidable (0 < actorId ∧ actorId < 2 ^ 31))
  | .undefined | .startSimulation | .actorCreateAck | .actorConnected _ | .simulationFinished
  | .simulationAborted _ => .isTrue trivial

/-- The condition of the main loop. -/
def nextIteration : Loop :=
  if s.serve.serverState = .simulationFinished ∨ s.serve.serverState = .killed then
    { s with point := .closing false s.serve.returnCode }
  else { s with point := .select }

/-- What the switch does besides the handling of a message. -/
def afterMessage : InterthreadMessage → Loop
  | .actorQuit socket =>
      { s with
        registered := insert (s.fd socket) s.registered
        actors := s.actors.erase socket }
  | _ => s

end

end Loop

/-- The step function. -/
def loopStep (format : CommandFormat) (s : Loop) : LoopEvent → Option (Loop × List LoopOutput)
  | .select readable order =>
      match s.point with
      | .select =>
          if ¬s.registered ⊆ s.openFds then some (s.raise ⟨"Cannot select: Bad file descriptor"⟩, [])
          else if readable ⊆ s.registered ∧ order.Nodup ∧
              order.toFinset = s.serve.barelyConnectedSockets then
            let s := { s with readable := readable, unread := readable, clientDropped := false }
            if readable = ∅ then some ({ s with point := .message }, [])
            else if s.signalFd ∈ readable then some ({ s with point := .closing true 1 }, [])
            else if s.listenerFd ∈ readable then some ({ s with point := .accept }, [])
            else some (s.barelyConnectedPass order, [])
          else none
      | _ => none
  | .accept socket fd =>
      match s.point with
      | .accept =>
          if socket ∉ s.serve.sockets ∧ fd ∉ s.openFds ∧ 0 ≤ fd then
            some ({ s with
              point := .message
              serve := { s.serve with
                barelyConnectedSockets := insert socket s.serve.barelyConnectedSockets
                sockets := insert socket s.serve.sockets }
              infos := Function.update s.infos socket {}
              objects := Function.update s.objects socket (.accepted fd)
              openFds := insert fd s.openFds
              registered := insert fd s.registered }, [])
          else none
      | _ => none
  | .recv outcome =>
      match s.point with
      | .header socket rest =>
          let t := { s with unread := s.unread.erase (s.fd socket) }
          match outcome with
          | .data bytes =>
              if bytes ≠ [] ∧ bytes.length ≤ s.remaining format then
                some (t.readHeader format socket rest bytes)
              else none
          | .closed => some ((t.closeObject socket).raise ⟨"Connection lost"⟩, [])
          | .failed errno => some (t.raise ⟨s!"Could not recv: {errno}"⟩, [])
      | .content socket rest =>
          let t := { s with unread := s.unread.erase (s.fd socket) }
          match outcome with
          | .data bytes =>
              if bytes ≠ [] ∧ bytes.length ≤ s.remaining format then
                some (t.readContent format socket rest bytes)
              else none
          | .closed => some ((t.closeObject socket).raise ⟨"Connection lost"⟩, [])
          | .failed errno => some (t.raise ⟨s!"Could not recv: {errno}"⟩, [])
      | .dropped socket rest =>
          let t := { s with unread := s.unread.erase (s.fd socket) }
          match outcome with
          | .data bytes =>
              if bytes ≠ [] ∧ bytes.length ≤ s.remaining format then some (t.droppedPass rest, [])
              else none
          | .closed =>
              some (((t.closeObject socket).forget socket).droppedPass rest, [.deleted socket])
          | .failed _ => some ((t.forget socket).droppedPass rest, [.deleted socket])
      | _ => none
  | .unanswered bytes errno =>
      match s.point with
      | .content socket _ =>
          let t := { s with unread := s.unread.erase (s.fd socket) }
          if bytes ≠ [] ∧ bytes.length ≤ s.remaining format then
            t.readUnanswered format socket bytes errno
          else none
      | _ => none
  | .unregister =>
      match s.point with
      | .unregister socket rest =>
          some (({ s with registered := s.registered.erase (s.fd socket) } : Loop).barelyConnectedPass
            rest, [])
      | _ => none
  | .message none =>
      match s.point with
      | .message => some (s.nextIteration, [])
      | _ => none
  | .message (some msg) =>
      match s.point with
      | .message =>
          if s.serve.simulationThreads ≠ [] ∧ s.Sends msg then
            match s.serve.handleInterthreadMessage msg with
            | .error e => some (s.raise e, [])
            | .ok (serve, out) =>
                some ((({ s with serve := serve } : Loop).afterMessage msg).nextIteration, out.map .wrote)
          else none
      | _ => none
  | .close order failing =>
      match s.point with
      | .closing abortive code =>
          if order.Nodup ∧ order.toFinset = s.serve.barelyConnectedSockets then
            some (Loop.closeSockets abortive code failing
              (order ++ s.serve.droppedSockets ++ s.actorSockets) s)
          else none
      | _ => none
  | .actorCloses socket =>
      if socket ∈ s.actors ∧ s.fd socket ≠ -1 ∧ s.serve.simulationThreads ≠ [] then
        some (s.closeObject socket, [])
      else none

end RemoteSimgrid
