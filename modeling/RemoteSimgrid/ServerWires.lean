import RemoteSimgrid.MessageFraming
import RemoteSimgrid.ServerSockets

/-! The bytes that the server writes. The command thread and the SimGrid thread are each in a call of
`send_all` as long as the system has not taken all bytes of their message; what the one writes gets on
the stream between any two pieces of the other. -/

namespace RemoteSimgrid

open Machine Pb

inductive ServerMessage where
  | commandAck (ack : CommandAck)
  | decisionAck (ack : DecisionAck)
  deriving DecidableEq

/-- The byte order of the server and its messages as protobuf has them. -/
structure WireFormat where
  endianness : Endianness
  packet : ServerMessage → Packet

/-- A byte of a stream, with the message it belongs to. -/
structure WrittenByte where
  message : ServerMessage
  byte : UInt8
  deriving DecidableEq

/-- The frame of a message. -/
def WireFormat.written (format : WireFormat) (message : ServerMessage) : List WrittenByte :=
  ((format.packet message).frame format.endianness).map fun byte => ⟨message, byte⟩

/-- Where a thread is in `write_message`: not in it, in `send_all` with the bytes that remain, or out of
it with an error. -/
inductive Writer where
  | idle
  | writing (socket : Socket) (rest : List WrittenByte)
  | failed (socket : Socket)
  deriving DecidableEq

namespace Writer

/-- The socket on which a message is not complete. -/
def socket : Writer → Option Socket
  | idle => none
  | writing socket _ | failed socket => some socket

/-- A system call of `send_all`: the socket, the bytes that get on its stream and what follows. -/
def send (result : SendResult) : Writer → Option (Socket × List WrittenByte × Writer)
  | writing socket rest =>
      match result with
      | .failed _ => some (socket, [], .failed socket)
      | .accepted size =>
          let sent := piece size rest.length
          some (socket, rest.take sent,
            if rest.drop sent = [] then .idle else .writing socket (rest.drop sent))
  | _ => none

end Writer

/-- The server with the writes of its threads. `wire` is what is on the stream of a connection since it
was accepted, `answers` the acknowledgment of its command. -/
structure WiredServer (K : S4u) where
  server : Server K := {}
  commandWriter : Writer := .idle
  simgridWriter : Writer := .idle
  wire : Socket → List WrittenByte := fun _ => []
  answers : Socket → Option CommandAck := fun _ => none

inductive WiredEvent (K : S4u) where
  | server (event : ServerEvent K)
  | commandSend (result : SendResult)
  | simgridSend (result : SendResult)

/-- The acknowledgment of a command, with its socket. -/
def commandAnswer (out : List ServerOutput) : Option (Socket × CommandAck) :=
  out.findSome? fun
    | .serve (.writeCommandAck socket ack) => some (socket, ack)
    | _ => none

/-- The acknowledgment of a decision, with its socket. -/
def decisionAnswer (out : List ServerOutput) : Option (Socket × DecisionAck) :=
  out.findSome? fun
    | .simulation _ (.writeAck _ socket ack) => some (socket, ack)
    | _ => none

namespace WiredServer

variable {K : S4u} (format : WireFormat) (s : WiredServer K)

/-- A thread that is in `write_message` does nothing else. An error ends the command thread, and the
loop of an actor as an error of `read_message` does. -/
def idle : ServerEvent K → Bool
  | .serve _ => s.commandWriter = .idle
  | .simulation (.readError _) =>
      match s.simgridWriter with
      | .writing _ _ => false
      | _ => true
  | _ => s.simgridWriter = .idle

/-- The threads begin to write what a step of the server has them write. -/
def advance (event : ServerEvent K) (server : Server K) (out : List ServerOutput) : WiredServer K :=
  match event with
  | .serve (.accept socket) =>
      { s with
        server := server
        wire := Function.update s.wire socket []
        answers := Function.update s.answers socket none }
  | .serve _ =>
      match commandAnswer out with
      | none => { s with server := server }
      | some (socket, ack) =>
          { s with
            server := server
            commandWriter := .writing socket (format.written (.commandAck ack))
            answers := Function.update s.answers socket (some ack) }
  | _ =>
      { s with
        server := server
        simgridWriter := match decisionAnswer out with
          | none => .idle
          | some (socket, ack) => .writing socket (format.written (.decisionAck ack)) }

end WiredServer

def wiredStep (K : S4u) (platformFile : String) (format : WireFormat) (s : WiredServer K)
    (event : WiredEvent K) : Option (WiredServer K × List ServerOutput) :=
  match event with
  | .server event =>
      if s.idle event then
        match serverStep K platformFile s.server event with
        | none => none
        | some (server, out) => some (s.advance format event server out, out)
      else none
  | .commandSend result =>
      match s.commandWriter.send result with
      | none => none
      | some (socket, bytes, writer) =>
          some ({ s with
            commandWriter := writer
            wire := Function.update s.wire socket (s.wire socket ++ bytes) }, [])
  | .simgridSend result =>
      match s.simgridWriter.send result with
      | none => none
      | some (socket, bytes, writer) =>
          some ({ s with
            simgridWriter := writer
            wire := Function.update s.wire socket (s.wire socket ++ bytes) }, [])

/-- The first message on each stream is the acknowledgment of the command that came on it, a `CONNECT`
for an actor: none of its bytes has another one before it. -/
def CommandAckFirst {K : S4u} (format : WireFormat) (s : WiredServer K) : Prop :=
  ∀ socket, match s.answers socket with
    | none => s.wire socket = []
    | some ack => s.wire socket <+: format.written (.commandAck ack) ∨
        format.written (.commandAck ack) <+: s.wire socket

/-- The socket of the running actor. -/
def Simulation.runningSocket {K : S4u} (s : Simulation K) : Option Socket :=
  match s.current with
  | none => none
  | some p => (s.actors.find p).map (·.socket)

/-- No decision is read on a socket on which the acknowledgment of its `CONNECT` is not complete. -/
def ReadsAnswered {K : S4u} (s : WiredServer K) : WiredEvent K → Prop
  | .server (.simulation (.decision _)) =>
      s.commandWriter.socket ≠ s.server.simulation.runningSocket
  | _ => True

instance {K : S4u} (s : WiredServer K) (event : WiredEvent K) : Decidable (ReadsAnswered s event) := by
  unfold ReadsAnswered
  split <;> infer_instance

end RemoteSimgrid
