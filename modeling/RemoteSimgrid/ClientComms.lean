import RemoteSimgrid.ClientHandlesRuns

/-! The messages of the clients: the functions of `librsg` on comms and mailboxes, each of which sends
one decision and returns when it is acknowledged, and the client threads that call them. -/

namespace RemoteSimgrid

open Machine Pb

/-- A `rsg::Comm`. Its destination is a `void *` variable of the user. -/
structure CommObject where
  remoteAddress : Address
  destinationBuffer : Option Ptr := none
  deriving DecidableEq

/-- The `void *` variables of a process: null, or pointing to a buffer with its bytes. -/
abbrev UserMemory := Ptr → Option Bytes

/-- What a function of the library returns. -/
inductive CommResult where
  | done
  | bool (value : Bool)
  | index (finished : Int)
  | comm (comm : CommObject)
  | data (data : Option Bytes)
  deriving DecidableEq

/-- The result of a function, with the variables it has written, or the exception it throws. -/
abbrev Finished := Except Error (CommResult × UserMemory)

/-- The variables of the processes after a function has finished in one of them. -/
def Finished.writes (finished : Finished) (process : Nat) (memory : Nat → UserMemory) :
    Nat → UserMemory :=
  match finished with
  | .ok (_, written) => Function.update memory process written
  | .error _ => memory

/-- The destinations of the objects of the processes after a function has returned in one of them. -/
def CommResult.adds (result : CommResult) (process : Nat) (destinations : Nat → Address → Option Ptr) :
    Nat → Address → Option Ptr :=
  match result with
  | .comm object =>
      Function.update destinations process
        (Function.update (destinations process) object.remoteAddress object.destinationBuffer)
  | _ => destinations

/-- A buffer is created for the user. -/
def UserMemory.write (memory : UserMemory) (destination : Ptr) (data : Bytes) : UserMemory :=
  Function.update memory destination (some data)

namespace CommObject

def finishWaitFor (comm : CommObject) (timeout : ℚ) (ack : DecisionAck) (memory : UserMemory) :
    Finished :=
  let address := comm.remoteAddress
  rsgEnforce (ack.success = true) s!"wait_for({timeout}) failed on Comm(addr={address})" <|
  rsgEnforce (ack.commWaitFor.timeoutReached = false)
    s!"wait_for({timeout}) on Comm(addr={address}): Timeout reached" <|
  match comm.destinationBuffer with
  | none => .ok (.done, memory)
  | some destination =>
      let data := ack.commWaitFor.data
      rsgEnforce (0 < data.length)
        "Received CommWaitFor ack does not contain data while _destination_buffer is not null" <|
      .ok (.done, memory.write destination data)

def finishCancel (comm : CommObject) (ack : DecisionAck) (memory : UserMemory) : Finished :=
  let address := comm.remoteAddress
  rsgEnforce (ack.success = true) s!"Could not cancel Comm(addr={address})" <|
  .ok (.done, memory)

def finishTest (comm : CommObject) (ack : DecisionAck) (memory : UserMemory) : Finished :=
  let address := comm.remoteAddress
  rsgEnforce (ack.success = true) s!"Could not test Comm(addr={address})" <|
  let data := ack.commTest.data
  if 0 < data.length then
    match comm.destinationBuffer with
    | none =>
        .error ⟨"Received CommTest ack contains data the while _destination_buffer is null"⟩
    | some destination => .ok (.bool ack.commTest.isTerminated, memory.write destination data)
  else .ok (.bool ack.commTest.isTerminated, memory)

/-- `comms.at` throws when there is no comm at the index. -/
def finishWaitAnyFor (comms : List CommObject) (ack : DecisionAck) (memory : UserMemory) : Finished :=
  rsgEnforce (ack.success = true) "Comm::wait_any_for failed" <|
  let finishedIndex := ack.commWaitAnyFor.finishedCommIndex
  if 0 ≤ finishedIndex then
    match comms[finishedIndex.toNat]? with
    | none => .error ⟨"vector::_M_range_check"⟩
    | some comm =>
        match comm.destinationBuffer with
        | none => .ok (.index finishedIndex, memory)
        | some destination =>
            let data := ack.commWaitAnyFor.data
            rsgEnforce (0 < data.length)
              "Received CommWaitAnyFor ack does not contain data while _destination_buffer is not null" <|
            .ok (.index finishedIndex, memory.write destination data)
  else .ok (.index finishedIndex, memory)

end CommObject

namespace Pb.Mailbox

def finishPut (mailbox : Mailbox) (ack : DecisionAck) (memory : UserMemory) : Finished :=
  let name := mailbox.name
  rsgEnforce (ack.success = true) s!"Could not put on mailbox='{name}'" <|
  .ok (.done, memory)

def finishPutAsync (mailbox : Mailbox) (ack : DecisionAck) (memory : UserMemory) : Finished :=
  let name := mailbox.name
  rsgEnforce (ack.success = true) s!"Could not put_async on mailbox='{name}'" <|
  .ok (.comm { remoteAddress := ack.mailboxPutAsync.address }, memory)

def finishGet (mailbox : Mailbox) (ack : DecisionAck) (memory : UserMemory) : Finished :=
  let name := mailbox.name
  rsgEnforce (ack.success = true) s!"Could not get on mailbox='{name}'" <|
  let data := ack.mailboxGet
  .ok (.data (if data.length = 0 then none else some data), memory)

def finishGetAsync (mailbox : Mailbox) (data : Option Ptr) (ack : DecisionAck) (memory : UserMemory) :
    Finished :=
  let name := mailbox.name
  rsgEnforce (ack.success = true) s!"Could not get on mailbox='{name}'" <|
  .ok (.comm { remoteAddress := ack.mailboxGetAsync.address, destinationBuffer := data }, memory)

end Pb.Mailbox

/-- The decisions that the functions below send. -/
def Pb.DecisionType.ofMessages : DecisionType → Bool
  | .commRefcountDecrease _ | .commWaitFor _ | .commCancel _ | .commTest _ | .commWaitAnyFor _
  | .mailboxPut _ | .mailboxPutAsync _ | .mailboxGet _ | .mailboxGetAsync _ => true
  | _ => false

/-- A call of a function of the library. Of those that do not concern messages only the decision they
send matters. -/
inductive CommCall where
  | destructor (comm : CommObject)
  | waitFor (comm : CommObject) (timeout : ℚ)
  | cancel (comm : CommObject)
  | test (comm : CommObject)
  | waitAnyFor (comms : List CommObject) (timeout : ℚ)
  | put (message : MailboxPut)
  | putAsync (message : MailboxPut)
  | get (mailbox : Mailbox)
  | getAsync (mailbox : Mailbox) (data : Option Ptr)
  | other (type : DecisionType) (hother : type.ofMessages = false)
  deriving DecidableEq

namespace CommCall

def wait (comm : CommObject) : CommCall := .waitFor comm (-1)

def waitAny (comms : List CommObject) : CommCall := .waitAnyFor comms (-1)

/-- The objects that are given to a function. -/
def comms : CommCall → List CommObject
  | .destructor comm | .waitFor comm _ | .cancel comm | .test comm => [comm]
  | .waitAnyFor comms _ => comms
  | _ => []

/-- The decision that a function sends. -/
def type : CommCall → DecisionType
  | .destructor comm => .commRefcountDecrease { address := comm.remoteAddress }
  | .waitFor comm timeout =>
      .commWaitFor { comm := { address := comm.remoteAddress }, timeout := timeout }
  | .cancel comm => .commCancel { address := comm.remoteAddress }
  | .test comm => .commTest { address := comm.remoteAddress }
  | .waitAnyFor comms timeout =>
      .commWaitAnyFor
        { comms := comms.map fun comm => { address := comm.remoteAddress }, timeout := timeout }
  | .put message => .mailboxPut message
  | .putAsync message => .mailboxPutAsync message
  | .get mailbox => .mailboxGet mailbox
  | .getAsync mailbox _ => .mailboxGetAsync mailbox
  | .other type _ => type

/-- What a function does when its decision is acknowledged. -/
def finish (call : CommCall) (ack : DecisionAck) (memory : UserMemory) : Finished :=
  match call with
  | .destructor _ => .ok (.done, memory)
  | .waitFor comm timeout => comm.finishWaitFor timeout ack memory
  | .cancel comm => comm.finishCancel ack memory
  | .test comm => comm.finishTest ack memory
  | .waitAnyFor comms _ => CommObject.finishWaitAnyFor comms ack memory
  | .put message => message.mailbox.finishPut ack memory
  | .putAsync message => message.mailbox.finishPutAsync ack memory
  | .get mailbox => mailbox.finishGet ack memory
  | .getAsync mailbox data => mailbox.finishGetAsync data ack memory
  | .other _ _ => .ok (.done, memory)

end CommCall

/-- A call that waits for its acknowledgment. -/
structure PendingCall where
  call : CommCall
  thinkTime : ℚ
  deriving DecidableEq

def PendingCall.decision (pending : PendingCall) : Decision :=
  { thinkTime := pending.thinkTime, type := pending.call.type }

/-- The server with its clients, the function that each client thread is in, and in each process the
destinations of the `rsg::Comm` objects, by remote address, and the variables of the user. -/
structure CommSystem (K : S4u) where
  handles : HandleSystem K
  calls : Pid → Option PendingCall := fun _ => none
  destinations : Nat → Address → Option Ptr := fun _ _ => none
  memory : Nat → UserMemory := fun _ _ => none

/-- The client of the running actor calls a function, or the server and the clients make a step that
reads no decision. -/
inductive CommEvent (K : S4u) where
  | call (call : CommCall) (thinkTime : ℚ)
  | handles (event : HandleEvent K)

/-- The step of the server and the clients that an event comes with. -/
def CommEvent.handle {K : S4u} : CommEvent K → HandleEvent K
  | .call function thinkTime =>
      .simulation (.decision { thinkTime := thinkTime, type := function.type })
  | .handles event => event

inductive CommOutput where
  | server (output : SimOutput)
  | returned (actor : Pid) (call : CommCall) (result : Except Error CommResult)

namespace CommSystem

variable {K : S4u}

def launch (K : S4u) (connections : List ActorConnection) : CommSystem K :=
  { handles := HandleSystem.launch K connections }

/-- The process of the client of an actor. -/
def process (s : CommSystem K) (p : Pid) : Nat :=
  match s.handles.clients.actors.find p with
  | some client => client.process
  | none => 0

/-- The decision that the client of an actor waits for. -/
def asked (s : CommSystem K) (p : Pid) : Option Decision := (s.calls p).map PendingCall.decision

/-- A client receives an acknowledgment. -/
def receive (s : CommSystem K) (p : Pid) (ack : DecisionAck) : CommSystem K × List CommOutput :=
  match s.calls p with
  | none => (s, [])
  | some pending =>
      let finished := pending.call.finish ack (s.memory (s.process p))
      let s := { s with
        calls := Function.update s.calls p none
        memory := finished.writes (s.process p) s.memory }
      match finished with
      | .error e => (s, [.returned p pending.call (.error e)])
      | .ok (result, _) =>
          ({ s with destinations := result.adds (s.process p) s.destinations },
            [.returned p pending.call (.ok result)])

def receiveAll (s : CommSystem K) : List (Pid × DecisionAck) → CommSystem K × List CommOutput
  | [] => (s, [])
  | (p, ack) :: acks =>
      let (s, out) := s.receive p ack
      let (s, rest) := s.receiveAll acks
      (s, out ++ rest)

/-- A step of the server and the clients, after which the clients receive what was written to them. -/
def handlesStep (s : CommSystem K) (event : HandleEvent K) : Option (CommSystem K × List CommOutput) :=
  match handleStep K s.handles event with
  | none => none
  | some (handles, out) =>
      let (t, returned) := ({ s with handles := handles }).receiveAll (acks out)
      some (t, out.map .server ++ returned)

/-- The memory of a new process is a copy of that of its parent. -/
def fork (s : CommSystem K) (parent child : Nat) : CommSystem K :=
  { s with
    destinations := Function.update s.destinations child (s.destinations parent)
    memory := Function.update s.memory child (s.memory parent) }

end CommSystem

/-- The step function. A thread calls a function with objects of its process. -/
def commStep (K : S4u) (s : CommSystem K) (event : CommEvent K) :
    Option (CommSystem K × List CommOutput) :=
  match event with
  | .call call thinkTime =>
      match s.handles.server.current with
      | none => none
      | some p =>
          if ∀ comm ∈ call.comms,
              s.destinations (s.process p) comm.remoteAddress = comm.destinationBuffer then
            ({ s with calls := Function.update s.calls p (some ⟨call, thinkTime⟩) }).handlesStep
              (.simulation (.decision { thinkTime := thinkTime, type := call.type }))
          else none
  | .handles (.simulation (.decision _)) => none
  | .handles .fork =>
      match s.handles.server.current with
      | none => none
      | some p =>
          (s.fork (s.process p) s.handles.clients.next).handlesStep .fork
  | .handles event => s.handlesStep event

/-- What the server has done, of what has been done. -/
def serverOutputs (trace : List CommOutput) : List SimOutput :=
  trace.filterMap fun
    | .server output => some output
    | _ => none

end RemoteSimgrid
