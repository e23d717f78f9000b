import RemoteSimgrid.LibraryDouble
import RemoteSimgrid.SimulationStore

/-! `handle_decision`. A handler runs until its next S4U call, where other actors may take over; what
it keeps on its stack across the call is a frame. `handleDecision` is the part before the first
call, `resume` the part after one. -/

namespace RemoteSimgrid

open Pb

/-- The queue on which the SimGrid thread writes to the command thread. -/
def toCommand : Queue := 0

/-- What the SimGrid thread does that others can see, with the reads, copies and deletions of
payloads that a handler makes. -/
inductive SimOutput where
  | dispatched (actor : Pid) (decision : Decision)
  | served (actor : Pid) (call : S4uCall) (ret : S4uReturn)
  | writeAck (actor : Pid) (socket : Socket) (ack : DecisionAck)
  | push (queue : Queue) (msg : InterthreadMessage)
  | newString (payload : Ptr) (data : Bytes)
  | transferred (buffer payload : Ptr)
  | found (node : Nat) (payload : Option Ptr)
  | readBuffer (buffer : Ptr)
  | copied (payload : Ptr)
  | deletedString (payload : Ptr)
  | deletedBuffer (buffer : Ptr)
  deriving DecidableEq

/-- The locals that a suspended actor needs when its S4U call returns. -/
inductive Frame where
  | firstYield (connectAck : Queue)
  | thinkTime (decision : Decision)
  | acknowledge
  | catchHostFailure
  | actorCreate (canConnectAck connectAck : Queue)
  | commWaitFor (comm : Iterator)
  | commTest (comm : Iterator)
  | commWaitAnyFor (comms : List Iterator) (pointers : List Address)
  | mailboxPutAsync
  | mailboxGet
  | mailboxGetAsync (receptionBuffer : Ptr)
  | mutexCreate
  | mutexLock (mutex : Iterator)
  | mutexTryLock
  | conditionVariableCreate
  | conditionVariableWait (conditionVariable mutex : Iterator) (lock : Ptr)
  | conditionVariableWaitUntil (conditionVariable mutex : Iterator) (lock : Ptr)
  | conditionVariableWaitFor (conditionVariable mutex : Iterator) (lock : Ptr)
  deriving DecidableEq

/-- Where an actor stops: at an S4U call, at one of its two busy waits, at the end of the handling of
a decision, at an `rsg::Error`, at an exception that is not one, or nowhere that is defined. -/
inductive Outcome where
  | call (call : S4uCall) (frame : Frame)
  | waitConnectAck (connectAck : Queue)
  | waitCanConnectAck (canConnectAck : Queue) (child : Pid)
  | finished (ack : DecisionAck) (sendAck quitReceived : Bool)
  | raised (error : Error)
  | escaped
  | undefinedBehaviour
  deriving DecidableEq

/-- What an actor does between two stops. -/
structure Segment where
  memory : Memory
  out : List SimOutput := []
  outcome : Outcome

namespace Segment

/-- The decision is acknowledged by the request-reply loop. -/
def answer (m : Memory) (ack : DecisionAck) : Segment :=
  { memory := m, outcome := .finished ack true false }

def success (m : Memory) : Segment := answer m { success := true }

def failure (m : Memory) : Segment := answer m { success := false }

def call (m : Memory) (call : S4uCall) (frame : Frame) : Segment :=
  { memory := m, outcome := .call call frame }

def raise (m : Memory) (what : String) : Segment := { memory := m, outcome := .raised ⟨what⟩ }

def undefinedBehaviour (m : Memory) : Segment := { memory := m, outcome := .undefinedBehaviour }

end Segment

/-! ### Refcounts -/

def commRefcountDecrease (d : Decision) (m : Memory) : Segment :=
  match m.store.comms.find d.commRefcountDecrease.address with
  | none => .failure m
  | some comm =>
      if comm.remoteRefCount = 1 then
        .success { m.intrusivePtrRelease comm.comm with
          store := { m.store with comms := m.store.comms.erase d.commRefcountDecrease.address } }
      else
        .success { m with
          store := { m.store with
            comms := m.store.comms.modify d.commRefcountDecrease.address fun comm =>
              { comm with remoteRefCount := decrement comm.remoteRefCount } } }

def mutexRefcountDecrease (d : Decision) (m : Memory) : Segment :=
  match m.store.mutexes.find d.mutexRefcountDecrease.address with
  | none => .failure m
  | some mutex =>
      if mutex.remoteRefCount = 1 then
        .success { m.intrusivePtrRelease mutex.mutex with
          locks := m.locks.erase mutex.lock
          store := { m.store with
            mutexes := m.store.mutexes.erase d.mutexRefcountDecrease.address } }
      else
        .success { m with
          store := { m.store with
            mutexes := m.store.mutexes.modify d.mutexRefcountDecrease.address fun mutex =>
              { mutex with remoteRefCount := decrement mutex.remoteRefCount } } }

def conditionVariableRefcountDecrease (d : Decision) (m : Memory) : Segment :=
  match m.store.conditionVariables.find d.conditionVariableRefcountDecrease.address with
  | none => .failure m
  | some cv =>
      if cv.remoteRefCount = 1 then
        .success { m.intrusivePtrRelease cv.conditionVariable with
          store := { m.store with
            conditionVariables :=
              m.store.conditionVariables.erase d.conditionVariableRefcountDecrease.address } }
      else
        .success { m with
          store := { m.store with
            conditionVariables :=
              m.store.conditionVariables.modify d.conditionVariableRefcountDecrease.address fun cv =>
                { cv with remoteRefCount := decrement cv.remoteRefCount } } }

/-! ### Calls on a stored object -/

/-- A call on the comm that is stored under an address. -/
def onComm (address : Address) (m : Memory) (call : StoredComm → S4uCall)
    (frame : Iterator → Frame) : Segment :=
  match m.store.comms.find address with
  | none => .failure m
  | some comm => .call m (call comm) (frame ⟨address, comm.node⟩)

def onMutex (address : Address) (m : Memory) (call : StoredMutex → S4uCall)
    (frame : Iterator → Frame) : Segment :=
  match m.store.mutexes.find address with
  | none => .failure m
  | some mutex => .call m (call mutex) (frame ⟨address, mutex.node⟩)

def onConditionVariable (address : Address) (m : Memory)
    (call : StoredConditionVariable → S4uCall) : Segment :=
  match m.store.conditionVariables.find address with
  | none => .failure m
  | some cv => .call m (call cv) .acknowledge

/-- The three waits on a condition variable. -/
def onLock (conditionVariable mutex : Address) (m : Memory) (call : Address → Ptr → S4uCall)
    (frame : Iterator → Iterator → Ptr → Frame) : Segment :=
  match m.store.conditionVariables.find conditionVariable, m.store.mutexes.find mutex with
  | some cv, some mutex' =>
      .call m (call cv.conditionVariable mutex'.lock)
        (frame ⟨conditionVariable, cv.node⟩ ⟨mutex, mutex'.node⟩ mutex'.lock)
  | _, _ => .failure m

/-- The comms of a `wait_any_for`: for each its entry and the pointer stored there. -/
def lookupComms (m : Memory) : List Comm → Except Error (List (Iterator × Address))
  | [] => .ok []
  | comm :: comms =>
      match m.store.comms.find comm.address with
      | none =>
          let address := comm.address
          .error ⟨s!"cannot wait_any_for on unknown Comm pointer {address}"⟩
      | some stored =>
          match lookupComms m comms with
          | .error e => .error e
          | .ok rest => .ok ((⟨comm.address, stored.node⟩, stored.comm) :: rest)

def commWaitAnyFor (d : Decision) (m : Memory) : Segment :=
  match lookupComms m d.commWaitAnyFor.comms with
  | .error e => { memory := m, outcome := .raised e }
  | .ok comms =>
      .call m (.commWaitAnyFor (comms.map Prod.snd) d.commWaitAnyFor.timeout)
        (.commWaitAnyFor (comms.map Prod.fst) (comms.map Prod.snd))

/-! ### The switch -/

section

variable (K : S4u) (k : K.State) (self : Pid)

def actorCreate (d : Decision) (m : Memory) : Segment :=
  if K.hostByName k d.actorCreate.host.name then
    let canConnectAck := m.next
    let connectAck := m.next + 1
    .call { m with next := m.next + 2 }
      (.actorCreate (cStr d.actorCreate.name) d.actorCreate.host.name connectAck)
      (.actorCreate canConnectAck connectAck)
  else { memory := m, outcome := .escaped }

def switchDecision (d : Decision) (m : Memory) : Segment :=
  match d.typeCase with
  | .kQuit => { memory := m, outcome := .finished { success := true } false true }
  | .kActorCreate => actorCreate K k d m
  | .kActorGetHost =>
      match K.actorByPid k d.actorGetHost.id with
      | some (_, host) => .answer m { success := true, data := .actorGetHost { name := host } }
      | none => .failure m
  | .kActorGetName =>
      match K.actorByPid k d.actorGetName.id with
      | some (name, _) => .answer m { success := true, data := .actorGetName name }
      | none => .failure m
  | .kActorJoin =>
      match K.actorByPid k d.actorJoin.actor.id with
      | some _ => .call m (.actorJoin d.actorJoin.actor.id d.actorJoin.timeout) .acknowledge
      | none => .failure m
  | .kThisActorExecute => .call m (.execute d.thisActorExecute) .catchHostFailure
  | .kThisActorSleepFor => .call m (.sleepFor d.thisActorSleepFor) .catchHostFailure
  | .kThisActorSleepUntil => .call m (.sleepUntil d.thisActorSleepUntil) .catchHostFailure
  | .kThisActorYield => .call m .yield .acknowledge
  | .kCommRefcountDecrease => commRefcountDecrease d m
  | .kCommWaitFor =>
      onComm d.commWaitFor.comm.address m (fun comm => .commWaitFor comm.comm d.commWaitFor.timeout)
        .commWaitFor
  -- a cancel starts the comm
  | .kCommCancel =>
      onComm d.commCancel.address m (fun comm => .commStart comm.comm) fun _ => .acknowledge
  | .kCommTest => onComm d.commTest.address m (fun comm => .commTest comm.comm) .commTest
  | .kCommWaitAnyFor => commWaitAnyFor d m
  | .kEngineGetClock => .answer m { success := true, data := .engineGetClock (K.getClock k) }
  | .kHostByNameOrNull => .answer m { success := K.hostByName k d.hostByNameOrNull }
  | .kHostCurrent =>
      .answer m { success := true, data := .hostCurrent { name := K.currentHost k self } }
  | .kMailboxEmpty => .answer m { success := K.mailboxEmpty k d.mailboxEmpty.name }
  | .kMailboxListen => .answer m { success := K.mailboxListen k d.mailboxListen.name }
  | .kMailboxReady => .answer m { success := K.mailboxReady k d.mailboxReady.name }
  | .kMailboxPut =>
      { memory := m.newString d.mailboxPut.data
        out := [.newString m.next d.mailboxPut.data]
        outcome := .call (.mailboxPut d.mailboxPut.mailbox.name m.next d.mailboxPut.simulatedSize)
          .acknowledge }
  | .kMailboxPutAsync =>
      { memory := m.newString d.mailboxPutAsync.data
        out := [.newString m.next d.mailboxPutAsync.data]
        outcome := .call
          (.mailboxPutAsync d.mailboxPutAsync.mailbox.name m.next d.mailboxPutAsync.simulatedSize)
          .mailboxPutAsync }
  | .kMailboxGet => .call m (.mailboxGet d.mailboxGet.name) .mailboxGet
  | .kMailboxGetAsync =>
      .call m.newBuffer (.mailboxGetAsync d.mailboxGetAsync.name m.next) (.mailboxGetAsync m.next)
  | .kMutexCreate => .call m .mutexCreate .mutexCreate
  | .kMutexRefcountDecrease => mutexRefcountDecrease d m
  | .kMutexLock => onMutex d.mutexLock.address m (fun mutex => .mutexLock mutex.mutex) .mutexLock
  | .kMutexUnlock =>
      onMutex d.mutexUnlock.address m (fun mutex => .mutexUnlock mutex.mutex) fun _ => .acknowledge
  -- the member read here is that of the decision to unlock
  | .kMutexTryLock =>
      onMutex d.mutexUnlock.address m (fun mutex => .mutexTryLock mutex.mutex) fun _ => .mutexTryLock
  | .kConditionVariableCreate => .call m .conditionVariableCreate .conditionVariableCreate
  | .kConditionVariableRefcountDecrease => conditionVariableRefcountDecrease d m
  | .kConditionVariableWait =>
      onLock d.conditionVariableWait.conditionVariable.address d.conditionVariableWait.mutex.address
        m .conditionVariableWait .conditionVariableWait
  | .kConditionVariableWaitUntil =>
      onLock d.conditionVariableWaitUntil.conditionVariable.address
        d.conditionVariableWaitUntil.mutex.address m
        (fun cv lock => .conditionVariableWaitUntil cv lock d.conditionVariableWaitUntil.timeoutTime)
        .conditionVariableWaitUntil
  | .kConditionVariableWaitFor =>
      onLock d.conditionVariableWaitFor.conditionVariable.address
        d.conditionVariableWaitFor.mutex.address m
        (fun cv lock => .conditionVariableWaitFor cv lock d.conditionVariableWaitFor.duration)
        .conditionVariableWaitFor
  | .kConditionVariableNotifyOne =>
      onConditionVariable d.conditionVariableNotifyOne.address m
        fun cv => .conditionVariableNotifyOne cv.conditionVariable
  | .kConditionVariableNotifyAll =>
      onConditionVariable d.conditionVariableNotifyAll.address m
        fun cv => .conditionVariableNotifyAll cv.conditionVariable
  | .typeNotSet => .raise m "Received a decision with unset decision type."

/-- The switch on the type of the decision, after the thinking time. -/
def dispatch (d : Decision) (m : Memory) : Segment :=
  let segment := switchDecision K k self d m
  { segment with out := .dispatched self d :: segment.out }

/-- `handle_decision`, until its first S4U call. -/
def handleDecision (d : Decision) (m : Memory) : Segment :=
  let thinkTime := d.thinkTime
  if thinkTime < 0 then .raise m s!"Invalid actor thinking time received ({formatG thinkTime})"
  else if 0 < thinkTime then .call m (.sleepFor thinkTime) (.thinkTime d)
  else dispatch K k self d m

end

/-! ### After a call -/

/-- The data of the entry of a completed comm, if it has a reception buffer: the payload is copied
and deleted, and the buffer deleted and forgotten. There is no result when the entry, the buffer or
the payload is not there any more, or when nothing was written into the buffer. -/
def takeReceived (address : Address) (m : Memory) : Option (Memory × List SimOutput × Bytes) :=
  match m.store.comms.find address with
  | none => none
  | some comm =>
      match comm.receptionBuffer with
      | none => some (m, [.found comm.node none], [])
      | some buffer =>
          match m.buffers.find buffer with
          | some (some payload) =>
              match m.strings.find payload with
              | some data =>
                  some (m.takePayload address buffer payload,
                    [.found comm.node (some payload), .readBuffer buffer, .copied payload,
                      .deletedString payload, .deletedBuffer buffer], data)
              | none => none
          | _ => none

/-- An access through an iterator that was obtained before a call. -/
def takeThrough (comm : Iterator) (m : Memory) : Option (Memory × List SimOutput × Bytes) :=
  match m.store.comms.find comm.address with
  | some stored => if stored.node = comm.node then takeReceived comm.address m else none
  | none => none

def resumeCommWaitFor (comm : Iterator) (m : Memory) : S4uReturn → Option Segment
  | .done =>
      match takeThrough comm m with
      | some (m', out, data) =>
          some { memory := m', out := out
                 outcome := .finished { success := true, data := .commWaitFor { data := data } }
                   true false }
      | none => some (.undefinedBehaviour m)
  | .timeoutException =>
      some (.answer m { success := true, data := .commWaitFor { timeoutReached := true } })
  | .cancelException => some (.failure m)
  | ret => if ret.isException then some { memory := m, outcome := .escaped } else none

def resumeCommTest (comm : Iterator) (m : Memory) : S4uReturn → Option Segment
  | .bool true =>
      match takeThrough comm m with
      | some (m', out, data) =>
          some { memory := m', out := out
                 outcome := .finished
                   { success := true, data := .commTest { isTerminated := true, data := data } }
                   true false }
      | none => some (.undefinedBehaviour m)
  | .bool false => some (.answer m { success := true, data := .commTest { isTerminated := false } })
  | ret => if ret.isException then some { memory := m, outcome := .escaped } else none

/-- The comm of the returned index is looked up again, by its address. -/
def finishCommWaitAnyFor (comms : List Iterator) (index : Int) (m : Memory) : Segment :=
  if 0 ≤ index then
    match comms[index.toNat]? with
    | none => .undefinedBehaviour m
    | some comm =>
        if (m.store.comms.find comm.address).isSome then
          match takeReceived comm.address m with
          | some (m', out, data) =>
              { memory := m', out := out
                outcome := .finished
                  { success := true
                    data := .commWaitAnyFor { finishedCommIndex := index, data := data } }
                  true false }
          | none => .undefinedBehaviour m
        else .raise m "Comm memory management inconsistency"
  else
    .answer m { success := true, data := .commWaitAnyFor { finishedCommIndex := index } }

def resumeCommWaitAnyFor (comms : List Iterator) (m : Memory) : S4uReturn → Option Segment
  | .index index => some (finishCommWaitAnyFor comms index m)
  | ret => if ret.isException then some { memory := m, outcome := .escaped } else none

def resumeMailboxPutAsync (m : Memory) : S4uReturn → Option Segment
  | .address address =>
      if m.store.comms.find address = none then
        some (.answer ((m.intrusivePtrAddRef address).insertComm { comm := address, node := m.next })
          { success := true, data := .mailboxPutAsync { address := address } })
      else some (.raise m "s4u::Mailbox::put_async returned an already existing Comm")
  | ret => if ret.isException then some { memory := m, outcome := .escaped } else none

def resumeMailboxGetAsync (receptionBuffer : Ptr) (m : Memory) : S4uReturn → Option Segment
  | .address address =>
      if m.store.comms.find address = none then
        some (.answer
          ((m.intrusivePtrAddRef address).insertComm
            { comm := address, receptionBuffer := some receptionBuffer, node := m.next })
          { success := true, data := .mailboxGetAsync { address := address } })
      else some (.raise m "s4u::Mailbox::get_async returned an already existing Comm")
  | ret => if ret.isException then some { memory := m, outcome := .escaped } else none

def resumeMutexCreate (m : Memory) : S4uReturn → Option Segment
  | .address address =>
      some (.answer
        ((m.intrusivePtrAddRef address).insertMutex
          { mutex := address, lock := m.next + 1, node := m.next })
        { success := true, data := .mutexCreate { address := address } })
  | ret => if ret.isException then some { memory := m, outcome := .escaped } else none

def resumeConditionVariableCreate (m : Memory) : S4uReturn → Option Segment
  | .address address =>
      some (.answer
        ((m.intrusivePtrAddRef address).insertConditionVariable
          { conditionVariable := address, node := m.next })
        { success := true, data := .conditionVariableCreate { address := address } })
  | ret => if ret.isException then some { memory := m, outcome := .escaped } else none

/-- The end of the handler of a call that only has to be acknowledged. -/
def resumeAcknowledge (m : Memory) : S4uReturn → Option Segment
  | .done => some (.success m)
  | ret => if ret.isException then some { memory := m, outcome := .escaped } else none

section

variable (K : S4u) (k : K.State) (self : Pid) (socket : Socket)

/-- The payload of a blocking get is written to the client before it is deleted. -/
def resumeMailboxGet (m : Memory) : S4uReturn → Option Segment
  | .payload payload =>
      match m.strings.find payload with
      | some data =>
          let ack : DecisionAck := { success := true, data := .mailboxGet data }
          some { memory := { m with strings := m.strings.erase payload }
                 out := [.copied payload, .writeAck self socket ack, .deletedString payload]
                 outcome := .finished ack false false }
      | none => some (.undefinedBehaviour m)
  | ret => if ret.isException then some { memory := m, outcome := .escaped } else none

/-- What an actor does when the S4U call it made returns. There is no result when the call cannot
return this. -/
def resume (frame : Frame) (ret : S4uReturn) (m : Memory) : Option Segment :=
  match frame with
  | .firstYield connectAck =>
      if ret = .done then some { memory := m, outcome := .waitConnectAck connectAck }
      else if ret.isException then some { memory := m, outcome := .escaped }
      else none
  | .thinkTime d =>
      if ret = .done then some (dispatch K k self d m)
      else if ret.isException then some { memory := m, outcome := .escaped }
      else none
  | .acknowledge => resumeAcknowledge m ret
  | .catchHostFailure =>
      if ret = .hostFailureException then some (.failure m) else resumeAcknowledge m ret
  | .actorCreate canConnectAck connectAck =>
      match ret with
      | .pid child =>
          some { memory := m
                 out := [.push toCommand (.actorCreate child canConnectAck connectAck)]
                 outcome := .waitCanConnectAck canConnectAck child }
      | ret => if ret.isException then some { memory := m, outcome := .escaped } else none
  | .commWaitFor comm => resumeCommWaitFor comm m ret
  | .commTest comm => resumeCommTest comm m ret
  | .commWaitAnyFor comms _ => resumeCommWaitAnyFor comms m ret
  | .mailboxPutAsync => resumeMailboxPutAsync m ret
  | .mailboxGet => resumeMailboxGet self socket m ret
  | .mailboxGetAsync receptionBuffer => resumeMailboxGetAsync receptionBuffer m ret
  | .mutexCreate => resumeMutexCreate m ret
  | .mutexLock _ => resumeAcknowledge m ret
  | .mutexTryLock =>
      match ret with
      | .bool locked => some (.answer m { success := true, data := .mutexTryLock locked })
      | ret => if ret.isException then some { memory := m, outcome := .escaped } else none
  | .conditionVariableCreate => resumeConditionVariableCreate m ret
  | .conditionVariableWait _ _ _ => resumeAcknowledge m ret
  | .conditionVariableWaitUntil _ _ _ =>
      match ret with
      | .cvStatus status =>
          some (.answer m { success := true, data := .conditionVariableWaitUntil status })
      | ret => if ret.isException then some { memory := m, outcome := .escaped } else none
  | .conditionVariableWaitFor _ _ _ =>
      match ret with
      | .cvStatus status =>
          some (.answer m { success := true, data := .conditionVariableWaitFor status })
      | ret => if ret.isException then some { memory := m, outcome := .escaped } else none

/-- The actor that created another one has popped a message from `can_connect_ack`. -/
def resumeCanConnectAck (child : Pid) (msg : InterthreadMessage) (m : Memory) : Segment :=
  match msg with
  | .actorCreateAck =>
      let ack : DecisionAck := { success := true, data := .actorCreate { id := child } }
      { memory := m, out := [.writeAck self socket ack], outcome := .finished ack false false }
  | msg =>
      let type := interthreadMessageTypeToString msg
      .raise m (s!"Interthread messaging error: Bad message type (expected ACTOR_CREATE_ACK, got " ++
        s!"{type})")

end

end RemoteSimgrid
