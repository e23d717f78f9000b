import Mathlib.Algebra.Group.Int.Defs
import Mathlib.Algebra.Group.Nat.Defs
import Mathlib.Data.Rat.Defs

/-! The protobuf messages of `rsg.proto`. A `oneof` is an inductive type with one constructor for
each of its members and one for the unset case; reading a member that is not the one set yields the
default value of its type, and each accessor below does so. Doubles are exact rationals. -/

namespace RemoteSimgrid

abbrev Bytes := List UInt8

/-- The address of a server object as a client sees it (`uint64`); no object lives at 0. -/
abbrev Address := Nat

namespace Pb

structure Actor where
  id : Int := 0
  deriving DecidableEq, Repr

structure Host where
  name : String := ""
  deriving DecidableEq, Repr

structure Mailbox where
  name : String := ""
  deriving DecidableEq, Repr

structure Comm where
  address : Address := 0
  deriving DecidableEq, Repr

structure ConditionVariable where
  address : Address := 0
  deriving DecidableEq, Repr

inductive ConditionVariableStatus where
  | noTimeout
  | timeout
  deriving DecidableEq, Repr

structure Mutex where
  address : Address := 0
  deriving DecidableEq, Repr

/-! ### Commands -/

structure AddActor where
  actorName : String := ""
  hostName : String := ""
  deriving DecidableEq, Repr

/-- The first message sent by any client to the server. -/
inductive Command where
  | addActor (addActor : AddActor)
  | start (value : Bool)
  | kill (reason : String)
  | status (value : Bool)
  | connect (actor : Actor)
  | typeNotSet
  deriving DecidableEq, Repr

structure Status where
  nbConnectedActors : Nat := 0
  deriving DecidableEq, Repr

/-- The server's acknowledgment of the initial command of a client. -/
structure CommandAck where
  success : Bool := false
  actor : Option Actor := none
  status : Option Status := none
  deriving DecidableEq, Repr

/-! ### Decisions -/

structure CreateActor where
  name : String := ""
  host : Host := {}
  deriving DecidableEq, Repr

structure ActorJoin where
  actor : Actor := {}
  timeout : ℚ := 0
  deriving DecidableEq, Repr

structure MailboxPut where
  mailbox : Mailbox := {}
  data : Bytes := []
  simulatedSize : Nat := 0
  deriving DecidableEq, Repr

structure CommWaitFor where
  comm : Comm := {}
  timeout : ℚ := 0
  deriving DecidableEq, Repr

structure CommWaitAnyFor where
  comms : List Comm := []
  timeout : ℚ := 0
  deriving DecidableEq, Repr

structure ConditionVariableWait where
  conditionVariable : ConditionVariable := {}
  mutex : Mutex := {}
  deriving DecidableEq, Repr

structure ConditionVariableWaitUntil where
  conditionVariable : ConditionVariable := {}
  mutex : Mutex := {}
  timeoutTime : ℚ := 0
  deriving DecidableEq, Repr

structure ConditionVariableWaitFor where
  conditionVariable : ConditionVariable := {}
  mutex : Mutex := {}
  duration : ℚ := 0
  deriving DecidableEq, Repr

/-- The `type` of a decision. -/
inductive DecisionType where
  | quit (value : Bool)
  | thisActorExecute (flop : ℚ)
  | thisActorSleepFor (duration : ℚ)
  | thisActorSleepUntil (timeout : ℚ)
  | thisActorYield (value : Bool)
  | actorGetName (actor : Actor)
  | actorGetHost (actor : Actor)
  | actorJoin (join : ActorJoin)
  | actorCreate (create : CreateActor)
  | commRefcountDecrease (comm : Comm)
  | commWaitFor (wait : CommWaitFor)
  | commCancel (comm : Comm)
  | commTest (comm : Comm)
  | commWaitAnyFor (wait : CommWaitAnyFor)
  | engineGetClock (value : Bool)
  | hostByNameOrNull (name : String)
  | hostCurrent (value : Bool)
  | mailboxEmpty (mailbox : Mailbox)
  | mailboxListen (mailbox : Mailbox)
  | mailboxReady (mailbox : Mailbox)
  | mailboxPut (put : MailboxPut)
  | mailboxPutAsync (put : MailboxPut)
  | mailboxGet (mailbox : Mailbox)
  | mailboxGetAsync (mailbox : Mailbox)
  | mutexCreate (value : Bool)
  | mutexRefcountDecrease (mutex : Mutex)
  | mutexLock (mutex : Mutex)
  | mutexUnlock (mutex : Mutex)
  | mutexTryLock (mutex : Mutex)
  | conditionVariableCreate (value : Bool)
  | conditionVariableRefcountDecrease (conditionVariable : ConditionVariable)
  | conditionVariableWait (wait : ConditionVariableWait)
  | conditionVariableWaitUntil (wait : ConditionVariableWaitUntil)
  | conditionVariableWaitFor (wait : ConditionVariableWaitFor)
  | conditionVariableNotifyOne (conditionVariable : ConditionVariable)
  | conditionVariableNotifyAll (conditionVariable : ConditionVariable)
  | typeNotSet
  deriving DecidableEq, Repr

/-- The only message sent by clients to the server during the simulation. -/
structure Decision where
  thinkTime : ℚ := 0
  type : DecisionType := .typeNotSet
  deriving DecidableEq, Repr

/-- The case of a decision's `type`, without the member. -/
inductive DecisionCase where
  | kQuit | kThisActorExecute | kThisActorSleepFor | kThisActorSleepUntil | kThisActorYield
  | kActorGetName | kActorGetHost | kActorJoin | kActorCreate
  | kCommRefcountDecrease | kCommWaitFor | kCommCancel | kCommTest | kCommWaitAnyFor
  | kEngineGetClock | kHostByNameOrNull | kHostCurrent
  | kMailboxEmpty | kMailboxListen | kMailboxReady
  | kMailboxPut | kMailboxPutAsync | kMailboxGet | kMailboxGetAsync
  | kMutexCreate | kMutexRefcountDecrease | kMutexLock | kMutexUnlock | kMutexTryLock
  | kConditionVariableCreate | kConditionVariableRefcountDecrease
  | kConditionVariableWait | kConditionVariableWaitUntil | kConditionVariableWaitFor
  | kConditionVariableNotifyOne | kConditionVariableNotifyAll
  | typeNotSet
  deriving DecidableEq, Repr

namespace Decision

def typeCase (d : Decision) : DecisionCase :=
  match d.type with
  | .quit _ => .kQuit
  | .thisActorExecute _ => .kThisActorExecute
  | .thisActorSleepFor _ => .kThisActorSleepFor
  | .thisActorSleepUntil _ => .kThisActorSleepUntil
  | .thisActorYield _ => .kThisActorYield
  | .actorGetName _ => .kActorGetName
  | .actorGetHost _ => .kActorGetHost
  | .actorJoin _ => .kActorJoin
  | .actorCreate _ => .kActorCreate
  | .commRefcountDecrease _ => .kCommRefcountDecrease
  | .commWaitFor _ => .kCommWaitFor
  | .commCancel _ => .kCommCancel
  | .commTest _ => .kCommTest
  | .commWaitAnyFor _ => .kCommWaitAnyFor
  | .engineGetClock _ => .kEngineGetClock
  | .hostByNameOrNull _ => .kHostByNameOrNull
  | .hostCurrent _ => .kHostCurrent
  | .mailboxEmpty _ => .kMailboxEmpty
  | .mailboxListen _ => .kMailboxListen
  | .mailboxReady _ => .kMailboxReady
  | .mailboxPut _ => .kMailboxPut
  | .mailboxPutAsync _ => .kMailboxPutAsync
  | .mailboxGet _ => .kMailboxGet
  | .mailboxGetAsync _ => .kMailboxGetAsync
  | .mutexCreate _ => .kMutexCreate
  | .mutexRefcountDecrease _ => .kMutexRefcountDecrease
  | .mutexLock _ => .kMutexLock
  | .mutexUnlock _ => .kMutexUnlock
  | .mutexTryLock _ => .kMutexTryLock
  | .conditionVariableCreate _ => .kConditionVariableCreate
  | .conditionVariableRefcountDecrease _ => .kConditionVariableRefcountDecrease
  | .conditionVariableWait _ => .kConditionVariableWait
  | .conditionVariableWaitUntil _ => .kConditionVariableWaitUntil
  | .conditionVariableWaitFor _ => .kConditionVariableWaitFor
  | .conditionVariableNotifyOne _ => .kConditionVariableNotifyOne
  | .conditionVariableNotifyAll _ => .kConditionVariableNotifyAll
  | .typeNotSet => .typeNotSet

variable (d : Decision)

def thisActorExecute : ℚ := match d.type with | .thisActorExecute x => x | _ => 0
def thisActorSleepFor : ℚ := match d.type with | .thisActorSleepFor x => x | _ => 0
def thisActorSleepUntil : ℚ := match d.type with | .thisActorSleepUntil x => x | _ => 0
def actorGetName : Actor := match d.type with | .actorGetName x => x | _ => {}
def actorGetHost : Actor := match d.type with | .actorGetHost x => x | _ => {}
def actorJoin : ActorJoin := match d.type with | .actorJoin x => x | _ => {}
def actorCreate : CreateActor := match d.type with | .actorCreate x => x | _ => {}
def commRefcountDecrease : Comm := match d.type with | .commRefcountDecrease x => x | _ => {}
def commWaitFor : CommWaitFor := match d.type with | .commWaitFor x => x | _ => {}
def commCancel : Comm := match d.type with | .commCancel x => x | _ => {}
def commTest : Comm := match d.type with | .commTest x => x | _ => {}
def commWaitAnyFor : CommWaitAnyFor := match d.type with | .commWaitAnyFor x => x | _ => {}
def hostByNameOrNull : String := match d.type with | .hostByNameOrNull x => x | _ => ""
def mailboxEmpty : Mailbox := match d.type with | .mailboxEmpty x => x | _ => {}
def mailboxListen : Mailbox := match d.type with | .mailboxListen x => x | _ => {}
def mailboxReady : Mailbox := match d.type with | .mailboxReady x => x | _ => {}
def mailboxPut : MailboxPut := match d.type with | .mailboxPut x => x | _ => {}
def mailboxPutAsync : MailboxPut := match d.type with | .mailboxPutAsync x => x | _ => {}
def mailboxGet : Mailbox := match d.type with | .mailboxGet x => x | _ => {}
def mailboxGetAsync : Mailbox := match d.type with | .mailboxGetAsync x => x | _ => {}
def mutexRefcountDecrease : Mutex := match d.type with | .mutexRefcountDecrease x => x | _ => {}
def mutexLock : Mutex := match d.type with | .mutexLock x => x | _ => {}
def mutexUnlock : Mutex := match d.type with | .mutexUnlock x => x | _ => {}
def mutexTryLock : Mutex := match d.type with | .mutexTryLock x => x | _ => {}
def conditionVariableRefcountDecrease : ConditionVariable :=
  match d.type with | .conditionVariableRefcountDecrease x => x | _ => {}
def conditionVariableWait : ConditionVariableWait :=
  match d.type with | .conditionVariableWait x => x | _ => {}
def conditionVariableWaitUntil : ConditionVariableWaitUntil :=
  match d.type with | .conditionVariableWaitUntil x => x | _ => {}
def conditionVariableWaitFor : ConditionVariableWaitFor :=
  match d.type with | .conditionVariableWaitFor x => x | _ => {}
def conditionVariableNotifyOne : ConditionVariable :=
  match d.type with | .conditionVariableNotifyOne x => x | _ => {}
def conditionVariableNotifyAll : ConditionVariable :=
  match d.type with | .conditionVariableNotifyAll x => x | _ => {}

end Decision

/-! ### Acknowledgments of decisions -/

structure CommWaitForAck where
  timeoutReached : Bool := false
  data : Bytes := []
  deriving DecidableEq, Repr

structure CommWaitAnyForAck where
  finishedCommIndex : Int := 0
  data : Bytes := []
  deriving DecidableEq, Repr

structure CommTestAck where
  isTerminated : Bool := false
  data : Bytes := []
  deriving DecidableEq, Repr

/-- The `data` of an acknowledgment. -/
inductive AckData where
  | actorGetName (name : String)
  | actorGetHost (host : Host)
  | actorCreate (actor : Actor)
  | commWaitFor (ack : CommWaitForAck)
  | commTest (ack : CommTestAck)
  | commWaitAnyFor (ack : CommWaitAnyForAck)
  | engineGetClock (clock : ℚ)
  | hostCurrent (host : Host)
  | mailboxPutAsync (comm : Comm)
  | mailboxGet (data : Bytes)
  | mailboxGetAsync (comm : Comm)
  | mutexCreate (mutex : Mutex)
  | mutexTryLock (locked : Bool)
  | conditionVariableCreate (conditionVariable : ConditionVariable)
  | conditionVariableWaitFor (status : ConditionVariableStatus)
  | conditionVariableWaitUntil (status : ConditionVariableStatus)
  | dataNotSet
  deriving DecidableEq, Repr

/-- `data_case()`: the member of the `oneof` that is set. -/
inductive DataCase where
  | kActorGetName
  | kActorGetHost
  | kActorCreate
  | kCommWaitFor
  | kCommTest
  | kCommWaitAnyFor
  | kEngineGetClock
  | kHostCurrent
  | kMailboxPutAsync
  | kMailboxGet
  | kMailboxGetAsync
  | kMutexCreate
  | kMutexTryLock
  | kConditionVariableCreate
  | kConditionVariableWaitFor
  | kConditionVariableWaitUntil
  | dataNotSet
  deriving DecidableEq, Repr

def AckData.dataCase : AckData → DataCase
  | .actorGetName _ => .kActorGetName
  | .actorGetHost _ => .kActorGetHost
  | .actorCreate _ => .kActorCreate
  | .commWaitFor _ => .kCommWaitFor
  | .commTest _ => .kCommTest
  | .commWaitAnyFor _ => .kCommWaitAnyFor
  | .engineGetClock _ => .kEngineGetClock
  | .hostCurrent _ => .kHostCurrent
  | .mailboxPutAsync _ => .kMailboxPutAsync
  | .mailboxGet _ => .kMailboxGet
  | .mailboxGetAsync _ => .kMailboxGetAsync
  | .mutexCreate _ => .kMutexCreate
  | .mutexTryLock _ => .kMutexTryLock
  | .conditionVariableCreate _ => .kConditionVariableCreate
  | .conditionVariableWaitFor _ => .kConditionVariableWaitFor
  | .conditionVariableWaitUntil _ => .kConditionVariableWaitUntil
  | .dataNotSet => .dataNotSet

/-- The only message sent by the server to a client during the simulation. -/
structure DecisionAck where
  success : Bool := false
  data : AckData := .dataNotSet
  deriving DecidableEq, Repr

namespace DecisionAck

variable (ack : DecisionAck)

def actorGetName : String := match ack.data with | .actorGetName x => x | _ => ""
def actorGetHost : Host := match ack.data with | .actorGetHost x => x | _ => {}
def actorCreate : Actor := match ack.data with | .actorCreate x => x | _ => {}
def commWaitFor : CommWaitForAck := match ack.data with | .commWaitFor x => x | _ => {}
def commTest : CommTestAck := match ack.data with | .commTest x => x | _ => {}
def commWaitAnyFor : CommWaitAnyForAck := match ack.data with | .commWaitAnyFor x => x | _ => {}
def engineGetClock : ℚ := match ack.data with | .engineGetClock x => x | _ => 0
def hostCurrent : Host := match ack.data with | .hostCurrent x => x | _ => {}
def mailboxGet : Bytes := match ack.data with | .mailboxGet x => x | _ => []
def mailboxPutAsync : Comm := match ack.data with | .mailboxPutAsync x => x | _ => {}
def mailboxGetAsync : Comm := match ack.data with | .mailboxGetAsync x => x | _ => {}
def mutexCreate : Mutex := match ack.data with | .mutexCreate x => x | _ => {}
def mutexTryLock : Bool := match ack.data with | .mutexTryLock x => x | _ => false
def conditionVariableCreate : ConditionVariable :=
  match ack.data with | .conditionVariableCreate x => x | _ => {}
def conditionVariableWaitFor : ConditionVariableStatus :=
  match ack.data with | .conditionVariableWaitFor x => x | _ => .noTimeout
def conditionVariableWaitUntil : ConditionVariableStatus :=
  match ack.data with | .conditionVariableWaitUntil x => x | _ => .noTimeout

end DecisionAck

end Pb

end RemoteSimgrid
