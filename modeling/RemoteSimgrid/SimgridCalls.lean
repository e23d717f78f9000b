import RemoteSimgrid.Interthread
import RemoteSimgrid.Messages

/-! The S4U interface of SimGrid, as far as the server uses it. SimGrid is not part of the
repository: it is a parameter, and what a result relies on is a hypothesis about that parameter. -/

namespace RemoteSimgrid

open Pb

/-- The pid of a simulated actor. -/
abbrev Pid := Int

/-- An object on the heap of the server, named by its allocation. -/
abbrev Ptr := Nat

/-- The calls after which SimGrid may run other actors. -/
inductive S4uCall where
  | sleepFor (duration : ℚ)
  | sleepUntil (timeout : ℚ)
  | execute (flops : ℚ)
  | yield
  | actorCreate (name host : String) (connectAck : Queue)
  | actorJoin (actor : Pid) (timeout : ℚ)
  | commWaitFor (comm : Address) (timeout : ℚ)
  | commStart (comm : Address)
  | commTest (comm : Address)
  | commWaitAnyFor (comms : List Address) (timeout : ℚ)
  | mailboxPut (mbox : String) (payload : Ptr) (simulatedSize : Nat)
  | mailboxPutAsync (mbox : String) (payload : Ptr) (simulatedSize : Nat)
  | mailboxGet (mbox : String)
  | mailboxGetAsync (mbox : String) (data : Ptr)
  | mutexCreate
  | mutexLock (mutex : Address)
  | mutexUnlock (mutex : Address)
  | mutexTryLock (mutex : Address)
  | conditionVariableCreate
  | conditionVariableWait (conditionVariable : Address) (lock : Ptr)
  | conditionVariableWaitUntil (conditionVariable : Address) (lock : Ptr) (timeoutTime : ℚ)
  | conditionVariableWaitFor (conditionVariable : Address) (lock : Ptr) (duration : ℚ)
  | conditionVariableNotifyOne (conditionVariable : Address)
  | conditionVariableNotifyAll (conditionVariable : Address)
  deriving DecidableEq

/-- How a call ends: a value, or an exception. -/
inductive S4uReturn where
  | done
  | bool (value : Bool)
  | address (object : Address)
  | payload (data : Ptr)
  | index (finished : Int)
  | pid (actor : Pid)
  | cvStatus (status : ConditionVariableStatus)
  | timeoutException
  | cancelException
  | hostFailureException
  | otherException (what : String)
  deriving DecidableEq

def S4uReturn.isException : S4uReturn → Bool
  | .timeoutException | .cancelException | .hostFailureException | .otherException _ => true
  | _ => false

/-- SimGrid. An actor issues a call; at some later moment SimGrid serves it, that is, executes it
with some result, which the actor gets when it is run again. In between SimGrid may make progress by
itself, and then write payload pointers into reception buffers. The other fields are the queries
that never switch to another actor. -/
structure S4u where
  State : Type
  Event : Type
  init : State
  issue : State → Pid → S4uCall → State
  serve : State → Pid → S4uCall → S4uReturn → Option State
  progress : State → Event → Option (State × List (Ptr × Ptr))
  hostByName : State → String → Bool
  actorByPid : State → Pid → Option (String × String)
  currentHost : State → Pid → String
  getClock : State → ℚ
  mailboxEmpty : State → String → Bool
  mailboxListen : State → String → Bool
  mailboxReady : State → String → Bool

end RemoteSimgrid
