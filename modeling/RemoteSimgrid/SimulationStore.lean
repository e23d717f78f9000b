import RemoteSimgrid.LibraryUnorderedMap
import RemoteSimgrid.SimgridCalls

/-! What the simulated actors of the server share: the `RefcountStore`, the heap objects that the
handlers allocate and delete, and the intrusive references they hold. -/

namespace RemoteSimgrid

open Pb

/-- A `RefcountStore::Comm`. The `node` tells the entries apart that were at one time or another
stored under the same address. -/
structure StoredComm where
  comm : Address
  receptionBuffer : Option Ptr := none
  remoteRefCount : Nat := 1
  node : Nat
  deriving DecidableEq

/-- A `RefcountStore::Mutex`. -/
structure StoredMutex where
  mutex : Address
  lock : Ptr
  remoteRefCount : Nat := 1
  node : Nat
  deriving DecidableEq

/-- A `RefcountStore::ConditionVariable`. -/
structure StoredConditionVariable where
  conditionVariable : Address
  remoteRefCount : Nat := 1
  node : Nat
  deriving DecidableEq

structure RefcountStore where
  comms : UnorderedMap Address StoredComm := ∅
  mutexes : UnorderedMap Address StoredMutex := ∅
  conditionVariables : UnorderedMap Address StoredConditionVariable := ∅

/-- The store, the `std::string`s that hold payloads, the reception buffers with the payload pointer
that was written into them, the `unique_lock`s with their mutex, and the objects on which a reference
was taken by `intrusive_ptr_add_ref`, once for each. Allocations are numbered by `next`. -/
structure Memory where
  store : RefcountStore := {}
  strings : UnorderedMap Ptr Bytes := ∅
  buffers : UnorderedMap Ptr (Option Ptr) := ∅
  locks : UnorderedMap Ptr Address := ∅
  references : List Address := []
  next : Nat := 1

/-- An iterator of one of the three maps: the entry it points to. -/
structure Iterator where
  address : Address
  node : Nat
  deriving DecidableEq

/-- `remote_ref_count--` on an `unsigned int`. -/
def decrement (count : Nat) : Nat := (count + (2 ^ 32 - 1)) % 2 ^ 32

namespace Memory

variable (m : Memory)

def intrusivePtrAddRef (object : Address) : Memory :=
  { m with references := object :: m.references }

def intrusivePtrRelease (object : Address) : Memory :=
  { m with references := m.references.erase object }

/-- `new std::string(data)`. -/
def newString (data : Bytes) : Memory :=
  { m with strings := m.strings.insert m.next data, next := m.next + 1 }

/-- `new void*`. -/
def newBuffer : Memory :=
  { m with buffers := m.buffers.insert m.next none, next := m.next + 1 }

/-- The payload of a received comm is deleted with the reception buffer, which is forgotten. -/
def takePayload (address : Address) (buffer payload : Ptr) : Memory :=
  { m with
    strings := m.strings.erase payload
    buffers := m.buffers.erase buffer
    store := { m.store with
      comms := m.store.comms.modify address fun comm => { comm with receptionBuffer := none } } }

def insertComm (comm : StoredComm) : Memory :=
  { m with
    store := { m.store with comms := m.store.comms.insert comm.comm comm }, next := m.next + 1 }

/-- The insertion of a mutex with its `unique_lock`, which is allocated just before. -/
def insertMutex (mutex : StoredMutex) : Memory :=
  { m with
    store := { m.store with mutexes := m.store.mutexes.insert mutex.mutex mutex }
    locks := m.locks.insert mutex.lock mutex.mutex
    next := m.next + 2 }

def insertConditionVariable (cv : StoredConditionVariable) : Memory :=
  { m with
    store := { m.store with
      conditionVariables := m.store.conditionVariables.insert cv.conditionVariable cv }
    next := m.next + 1 }

end Memory

end RemoteSimgrid
