import Mathlib.Data.Finset.Card
import Mathlib.Order.Interval.Finset.Nat
import RemoteSimgrid.SimulationSuspended

/-! The handles of the client processes. A process holds one object per server-side object it knows,
with any number of copies of the smart pointer to it; its destructor sends a `RefcountDecrease`.
`Actor::fork` duplicates the memory of a process, and with it every handle. -/

namespace RemoteSimgrid

open Machine Pb

/-- The object that an acknowledgment hands to the client. -/
def Pb.AckData.created : AckData → Option Handle
  | .mailboxPutAsync comm => some (.comm comm.address)
  | .mailboxGetAsync comm => some (.comm comm.address)
  | .mutexCreate mutex => some (.mutex mutex.address)
  | .conditionVariableCreate cv => some (.conditionVariable cv.address)
  | _ => none

/-- A client-side object: the copies of the pointer to it (none while its destructor runs) and the
entry it was made for. -/
structure Held where
  copies : Nat
  node : Nat
  deriving DecidableEq

/-- The client-side thread of an actor: its process, and the decision it waits for. -/
structure Client where
  process : Nat
  pending : Option Decision := none
  deriving DecidableEq

def Client.pendingHandles (client : Client) : List Handle :=
  match client.pending with
  | some d => d.type.handles
  | none => []

/-- The client processes, numbered from 0, with the objects that each of them holds. -/
structure Clients where
  actors : UnorderedMap Pid Client := ∅
  holds : Nat → Handle → Option Held := fun _ _ => none
  next : Nat := 0

namespace Clients

variable (c : Clients)

/-- The client of every initial actor is a process of its own. -/
def launch (pids : List Pid) : Clients :=
  { actors := pids.zipIdx.foldl (fun actors actor => actors.insert actor.1 { process := actor.2 }) ∅
    next := pids.length }

def copies (process : Nat) (h : Handle) : Nat :=
  match c.holds process h with
  | some held => held.copies
  | none => 0

/-- The number of processes that hold an object for a handle. -/
def holders (h : Handle) : Nat :=
  ((Finset.range c.next).filter fun process => (c.holds process h).isSome).card

def hold (process : Nat) (h : Handle) (held : Option Held) : Clients :=
  { c with holds := fun process' h' =>
      if process' = process ∧ h' = h then held else c.holds process' h' }

/-- A well-behaved client uses the handles it holds. It releases one from the destructor of the last
copy, when no thread of the process is using it. -/
def Permits (client : Client) (d : Decision) : Prop :=
  client.pending = none ∧ ∀ h ∈ d.type.handles,
    if d.type.released = some h then
      c.copies client.process h = 1 ∧ ∀ other ∈ c.actors.values, other.process = client.process →
        h ∉ other.pendingHandles
    else 0 < c.copies client.process h

instance (client : Client) (d : Decision) : Decidable (c.Permits client d) :=
  inferInstanceAs (Decidable (client.pending = none ∧ ∀ h ∈ d.type.handles,
    if d.type.released = some h then
      c.copies client.process h = 1 ∧ ∀ other ∈ c.actors.values, other.process = client.process →
        h ∉ other.pendingHandles
    else 0 < c.copies client.process h))

/-- The client sends a decision; it is in the destructor if it releases a handle. -/
def send (p : Pid) (client : Client) (d : Decision) : Clients :=
  let c' := { c with actors := c.actors.set p { client with pending := some d } }
  match d.type.released with
  | some h =>
      c'.hold client.process h
        ((c.holds client.process h).map fun held => { held with copies := 0 })
  | none => c'

/-- The child process of a fork has a copy of every object that is not being destroyed. -/
def fork (parent : Nat) (child : Pid) : Clients :=
  { actors := c.actors.insert child { process := c.next }
    holds := fun process h =>
      if process = c.next then (c.holds parent h).filter fun held => 0 < held.copies
      else c.holds process h
    next := c.next + 1 }

/-- The client is done with the decision it waited for; a destructor ends with it. -/
def settle (p : Pid) (client : Client) : Clients :=
  let c' := { c with actors := c.actors.set p { client with pending := none } }
  match client.pending.bind (·.type.released) with
  | some h => c'.hold client.process h none
  | none => c'

/-- A thread in the process of its creator. -/
def createThread (process : Nat) (child : Pid) : Clients :=
  { c with actors := c.actors.insert child { process := process } }

/-- The client receives an acknowledgment. -/
def receive (m : Memory) (forks : Bool) (p : Pid) (ack : DecisionAck) : Clients :=
  match c.actors.find p with
  | none => c
  | some client =>
      let c' := c.settle p client
      match ack.data with
      | .actorCreate child =>
          if forks then c'.fork client.process child.id
          else c'.createThread client.process child.id
      | data =>
          match data.created with
          | some h =>
              c'.hold client.process h
                ((m.entry h).map fun entry => { copies := 1, node := entry.node })
          | none => c'

def receiveAll (m : Memory) (forks : Bool) (acks : List (Pid × DecisionAck)) : Clients :=
  acks.foldl (fun c ack => c.receive m forks ack.1 ack.2) c

end Clients

/-- The SimGrid thread and the client processes. -/
structure HandleSystem (K : S4u) where
  server : Simulation K
  clients : Clients

/-- A step of the SimGrid thread, in which the running actor's client sends the decision that is read;
the same, with a client that calls `fork` when its creation is acknowledged; or a client that copies
a pointer or drops a copy that is not the last. -/
inductive HandleEvent (K : S4u) where
  | simulation (event : SimEvent K)
  | fork
  | copy (process : Nat) (h : Handle)
  | drop (process : Nat) (h : Handle)

namespace HandleSystem

variable {K : S4u}

def launch (K : S4u) (connections : List ActorConnection) : HandleSystem K :=
  { server := Simulation.spawn K connections
    clients := Clients.launch (connections.map (·.actorId)) }

/-- A step of the server, after which the clients receive what was written to them. -/
def serverStep (s : HandleSystem K) (forks : Bool) (event : SimEvent K) :
    Option (HandleSystem K × List SimOutput) :=
  match simulationStep K s.server event with
  | none => none
  | some (server, out) =>
      some ({ server := server
              clients := s.clients.receiveAll server.memory forks (acks out) }, out)

end HandleSystem

def handleStep (K : S4u) (s : HandleSystem K) (event : HandleEvent K) :
    Option (HandleSystem K × List SimOutput) :=
  match event with
  | .simulation (.decision d) =>
      match s.server.current with
      | none => none
      | some p =>
          match s.clients.actors.find p with
          | none => none
          | some client =>
              if s.clients.Permits client d then
                ({ s with clients := s.clients.send p client d }).serverStep false (.decision d)
              else none
  | .simulation event => s.serverStep false event
  | .fork => s.serverStep true (.canConnectAck .actorCreateAck)
  | .copy process h =>
      match s.clients.holds process h with
      | some held =>
          if 0 < held.copies then
            let held := { held with copies := held.copies + 1 }
            some ({ s with clients := s.clients.hold process h (some held) }, [])
          else none
      | none => none
  | .drop process h =>
      match s.clients.holds process h with
      | some held =>
          if 1 < held.copies then
            let held := { held with copies := held.copies - 1 }
            some ({ s with clients := s.clients.hold process h (some held) }, [])
          else none
      | none => none

/-- The reference count of every entry is the number of processes that hold it, and there is an entry
exactly as long as there is one. What a client holds is the object it was made for, and what it asks
for while it holds it is in the store. -/
structure HandlesConsistent {K : S4u} (s : HandleSystem K) : Prop where
  counted : ∀ h, match s.server.memory.entry h with
    | some entry => entry.remoteRefCount = s.clients.holders h ∧ 0 < s.clients.holders h
    | none => s.clients.holders h = 0
  same : ∀ process h held, s.clients.holds process h = some held →
    ∃ entry, s.server.memory.entry h = some entry ∧ entry.node = held.node
  known : ∀ p client, s.clients.actors.find p = some client → ∀ h ∈ client.pendingHandles,
    s.server.memory.entry h ≠ none

/-- The step refuses no decision of a client for an unknown object: it neither answers it at once
with a failure nor aborts. -/
def NothingUnknown {K : S4u} (s : HandleSystem K) : HandleEvent K → Prop
  | .simulation event => ∀ p d, Dispatches s.server event p d → d.type.handles ≠ [] →
      (dispatch K s.server.kernel p d s.server.memory).outcome ≠
          .finished { success := false } true false ∧
        ∀ e, (dispatch K s.server.kernel p d s.server.memory).outcome ≠ .raised e
  | _ => True

/-- No process forks while it holds an object that is not being destroyed. -/
def NoForkWithHandles {K : S4u} (s : HandleSystem K) : HandleEvent K → Prop
  | .fork => ∀ p client h, s.server.current = some p → s.clients.actors.find p = some client →
      s.clients.copies client.process h = 0
  | _ => True

/-- No `MutexTryLock` is dispatched. -/
def NoTryLock {K : S4u} (s : HandleSystem K) : HandleEvent K → Prop
  | .simulation event => ∀ p d, Dispatches s.server event p d → ∀ x, d.type ≠ .mutexTryLock x
  | _ => True

/-- `FreshAddress`, for the steps of the server. -/
def FreshObject {K : S4u} (s : HandleSystem K) : HandleEvent K → Prop
  | .simulation event => FreshAddress s.server event
  | _ => True

instance {K : S4u} (s : HandleSystem K) (event : HandleEvent K) :
    Decidable (FreshObject s event) := by
  cases event <;> simp only [FreshObject] <;> infer_instance

end RemoteSimgrid
