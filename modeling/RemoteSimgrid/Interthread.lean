import Mathlib.Algebra.Group.Int.Defs
import Mathlib.Data.List.Basic

/-! Errors raised by `RSG_ENFORCE` and the messages exchanged by the command thread and the SimGrid
thread of the server. Assertions are enabled: no build option of the project defines `NDEBUG`, so
`RSG_ASSERT` is `RSG_ENFORCE`. -/

namespace RemoteSimgrid

/-- The exception class `rsg::Error`. -/
structure Error where
  what : String
  deriving DecidableEq, Repr

/-- `RSG_ENFORCE(pred, text)` followed by the rest of the function. -/
def rsgEnforce {α : Type} (pred : Prop) [Decidable pred] (text : String) (next : Except Error α) :
    Except Error α :=
  if pred then next else .error ⟨text⟩

@[simp] theorem rsgEnforce_eq_ok {α : Type} {pred : Prop} [Decidable pred] {text : String}
    {next : Except Error α} {a : α} :
    rsgEnforce pred text next = .ok a ↔ pred ∧ next = .ok a := by
  unfold rsgEnforce
  by_cases h : pred <;> simp [h]

/-- An `int`. -/
def InInt (n : Int) : Prop := -2 ^ 31 ≤ n ∧ n < 2 ^ 31

instance (n : Int) : Decidable (InInt n) := inferInstanceAs (Decidable (_ ∧ _))

/-- The string read back from a `c_str()`. -/
def cStr (s : String) : String := String.ofList (s.toList.takeWhile fun c => c != Char.ofNat 0)

/-- A `TcpSocket *`. -/
abbrev Socket := Nat

/-- A `message_queue *`. -/
abbrev Queue := Nat

/-- A message between the two threads, with the content its type announces. -/
inductive InterthreadMessage where
  | undefined
  | startSimulation
  | actorCreateAck
  | actorConnected (socket : Socket)
  | simulationFinished
  | simulationAborted (abortReason : String)
  | actorQuit (socketToDrop : Socket)
  | actorCreate (actorId : Int) (canConnectAck connectAck : Queue)
  deriving DecidableEq, Repr

/-- The value of a message's type in the source's enumeration. -/
def InterthreadMessage.type : InterthreadMessage → Nat
  | undefined => 0
  | startSimulation => 1
  | actorCreateAck => 2
  | actorConnected _ => 3
  | simulationFinished => 4
  | simulationAborted _ => 5
  | actorQuit _ => 6
  | actorCreate _ _ _ => 7

def interthreadMessageTypeToString : InterthreadMessage → String
  | .undefined => "UNDEFINED"
  | .startSimulation => "START_SIMULATION"
  | .actorCreateAck => "ACTOR_CREATE_ACK"
  | .actorConnected _ => "ACTOR_CONNECTED"
  | .simulationFinished => "SIMULATION_FINISHED"
  | .simulationAborted _ => "SIMULATION_ABORTED"
  | .actorQuit _ => "ACTOR_QUIT"
  | .actorCreate _ _ _ => "ACTOR_CREATE"

end RemoteSimgrid
