import Mathlib.Logic.Function.Basic

/-! A table of plain mutexes, used by any number of processes. A history is the sequence of what the
processes ask for, of what is done to the mutexes, and of what the processes are told. The table
accepts the histories in which each process is told what was done for it, and in which what was done
is what it asked for, on the mutex it named. -/

namespace RemoteSimgrid.MutexTable

/-- What a process asks for; `foreign` is what does not concern the mutexes. -/
inductive Op (α : Type*) where
  | create
  | lock (mutex : α)
  | tryLock (mutex : α)
  | unlock (mutex : α)
  | release (mutex : α)
  | foreign

/-- What a process is told. -/
inductive Reply (α : Type*) where
  | done
  | unknown
  | locked (value : Bool)
  | created (mutex : α)
  | foreign
  deriving DecidableEq

inductive Event (α π : Type*) where
  | invoke (process : π) (op : Op α)
  | create (process : π) (mutex : α)
  | lock (process : π) (mutex : α)
  | tryLock (process : π) (mutex : α) (locked : Bool)
  | unlock (process : π) (mutex : α)
  | abandon (process : π)
  | respond (process : π) (reply : Reply α)

/-- Where a process is: it has asked for nothing, or for something that is not done yet, or that is
done but of which it was not told. -/
inductive Phase (α : Type*) where
  | idle
  | asked (op : Op α)
  | answered (reply : Reply α)

/-- The mutexes that processes may name, the owner of each mutex, and the phase of each process. -/
structure Table (α π : Type*) where
  live : α → Bool := fun _ => false
  owner : α → Option π := fun _ => none
  phase : π → Phase α := fun _ => .idle

namespace Table

variable {α π : Type*} [DecidableEq π] (t : Table α π)

def setPhase (p : π) (phase : Phase α) : Table α π :=
  { t with phase := Function.update t.phase p phase }

theorem phase_setPhase (p q : π) (phase : Phase α) :
    (t.setPhase p phase).phase q = if q = p then phase else t.phase q :=
  Function.update_apply t.phase p phase q

@[simp] theorem phase_setPhase_self (p : π) (phase : Phase α) :
    (t.setPhase p phase).phase p = phase := by
  rw [phase_setPhase, if_pos rfl]

theorem setPhase_setPhase (p : π) (phase phase' : Phase α) :
    (t.setPhase p phase).setPhase p phase' = t.setPhase p phase' := by
  simp only [setPhase, Function.update_idem]

@[simp] theorem live_setPhase (p : π) (phase : Phase α) : (t.setPhase p phase).live = t.live := rfl

@[simp] theorem owner_setPhase (p : π) (phase : Phase α) :
    (t.setPhase p phase).owner = t.owner := rfl

variable [DecidableEq α]

def setLive (a : α) (live : Bool) : Table α π :=
  { t with live := Function.update t.live a live }

def setOwner (a : α) (owner : Option π) : Table α π :=
  { t with owner := Function.update t.owner a owner }

/-- What a process asks for on a mutex is refused at once if the mutex is unknown. -/
def ask (p : π) (a : α) (op : Op α) : Table α π :=
  t.setPhase p (if t.live a then .asked op else .answered .unknown)

/-- What the processes are told of the creation of a mutex makes it known. -/
def told (p : π) : Reply α → Table α π
  | .created a => (t.setLive a true).setPhase p .idle
  | _ => t.setPhase p .idle

def step : Event α π → Option (Table α π)
  | .invoke p op =>
      match t.phase p, op with
      | .idle, .create => some (t.setPhase p (.asked .create))
      | .idle, .foreign => some (t.setPhase p (.asked .foreign))
      | .idle, .lock a => some (t.ask p a (.lock a))
      | .idle, .tryLock a => some (t.ask p a (.tryLock a))
      | .idle, .unlock a => some (t.ask p a (.unlock a))
      | .idle, .release a =>
          if t.live a then some ((t.setLive a false).setPhase p (.answered .done))
          else some (t.setPhase p (.answered .unknown))
      | _, _ => none
  | .create p a =>
      match t.phase p with
      | .asked .create => some ((t.setOwner a none).setPhase p (.answered (.created a)))
      | _ => none
  | .lock p a =>
      match t.phase p with
      | .asked (.lock b) =>
          if b = a ∧ (t.owner a).isNone then
            some ((t.setOwner a (some p)).setPhase p (.answered .done))
          else none
      | _ => none
  | .tryLock p a locked =>
      match t.phase p with
      | .asked (.tryLock b) =>
          if b = a ∧ locked = (t.owner a).isNone then
            some ((if locked then t.setOwner a (some p) else t).setPhase p
              (.answered (.locked locked)))
          else none
      | _ => none
  | .unlock p a =>
      match t.phase p with
      | .asked (.unlock b) =>
          if b = a ∧ t.owner a = some p then
            some ((t.setOwner a none).setPhase p (.answered .done))
          else none
      | _ => none
  -- the process is told nothing
  | .abandon p => some (t.setPhase p .idle)
  | .respond p reply =>
      match t.phase p with
      | .asked .foreign => some (t.setPhase p .idle)
      | .answered expected => if expected = reply then some (t.told p reply) else none
      | _ => none

/-- The table after a history, if it accepts it. -/
def run : Table α π → List (Event α π) → Option (Table α π)
  | t, [] => some t
  | t, event :: events =>
      match t.step event with
      | some u => run u events
      | none => none

@[simp] theorem run_nil : t.run [] = some t := rfl

theorem run_cons {u : Table α π} {event : Event α π} (h : t.step event = some u)
    (events : List (Event α π)) : t.run (event :: events) = u.run events := by
  simp only [run, h]

theorem run_append (events events' : List (Event α π)) :
    t.run (events ++ events') = (t.run events).bind fun u => u.run events' := by
  induction events generalizing t with
  | nil => rfl
  | cons event events ih =>
      simp only [List.cons_append, run]
      cases t.step event with
      | none => rfl
      | some u => exact ih u

theorem step_foreign {p : π} (h : t.phase p = .idle) :
    t.step (.invoke p .foreign) = some (t.setPhase p (.asked .foreign)) := by
  simp only [step, h]

/-- What does not concern the mutexes may be answered in any way. -/
theorem step_respond_foreign {p : π} (h : t.phase p = .asked .foreign) (reply : Reply α) :
    t.step (.respond p reply) = some (t.setPhase p .idle) := by
  simp only [step, h]

theorem step_respond {p : π} {reply : Reply α} (h : t.phase p = .answered reply) :
    t.step (.respond p reply) = some (t.told p reply) := by
  simp only [step, h, if_pos]

/-- What is not done yet cannot be answered. -/
theorem step_respond_asked {p : π} {a : α} (h : t.phase p = .asked (.tryLock a))
    (reply : Reply α) : t.step (.respond p reply) = none := by
  simp only [step, h]

end Table

end RemoteSimgrid.MutexTable
