import Mathlib.Data.Finset.Basic
import Mathlib.Data.List.Induction

/-! Sets that are polled. Members are added and removed; a poll reports those of the members at that time
that are ready, and its report stays until the next one. -/

namespace RemoteSimgrid

/-- An operation: a poll answers with the things that are ready, or fails. -/
inductive PollOp (α : Type*) where
  | add (a : α)
  | remove (a : α)
  | poll (ready : Option (Finset α))

/-- Whether an operation is a poll. -/
def PollOp.isPoll {α : Type*} : PollOp α → Bool
  | .poll _ => true
  | _ => false

/-- The members and the last report, which is unknown after a poll that failed. -/
structure PollSet (α : Type*) where
  registered : Finset α := ∅
  reported : Option (Finset α) := some ∅

namespace PollSet

variable {α : Type*} {ops before rest : List (PollOp α)} {op : PollOp α} {a : α}

/-- Added by an operation that no removal follows. -/
def Added (ops : List (PollOp α)) (a : α) : Prop :=
  ∃ first second, ops = first ++ .add a :: second ∧ .remove a ∉ second

theorem added_nil : ¬Added [] a := by
  rintro ⟨first, second, heq, -⟩
  simp at heq

theorem added_snoc :
    Added (ops ++ [op]) a ↔ op = .add a ∨ op ≠ .remove a ∧ Added ops a := by
  constructor
  · rintro ⟨first, second, heq, hnot⟩
    rcases List.eq_nil_or_concat second with rfl | ⟨second, last, rfl⟩
    · have hlast := (List.append_inj' heq rfl).2
      exact Or.inl (List.singleton_inj.mp hlast)
    · rw [List.concat_eq_append] at heq hnot
      rw [← List.cons_append, ← List.append_assoc] at heq
      obtain ⟨hops, hlast⟩ := List.append_inj' heq rfl
      rw [List.singleton_inj.mp hlast]
      rw [List.mem_append, List.mem_singleton, not_or] at hnot
      exact Or.inr ⟨fun h => hnot.2 h.symm, first, second, hops, hnot.1⟩
  · rintro (rfl | ⟨hne, first, second, rfl, hnot⟩)
    · exact ⟨ops, [], rfl, List.not_mem_nil⟩
    · refine ⟨first, second ++ [op], by rw [List.append_assoc, List.cons_append], ?_⟩
      rw [List.mem_append, List.mem_singleton, not_or]
      exact ⟨hnot, fun h => hne h.symm⟩

variable [DecidableEq α]

def apply (s : PollSet α) : PollOp α → PollSet α
  | .add a => { s with registered := insert a s.registered }
  | .remove a => { s with registered := s.registered.erase a }
  | .poll ready => { s with reported := ready.map (s.registered ∩ ·) }

/-- The state after a sequence of operations. -/
def after (ops : List (PollOp α)) : PollSet α := ops.foldl apply {}

@[simp] theorem after_nil : after ([] : List (PollOp α)) = {} := rfl

@[simp] theorem after_snoc : after (ops ++ [op]) = (after ops).apply op := by
  rw [after, List.foldl_append]
  rfl

/-- The members are those that were added and not removed since. -/
theorem mem_registered_after : a ∈ (after ops).registered ↔ Added ops a := by
  induction ops using List.reverseRecOn with
  | nil => simp [added_nil]
  | append_singleton ops op ih =>
      rw [after_snoc, added_snoc, ← ih]
      cases op with
      | add b => simp [apply, eq_comm]
      | remove b => simp [apply, eq_comm]
      | poll ready => simp [apply]

/-- Without a poll, nothing is reported. -/
theorem reported_after_of_no_poll (hops : ∀ op ∈ ops, op.isPoll = false) :
    (after ops).reported = some ∅ := by
  induction ops using List.reverseRecOn with
  | nil => rfl
  | append_singleton ops op ih =>
      rw [after_snoc]
      have hrest := ih fun op hop => hops op (List.mem_append_left _ hop)
      cases op with
      | add b => exact hrest
      | remove b => exact hrest
      | poll ready => cases hops _ (List.mem_append_right _ (List.mem_singleton_self _))

/-- A report stays until the next poll. -/
theorem reported_after_poll {ready : Option (Finset α)} (hrest : ∀ op ∈ rest, op.isPoll = false) :
    (after (before ++ .poll ready :: rest)).reported =
      ready.map ((after before).registered ∩ ·) := by
  induction rest using List.reverseRecOn with
  | nil => rw [after_snoc, apply]
  | append_singleton rest op ih =>
      rw [← List.cons_append, ← List.append_assoc, after_snoc]
      have hkept := ih fun op hop => hrest op (List.mem_append_left _ hop)
      cases op with
      | add b => exact hkept
      | remove b => exact hkept
      | poll ready => cases hrest _ (List.mem_append_right _ (List.mem_singleton_self _))

end PollSet

end RemoteSimgrid
