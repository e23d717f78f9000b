import Mathlib.Algebra.Group.Nat.Defs
import Mathlib.Data.List.Basic

/-! Sets of descriptors as bit vectors, with the operations of `fd_set` and what `select` leaves in a
set. The number of descriptors is a parameter. -/

namespace RemoteSimgrid

/-- An `fd_set`: descriptor `fd` is bit `fd`. -/
abbrev FdSet (n : Nat) := BitVec n

namespace FdSet

variable {n : Nat}

/-- `FD_ZERO`. -/
def zero : FdSet n := 0#n

/-- `FD_SET`. -/
def set (s : FdSet n) (fd : Nat) : FdSet n := s ||| BitVec.twoPow n fd

/-- `FD_CLR`. -/
def clr (s : FdSet n) (fd : Nat) : FdSet n := s &&& ~~~BitVec.twoPow n fd

/-- `FD_ISSET`. -/
def isSet (s : FdSet n) (fd : Nat) : Bool := s.getLsbD fd

/-- What `select` leaves in a set: the descriptors below `nfds` that are ready. -/
def select (s : FdSet n) (nfds : Nat) (ready : FdSet n) : FdSet n :=
  s &&& ready &&& BitVec.ofNat n (2 ^ nfds - 1)

/-- The number of descriptors in the set. -/
def count (s : FdSet n) : Nat := (List.range n).countP s.isSet

@[simp] theorem isSet_zero (fd : Nat) : (zero : FdSet n).isSet fd = false := BitVec.getLsbD_zero

theorem isSet_lt {s : FdSet n} {fd : Nat} (h : s.isSet fd = true) : fd < n :=
  BitVec.lt_of_getLsbD h

@[simp] theorem isSet_set {s : FdSet n} {fd other : Nat} (hfd : fd < n) :
    (s.set fd).isSet other = true ↔ other = fd ∨ s.isSet other = true := by
  unfold set isSet
  rw [BitVec.getLsbD_or, BitVec.getLsbD_twoPow, Bool.or_eq_true, Bool.and_eq_true,
    decide_eq_true_eq, decide_eq_true_eq]
  constructor
  · rintro (h | ⟨-, rfl⟩)
    · exact Or.inr h
    · exact Or.inl rfl
  · rintro (rfl | h)
    · exact Or.inr ⟨hfd, rfl⟩
    · exact Or.inl h

@[simp] theorem isSet_clr {s : FdSet n} {fd other : Nat} :
    (s.clr fd).isSet other = true ↔ other ≠ fd ∧ s.isSet other = true := by
  unfold clr isSet
  rw [BitVec.getLsbD_and, BitVec.getLsbD_not, BitVec.getLsbD_twoPow, Bool.and_eq_true]
  constructor
  · rintro ⟨hset, hnot⟩
    have hlt : other < n := BitVec.lt_of_getLsbD hset
    refine ⟨?_, hset⟩
    rintro rfl
    simp [hlt] at hnot
  · rintro ⟨hne, hset⟩
    have hlt : other < n := BitVec.lt_of_getLsbD hset
    refine ⟨hset, ?_⟩
    simp [hlt, Ne.symm hne]

@[simp] theorem isSet_select {s ready : FdSet n} {nfds fd : Nat} :
    (s.select nfds ready).isSet fd = true ↔
      s.isSet fd = true ∧ ready.isSet fd = true ∧ fd < nfds := by
  unfold select isSet
  rw [BitVec.getLsbD_and, BitVec.getLsbD_and, BitVec.getLsbD_ofNat, Nat.testBit_two_pow_sub_one,
    Bool.and_eq_true, Bool.and_eq_true, Bool.and_eq_true, decide_eq_true_eq, decide_eq_true_eq,
    and_assoc]
  constructor
  · rintro ⟨hset, hready, -, hlt⟩
    exact ⟨hset, hready, hlt⟩
  · rintro ⟨hset, hready, hlt⟩
    exact ⟨hset, hready, BitVec.lt_of_getLsbD hset, hlt⟩

/-- The set is not empty. -/
theorem count_pos_iff {s : FdSet n} : 0 < s.count ↔ ∃ fd, s.isSet fd = true := by
  unfold count
  rw [List.countP_pos_iff]
  constructor
  · rintro ⟨fd, -, h⟩
    exact ⟨fd, h⟩
  · rintro ⟨fd, h⟩
    exact ⟨fd, List.mem_range.mpr (isSet_lt h), h⟩

end FdSet

end RemoteSimgrid
