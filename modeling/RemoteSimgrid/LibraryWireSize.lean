import Mathlib.Algebra.Group.Int.Defs
import Mathlib.Algebra.Group.Nat.Defs
import Mathlib.Data.Nat.Log
import Mathlib.Data.Rat.Defs

/-! The sizes of the proto3 wire format. An integer is cut into groups of seven bits, one byte each. A
field is its tag (a number and a wire type), the size of its value unless the type gives it, and the
value. Fields that hold their default value are left out, but for messages and the members of a `oneof`. -/

namespace RemoteSimgrid

namespace Wire

/-- The bytes of a varint. -/
def varintSize (n : Nat) : Nat := Nat.log 128 n + 1

/-- A negative integer is written as the 64-bit one with the same bits. -/
def intSize (i : Int) : Nat := varintSize (i % 2 ^ 64).toNat

inductive WireType where
  | varint
  | fixed64
  | lengthDelimited
  deriving DecidableEq, Repr

def WireType.value : WireType → Nat
  | varint => 0
  | fixed64 => 1
  | lengthDelimited => 2

def tagSize (number : Nat) (type : WireType) : Nat := varintSize (8 * number + type.value)

/-! ### Fields that are there -/

/-- A string, some bytes or an embedded message of a given size. -/
def delimitedSize (number size : Nat) : Nat :=
  tagSize number .lengthDelimited + varintSize size + size

def varintFieldSize (number n : Nat) : Nat := tagSize number .varint + varintSize n

def doubleFieldSize (number : Nat) : Nat := tagSize number .fixed64 + 8

/-! ### Fields that their default value leaves out -/

def optionalDelimitedSize (number size : Nat) : Nat :=
  if size = 0 then 0 else delimitedSize number size

def optionalVarintSize (number n : Nat) : Nat := if n = 0 then 0 else varintFieldSize number n

def optionalIntSize (number : Nat) (i : Int) : Nat :=
  if i = 0 then 0 else tagSize number .varint + intSize i

def optionalDoubleSize (number : Nat) (x : ℚ) : Nat := if x = 0 then 0 else doubleFieldSize number

/-! ### Bounds -/

theorem varintSize_pos (n : Nat) : 0 < varintSize n := Nat.succ_pos _

theorem varintSize_eq {n k : Nat} (hlow : 128 ^ k ≤ n) (hhigh : n < 128 ^ (k + 1)) :
    varintSize n = k + 1 := by
  rw [varintSize, Nat.log_eq_of_pow_le_of_lt_pow hlow hhigh]

theorem varintSize_eq_four {n : Nat} (hlow : 2 ^ 21 ≤ n) (hhigh : n < 2 ^ 28) : varintSize n = 4 :=
  varintSize_eq (k := 3) hlow hhigh

theorem le_varintSize {n k : Nat} (hlow : 128 ^ k ≤ n) : k + 1 ≤ varintSize n :=
  Nat.succ_le_succ (Nat.le_log_of_pow_le (by decide) hlow)

theorem varintSize_le_four {n : Nat} (hn : n < 2 ^ 28) : varintSize n ≤ 4 :=
  Nat.log_lt_of_lt_pow' (by decide) hn

theorem varintSize_le_five {n : Nat} (hn : n < 2 ^ 35) : varintSize n ≤ 5 :=
  Nat.log_lt_of_lt_pow' (by decide) hn

/-- The envelope of a large value. -/
theorem delimitedSize_large {number size : Nat} (hlow : 2 ^ 21 ≤ size) (hhigh : size < 2 ^ 28) :
    delimitedSize number size = tagSize number .lengthDelimited + 4 + size := by
  rw [delimitedSize, varintSize_eq_four hlow hhigh]

theorem delimitedSize_le {number size : Nat} (hhigh : size < 2 ^ 28) :
    delimitedSize number size ≤ tagSize number .lengthDelimited + 4 + size := by
  have hsize := varintSize_le_four hhigh
  unfold delimitedSize
  omega

theorem optionalDelimitedSize_large {number size : Nat} (hlow : 2 ^ 21 ≤ size) (hhigh : size < 2 ^ 28) :
    optionalDelimitedSize number size = tagSize number .lengthDelimited + 4 + size := by
  rw [optionalDelimitedSize, if_neg (by omega), delimitedSize_large hlow hhigh]

theorem optionalDelimitedSize_le {number size : Nat} (hhigh : size < 2 ^ 28) :
    optionalDelimitedSize number size ≤ tagSize number .lengthDelimited + 4 + size := by
  unfold optionalDelimitedSize
  split
  · exact Nat.zero_le _
  · exact delimitedSize_le hhigh

theorem le_optionalDelimitedSize (number size : Nat) : size ≤ optionalDelimitedSize number size := by
  unfold optionalDelimitedSize
  split
  · omega
  · exact Nat.le_add_left _ _

end Wire

end RemoteSimgrid
