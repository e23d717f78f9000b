import Mathlib.Data.Int.Log
import Mathlib.Data.List.DropRight
import Mathlib.Data.Rat.Floor

/-! The numbers of the type `double`, as far as they are compared with zero, and the text that `printf`
gives for one of them under `%g`. A finite one is a rational number. -/

namespace RemoteSimgrid

inductive Double where
  | finite (value : ℚ)
  | infinite (negative : Bool)
  | nan (negative : Bool)
  deriving DecidableEq

/-- `d >= 0`. What is no number is not compared. -/
def Double.nonneg : Double → Bool
  | .finite value => 0 ≤ value
  | .infinite negative => !negative
  | .nan _ => false

@[simp] theorem Double.nonneg_finite (value : ℚ) : (Double.finite value).nonneg = decide (0 ≤ value) := rfl

/-- The nearest natural number, and the even one of two that are as near. -/
def roundHalfEven (x : ℚ) : Nat :=
  let quotient := x.num.toNat / x.den
  let remainder := x.num.toNat % x.den
  if x.den < 2 * remainder ∨ x.den = 2 * remainder ∧ quotient % 2 = 1 then quotient + 1 else quotient

/-- The six digits of a positive number, and the exponent of the first of them. -/
def sixDigits (x : ℚ) : List Char × Int :=
  let exponent := Int.log 10 x
  let digits := roundHalfEven (x * 10 ^ (5 - exponent))
  if digits = 10 ^ 6 then (Nat.toDigits 10 (10 ^ 5), exponent + 1) else (Nat.toDigits 10 digits, exponent)

/-- A fraction is printed without the zeros at its end, and with its point if anything is left. -/
def withFraction (whole fraction : List Char) : List Char :=
  let digits := fraction.rdropWhile (· = '0')
  if digits = [] then whole else whole ++ '.' :: digits

/-- An exponent has a sign and two digits at least. -/
def exponentText (exponent : Int) : List Char :=
  let digits := Nat.toDigits 10 exponent.natAbs
  'e' :: (if exponent < 0 then '-' else '+') :: (if digits.length < 2 then '0' :: digits else digits)

/-- A positive number under `%g`. -/
def magnitudeText (x : ℚ) : List Char :=
  let (digits, exponent) := sixDigits x
  if exponent < -4 ∨ 6 ≤ exponent then
    withFraction (digits.take 1) (digits.drop 1) ++ exponentText exponent
  else if exponent < 0 then
    withFraction ['0'] (List.replicate (-exponent - 1).toNat '0' ++ digits)
  else withFraction (digits.take (exponent + 1).toNat) (digits.drop (exponent + 1).toNat)

/-- A number under `%g`. -/
def formatG (value : ℚ) : String :=
  if value = 0 then "0"
  else if value < 0 then String.ofList ('-' :: magnitudeText (-value))
  else String.ofList (magnitudeText value)

def Double.formatG : Double → String
  | .finite value => RemoteSimgrid.formatG value
  | .infinite negative => if negative then "-inf" else "inf"
  | .nan negative => if negative then "-nan" else "nan"

example : formatG (-1 / 2) = "-0.5" ∧ formatG 1234567 = "1.23457e+06" ∧ formatG (1 / 30000) = "3.33333e-05" ∧
    formatG (1999999 / 2) = "1e+06" := by
  decide +kernel

end RemoteSimgrid
