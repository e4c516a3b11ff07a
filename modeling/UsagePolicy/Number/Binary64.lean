import UsagePolicy.Number.Numeral

/-!
# Binary floating-point numbers

A finite number is a sign, a significand below 2^53 and a power of two, so its value is an
exact dyadic rational. The significand is at least 2^52 unless the exponent is the least one,
and so every number has one representation. Decimal fractions are rounded to the nearest
number, a tie going to the even significand.
-/
namespace UsagePolicy

inductive Binary64 where
  | nan
  | infinity (negative : Bool)
  | finite (negative : Bool) (significand : Nat) (exponent : Int)
  deriving DecidableEq, Repr, Inhabited

namespace Binary64

def minExponent : Int := -1074

def maxExponent : Int := 971

def zero (negative : Bool) : Binary64 :=
  .finite negative 0 minExponent

/-- A natural number times a power of two, as a numerator and a denominator. -/
def scale (n : Nat) (exponent : Int) : Nat × Nat :=
  (n * Nat.pow 2 exponent.toNat, Nat.pow 2 (-exponent).toNat)

/-- The integer nearest to a quotient; of two nearest the even one. -/
def roundHalfEven (num den : Nat) : Nat :=
  let q := num / den
  let r := num % den
  if 2 * r < den then q else if den < 2 * r then q + 1 else q + q % 2

/-- The number nearest to a quotient of natural numbers, with the given sign. -/
def ofRatio (negative : Bool) (num den : Nat) : Binary64 :=
  if num = 0 then zero negative
  else
    let low : Int := (num.log2 : Int) - den.log2 - 53
    let above := den * Nat.pow 2 low.toNat * Nat.pow 2 53 ≤ num * Nat.pow 2 (-low).toNat
    let exponent := max (if above then low + 1 else low) minExponent
    let q := roundHalfEven (num * Nat.pow 2 (-exponent).toNat) (den * Nat.pow 2 exponent.toNat)
    let carried := q = Nat.pow 2 53
    let exponent := if carried then exponent + 1 else exponent
    if maxExponent < exponent then .infinity negative
    else .finite negative (if carried then Nat.pow 2 52 else q) exponent

/-- The number nearest to `digits · 10 ^ exponent`. Magnitudes far outside the range of the
format are decided by the count of digits, so no huge power is formed. -/
def ofDecimal (negative : Bool) (digits : Nat) (exponent : Int) : Binary64 :=
  let magnitude : Int := (Numeral.ofNat digits).length + exponent
  if digits = 0 then zero negative
  else if 310 < magnitude then .infinity negative
  else if magnitude < -330 then zero negative
  else ofRatio negative (digits * Nat.pow 10 exponent.toNat) (Nat.pow 10 (-exponent).toNat)

def isFinite : Binary64 → Bool
  | .finite .. => true
  | _ => false

/-- The exact value as a signed numerator and a denominator; zero unless finite. -/
def toRatio : Binary64 → Int × Nat
  | .finite negative significand exponent =>
    let (num, den) := scale significand exponent
    (Numeral.signed negative num, den)
  | _ => (0, 1)

/-- The exact value rounded toward zero; zero unless finite. -/
def truncate (x : Binary64) : Int :=
  x.toRatio.1.tdiv x.toRatio.2

def floor (x : Binary64) : Int :=
  x.toRatio.1.fdiv x.toRatio.2

def isIntegral (x : Binary64) : Bool :=
  x.isFinite && x.toRatio.1 % x.toRatio.2 == 0

def equalsInt (x : Binary64) (n : Int) : Bool :=
  x.isFinite && x.toRatio.1 == n * x.toRatio.2

/-- Neither zero of the format differs from the integer zero. -/
def isZero (x : Binary64) : Bool :=
  x.equalsInt 0

example : ofDecimal false 1 23 = .finite false 5960464477539062 24 := by decide +kernel

example : (ofDecimal false 1 23).truncate = 99999999999999991611392 := by decide +kernel

example : ofDecimal false 5 (-324) = .finite false 1 (-1074) := by decide +kernel

end Binary64
end UsagePolicy
