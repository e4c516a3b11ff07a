import UsagePolicy.Number.Binary64

/-!
# Shortest decimal text

A finite number is written with the fewest significant digits that read back as the same
number, and of those with the digits nearest to its exact value, a tie going to the even last
digit. The text is positional from a small power of ten up to position 16 of the decimal point,
and otherwise it carries an exponent. Where positional text begins and how wide an exponent is
belong to the form of the text.
-/
namespace UsagePolicy

/-- A form of decimal text: the least power of ten of a first digit that is written positionally,
and the least count of digits in an exponent. -/
structure DecimalForm where
  leastPositional : Int
  exponentDigits : Nat
  deriving DecidableEq, Repr

namespace DecimalForm

/-- Positional from `0.0001` on, with exponents of at least two digits. -/
def standard : DecimalForm :=
  ⟨-4, 2⟩

/-- Positional from `0.00001` on, with exponents of as few digits as they have. -/
def terse : DecimalForm :=
  ⟨-5, 1⟩

end DecimalForm

namespace Binary64

/-- The position of the decimal point of a positive quotient: the least `k` with the quotient
below `10 ^ k`, for quotients of at least `10 ^ (-400)`. -/
def pointPosition (num den : Nat) : Int :=
  (Numeral.ofNat (num * Nat.pow 10 400 / den)).length - 400

/-- The grid point with `count` digits next to a quotient that reads back as `x`, if one does;
of two such points the nearer one, and the even one if they are equally near. -/
def onGrid? (x : Binary64) (num den count : Nat) : Option (Nat × Int) :=
  let exponent := pointPosition num den - count
  let num := num * Nat.pow 10 (-exponent).toNat
  let den := den * Nat.pow 10 exponent.toNat
  let near := roundHalfEven num den
  let far := if near = num / den then near + 1 else near - 1
  let hits (d : Nat) : Bool := ofDecimal false d exponent == x
  if hits near then some (near, exponent)
  else if hits far then some (far, exponent)
  else none

/-- The shortest digits of a positive finite number and the power of ten they are scaled by.
Seventeen digits always suffice. -/
def shortest (significand : Nat) (exponent : Int) : Nat × Int :=
  let (num, den) := scale significand exponent
  let x := finite false significand exponent
  ((List.range 17).findSome? fun i => onGrid? x num den (i + 1)).getD
    (num * Nat.pow 10 17 / den, -17)

/-- Writes digits with the decimal point at the given position. -/
def positional (digits : List Char) (point : Int) : List Char :=
  if point ≤ 0 then '0' :: '.' :: (List.replicate (-point).toNat '0' ++ digits)
  else if digits.length ≤ point.toNat then
    digits ++ List.replicate (point.toNat - digits.length) '0' ++ ['.', '0']
  else digits.take point.toNat ++ '.' :: digits.drop point.toNat

/-- Writes digits with one digit before the point and, after `e`, the power of ten in at least so
many digits. -/
def scientific (digits : List Char) (point : Int) (width : Nat) : List Char :=
  let mantissa := match digits with
    | d :: e :: rest => d :: '.' :: e :: rest
    | short => short
  let power := point - 1
  mantissa ++ 'e' :: (if power < 0 then '-' else '+') :: Numeral.padded width power.natAbs

/-- The decimal text of a number; the values that are not finite are written as words. -/
def text (form : DecimalForm) : Binary64 → List Char
  | .nan => "NaN".toList
  | .infinity negative => (if negative then "-Infinity" else "Infinity").toList
  | .finite negative significand exponent =>
    let body :=
      if significand = 0 then "0.0".toList
      else
        let (d, power) := shortest significand exponent
        let digits := Numeral.ofNat d
        let point := digits.length + power
        let digits := (digits.reverse.dropWhile (· == '0')).reverse
        if form.leastPositional < point && point ≤ 16 then positional digits point
        else scientific digits point form.exponentDigits
    if negative then '-' :: body else body

example : (ofDecimal false 1 (-1)).text .standard = "0.1".toList := by decide +kernel

example : (ofDecimal true 1 (-7)).text .standard = "-1e-07".toList := by decide +kernel

example : (ofDecimal true 1 (-7)).text .terse = "-1e-7".toList := by decide +kernel

example : (ofDecimal false 1 (-5)).text .standard = "1e-05".toList := by decide +kernel

example : (ofDecimal false 1 (-5)).text .terse = "0.00001".toList := by decide +kernel

example : (ofDecimal false 62001313943587175 (-2)).text .standard =
    "620013139435871.8".toList := by decide +kernel

example : (ofDecimal false 1 16).text .terse = "1e+16".toList := by decide +kernel

end Binary64
end UsagePolicy
