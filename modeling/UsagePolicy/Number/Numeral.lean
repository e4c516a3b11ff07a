/-!
# Decimal numerals

Integers are written in base ten without leading zeros. Reading a numeral is bounded: a run of
more than `digitLimit` digits is refused before its value is computed.
-/
namespace UsagePolicy.Numeral

def ofNat (n : Nat) : List Char :=
  Nat.toDigits 10 n

/-- An integer in base ten, with a sign only when it is negative. -/
def ofInt : Int → List Char
  | .ofNat n => ofNat n
  | .negSucc n => '-' :: ofNat (n + 1)

/-- A natural number with zeros in front up to the given width. -/
def padded (width n : Nat) : List Char :=
  List.replicate (width - (ofNat n).length) '0' ++ ofNat n

def value (digits : List Char) : Nat :=
  Nat.ofDigitChars 10 digits 0

theorem value_ofNat (n : Nat) : value (ofNat n) = n :=
  Nat.ofDigitChars_ten_toDigits

theorem isDigit_of_mem_ofNat {c : Char} {n : Nat} (h : c ∈ ofNat n) : c.isDigit = true :=
  Nat.isDigit_of_mem_toDigits (by decide) (by decide) h

def ofValues (digits : List Nat) : Nat :=
  digits.foldl (fun acc d => 10 * acc + d) 0

def digitLimit : Nat := 4300

structure TooLong where
  digits : Nat
  deriving DecidableEq, Repr

def TooLong.message (fault : TooLong) : String :=
  "Exceeds the limit (4300 digits) for integer string conversion: value has " ++
    String.ofList (ofNat fault.digits) ++
    " digits; use sys.set_int_max_str_digits() to increase the limit"

/-- The value of a run of digit values, refused beyond the limit. -/
def ofValues? (digits : List Nat) : Except TooLong Nat :=
  if digits.length ≤ digitLimit then .ok (ofValues digits) else .error ⟨digits.length⟩

def signed (negative : Bool) (n : Nat) : Int :=
  if negative then -(n : Int) else n

/-- A sign in front of a text, as whether it is a minus sign, with the text after it. -/
def splitSign : List Char → Bool × List Char
  | '-' :: rest => (true, rest)
  | '+' :: rest => (false, rest)
  | cs => (false, cs)

end UsagePolicy.Numeral
