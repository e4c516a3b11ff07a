import UsagePolicy.Json.Plain
import UsagePolicy.Json.Printer
import UsagePolicy.Text.Blank
import UsagePolicy.Text.DecimalDigit

/-!
# Usage counts

The count of allowed uses comes from a form field and may be any value. It is read as a whole
number and is at least one: whatever denotes no positive number counts as one. In a text, blanks
and a sign may come before the digits, which may be of any script, and what follows them does
not matter.
-/
namespace UsagePolicy
namespace UsageCount

def atLeastOne (n : Int) : Int :=
  if 0 < n then n else 1

def ofText (text : String) : Except Numeral.TooLong Int :=
  let (negative, rest) := Numeral.splitSign (text.toList.dropWhile Text.isBlank)
  match Text.leadingDigits rest with
  | [] => .ok 1
  | digits => (Numeral.ofValues? digits).map fun n => atLeastOne (Numeral.signed negative n)

/-- Why a value cannot be read as a count: the text that it is or is spelled as starts with too long
a number, or it cannot be spelled. -/
inductive Fault where
  | tooLong (fault : Numeral.TooLong)
  | unspelled (fault : Json.WriteFault)
  deriving DecidableEq, Repr

def Fault.message : Fault → String
  | .tooLong fault => fault.message
  | .unspelled fault => fault.message "getting the repr of an object"

/-- The count that a submitted value stands for. What is neither a number nor a truth value nor
missing is read as the text that it is spelled as. -/
def ofJson : Json → Except Fault Int
  | .null => .ok 1
  | .bool _ => .ok 1
  | .int n => .ok (atLeastOne n)
  | .float x => .ok (atLeastOne x.truncate)
  | v =>
    match v.writeFault? Json.nestingLimit with
    | some fault => .error (.unspelled fault)
    | none => (ofText v.plainText).mapError .tooLong

theorem one_le_atLeastOne (n : Int) : 1 ≤ atLeastOne n := by
  unfold atLeastOne
  split <;> omega

theorem one_le_of_ofText {text : String} {n : Int} (h : ofText text = .ok n) : 1 ≤ n := by
  simp only [ofText] at h
  split at h
  · cases h
    decide
  · unfold Except.map at h
    split at h
    · cases h
    · cases h
      exact one_le_atLeastOne _

theorem ofJson_str (s : String) : ofJson (.str s) = (ofText s).mapError .tooLong := rfl

/-- The text that an array or an object is spelled as starts with a bracket, and so with no
number. -/
theorem ofText_bracket {c : Char} (hc : c = '[' ∨ c = '\x7b') (cs : List Char) :
    ofText (String.ofList (c :: cs)) = .ok 1 := by
  rcases hc with rfl | rfl <;>
    simp [ofText, Text.isBlank, Text.isSpace, Numeral.splitSign, Text.leadingDigits] <;> rfl

theorem ofJson_arr (items : List Json) : ofJson (.arr items) =
    match (Json.arr items).writeFault? Json.nestingLimit with
    | some fault => .error (.unspelled fault)
    | none => .ok 1 := by
  have htext : ofText (Json.arr items).plainText = .ok 1 := ofText_bracket (Or.inl rfl) _
  simp only [ofJson, htext]
  rfl

theorem ofJson_obj (fields : Fields) : ofJson (.obj fields) =
    match (Json.obj fields).writeFault? Json.nestingLimit with
    | some fault => .error (.unspelled fault)
    | none => .ok 1 := by
  have htext : ofText (Json.obj fields).plainText = .ok 1 := ofText_bracket (Or.inr rfl) _
  simp only [ofJson, htext]
  rfl

theorem one_le_of_ofJson {v : Json} {n : Int} (h : ofJson v = .ok n) : 1 ≤ n := by
  cases v with
  | null | bool b =>
    cases h
    decide
  | int k | float x =>
    cases h
    exact one_le_atLeastOne _
  | str s =>
    rw [ofJson_str] at h
    cases htext : ofText s with
    | error _ =>
      rw [htext] at h
      cases h
    | ok m =>
      rw [htext] at h
      cases h
      exact one_le_of_ofText htext
  | arr items =>
    rw [ofJson_arr] at h
    split at h
    · cases h
    · cases h
      decide
  | obj fields =>
    rw [ofJson_obj] at h
    split at h
    · cases h
    · cases h
      decide

end UsageCount
end UsagePolicy
