import Mathlib.Algebra.Group.Nat.Defs
import UsagePolicy.Text.Hex

/-!
# Numbers in hexadecimal digits

A number that is written in a given count of digits is read back as far as that many digits can
hold it.
-/
namespace UsagePolicy.Text

def lowerHexDigits : List Char := "0123456789abcdef".toList

theorem hexDigit_mem : ∀ d < 16, hexDigit d ∈ lowerHexDigits := by
  decide

theorem mem_lowerHexDigits_of_mem_hexPadded {width n : Nat} {c : Char}
    (h : c ∈ hexPadded width n) : c ∈ lowerHexDigits := by
  induction width generalizing n with
  | zero => cases h
  | succ width ih =>
    rcases List.mem_append.mp h with h | h
    · exact ih h
    · rw [List.mem_singleton.mp h]
      exact hexDigit_mem (n % 16) (Nat.mod_lt n (by decide))

theorem readHex?_append_hexDigit (cs : List Char) {d : Nat} (h : d < 16) :
    readHex? (cs ++ [hexDigit d]) = (readHex? cs).map (16 * · + d) := by
  rw [readHex?, List.foldlM_append, ← readHex?]
  cases readHex? cs with
  | none => rfl
  | some acc => simp [hexValue?_hexDigit d h]

theorem readHex?_hexPadded (width n : Nat) :
    readHex? (hexPadded width n) = some (n % 16 ^ width) := by
  induction width generalizing n with
  | zero => simp [hexPadded, readHex?, Nat.mod_one]
  | succ width ih =>
    rw [hexPadded, readHex?_append_hexDigit _ (Nat.mod_lt n (by decide)), ih, Option.map_some,
      Nat.pow_succ', Nat.mod_mul, Nat.add_comm]

end UsagePolicy.Text
