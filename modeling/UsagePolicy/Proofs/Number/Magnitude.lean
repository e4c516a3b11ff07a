import Mathlib.Tactic.SplitIfs
import UsagePolicy.Number.Binary64
import UsagePolicy.Proofs.Number.Digits

/-!
# The range of the floating-point format

Rounding a quotient gives a significand below 2^53 and an exponent of at most 971, or no finite
number. So the integer part of what a decimal fraction is rounded to is below 2^1024, and has far
fewer digits than are read as a number.
-/
namespace UsagePolicy
namespace Binary64

theorem roundHalfEven_le {num den bound : Nat} (h : num < den * bound) :
    roundHalfEven num den ≤ bound := by
  have hlt : num / den < bound := Nat.div_lt_of_lt_mul h
  have hmod : num / den % 2 ≤ 1 := Nat.le_of_lt_succ (Nat.mod_lt _ (by decide))
  simp only [roundHalfEven]
  split_ifs <;> omega

theorem scaled_lt_of_le {num den bound : Nat} {low exponent : Int} (hle : low ≤ exponent)
    (h : num * 2 ^ (-low).toNat < den * 2 ^ low.toNat * bound) :
    num * 2 ^ (-exponent).toNat < den * 2 ^ exponent.toNat * bound := by
  have hnum : num * 2 ^ (-exponent).toNat ≤ num * 2 ^ (-low).toNat :=
    Nat.mul_le_mul_left _ (Nat.pow_le_pow_right (by decide) (by omega))
  have hden : den * 2 ^ low.toNat * bound ≤ den * 2 ^ exponent.toNat * bound :=
    Nat.mul_le_mul_right _ (Nat.mul_le_mul_left _ (Nat.pow_le_pow_right (by decide) (by omega)))
  omega

/-- The lengths of numerator and denominator in binary bound the quotient. -/
theorem scaled_lt_of_log2 {num den : Nat} (hden : den ≠ 0) {exponent : Int}
    (h : exponent = num.log2 - den.log2 - 52) :
    num * 2 ^ (-exponent).toNat < den * 2 ^ exponent.toNat * 2 ^ 53 := by
  have hnum : num < 2 ^ (num.log2 + 1) := Nat.lt_log2_self
  have hpow : 2 ^ den.log2 ≤ den := Nat.log2_self_le hden
  calc num * 2 ^ (-exponent).toNat
      < 2 ^ (num.log2 + 1) * 2 ^ (-exponent).toNat :=
        Nat.mul_lt_mul_of_pos_right hnum (Nat.two_pow_pos _)
    _ = 2 ^ den.log2 * 2 ^ exponent.toNat * 2 ^ 53 := by
        rw [← Nat.pow_add, ← Nat.pow_add, ← Nat.pow_add]
        congr 1
        omega
    _ ≤ den * 2 ^ exponent.toNat * 2 ^ 53 :=
        Nat.mul_le_mul_right _ (Nat.mul_le_mul_right _ hpow)

def InRange : Binary64 → Prop
  | finite _ significand exponent => significand < 2 ^ 53 ∧ exponent ≤ maxExponent
  | _ => True

theorem inRange_zero (negative : Bool) : (zero negative).InRange :=
  ⟨by decide, by decide⟩

theorem inRange_ofRatio (negative : Bool) (num : Nat) {den : Nat} (hden : den ≠ 0) :
    (ofRatio negative num den).InRange := by
  unfold ofRatio
  split
  · exact inRange_zero negative
  extract_lets low above exponent q carried exponent'
  split
  · trivial
  · next hmax =>
    have hscaled : num * 2 ^ (-exponent).toNat < den * 2 ^ exponent.toNat * 2 ^ 53 := by
      by_cases habove : above
      · apply scaled_lt_of_le _ (scaled_lt_of_log2 hden rfl)
        simp only [exponent, if_pos habove, low]
        omega
      · apply scaled_lt_of_le _ (Nat.lt_of_not_le habove)
        simp only [exponent, if_neg habove]
        omega
    have hq : q ≤ 2 ^ 53 := roundHalfEven_le hscaled
    refine ⟨?_, Int.not_lt.mp hmax⟩
    by_cases hcarried : carried
    · rw [if_pos hcarried]
      decide
    · rw [if_neg hcarried]
      exact Nat.lt_of_le_of_ne hq hcarried

theorem inRange_ofDecimal (negative : Bool) (digits : Nat) (exponent : Int) :
    (ofDecimal negative digits exponent).InRange := by
  unfold ofDecimal
  extract_lets magnitude
  split_ifs
  · exact inRange_zero negative
  · trivial
  · exact inRange_zero negative
  · exact inRange_ofRatio negative _ (Nat.pos_iff_ne_zero.mp (Nat.pow_pos (by decide)))

theorem truncate_of_not_finite {x : Binary64} (h : x.isFinite = false) : x.truncate = 0 := by
  cases x with
  | nan | infinity negative => simp [truncate, toRatio]
  | finite negative significand exponent => cases h

theorem natAbs_truncate_lt {x : Binary64} (h : x.InRange) :
    x.truncate.natAbs < 2 ^ 53 * 2 ^ maxExponent.toNat := by
  have hbound : 0 < 2 ^ 53 * 2 ^ maxExponent.toNat :=
    Nat.mul_pos (Nat.two_pow_pos _) (Nat.two_pow_pos _)
  cases x with
  | nan | infinity negative => rwa [truncate_of_not_finite rfl]
  | finite negative significand exponent =>
    obtain ⟨hsignificand, hexponent⟩ := h
    have hnum : (toRatio (.finite negative significand exponent)).1.natAbs =
        significand * 2 ^ exponent.toNat := by
      cases negative <;> simp [toRatio, scale, Numeral.signed, Int.natAbs_mul, Int.natAbs_pow]
    have hpow : 2 ^ exponent.toNat ≤ 2 ^ maxExponent.toNat :=
      Nat.pow_le_pow_right (by decide) (Int.toNat_le_toNat hexponent)
    rw [truncate, Int.natAbs_tdiv, hnum]
    calc significand * 2 ^ exponent.toNat / _
        ≤ significand * 2 ^ exponent.toNat := Nat.div_le_self _ _
      _ ≤ significand * 2 ^ maxExponent.toNat := Nat.mul_le_mul_left _ hpow
      _ < 2 ^ 53 * 2 ^ maxExponent.toNat :=
        Nat.mul_lt_mul_of_pos_right hsignificand (Nat.two_pow_pos _)

/-- The integer part of a number in range is short enough to be read and written. -/
theorem length_truncate_le {x : Binary64} (h : x.InRange) :
    (Numeral.ofNat x.truncate.natAbs).length ≤ Numeral.digitLimit := by
  have hlt : x.truncate.natAbs < 10 ^ 309 :=
    Nat.lt_trans (natAbs_truncate_lt h) (by decide +kernel)
  exact Nat.le_trans (Numeral.length_ofNat_le (by decide) hlt) (by decide)

end Binary64
end UsagePolicy
