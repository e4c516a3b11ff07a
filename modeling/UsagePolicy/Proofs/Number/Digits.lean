import Mathlib.Algebra.Group.Nat.Defs
import UsagePolicy.Number.Numeral

/-!
# Runs of digits

Runs of equally many digits are ordered as texts just as the numbers that they denote, and a number
that fits is written in exactly the width asked for. So a text made of fields of fixed width is
ordered field by field.
-/
namespace UsagePolicy.Numeral

@[simp] theorem value_nil : value [] = 0 := rfl

theorem value_cons (c : Char) (cs : List Char) :
    value (c :: cs) = 10 ^ cs.length * (c.toNat - 48) + value cs := by
  have h := @Nat.ofDigitChars_eq_ofDigitChars_zero cs (c.toNat - 48)
  simpa [value, Nat.ofDigitChars_cons] using h

theorem digit_range {c : Char} (h : c.isDigit = true) : 48 ≤ c.toNat ∧ c.toNat ≤ 57 := by
  simpa using Char.isDigit_iff_toNat.mp h

theorem value_lt {cs : List Char} (h : ∀ c ∈ cs, c.isDigit = true) :
    value cs < 10 ^ cs.length := by
  induction cs with
  | nil => decide
  | cons c cs ih =>
    have hc := digit_range (h c (by simp))
    have hcs := ih fun d hd => h d (by simp [hd])
    have hle : 10 ^ cs.length * (c.toNat - 48) ≤ 10 ^ cs.length * 9 :=
      Nat.mul_le_mul_left _ (by omega)
    rw [value_cons, List.length_cons, Nat.pow_succ]
    omega

theorem value_cons_lt_iff {c d : Char} {cs ds : List Char} (hc : c.isDigit = true)
    (hd : d.isDigit = true) (hcs : ∀ x ∈ cs, x.isDigit = true) (hds : ∀ x ∈ ds, x.isDigit = true)
    (hlen : cs.length = ds.length) :
    value (c :: cs) < value (d :: ds) ↔
      c.toNat < d.toNat ∨ c.toNat = d.toNat ∧ value cs < value ds := by
  have hc' := digit_range hc
  have hd' := digit_range hd
  have hv := value_lt hcs
  have hw := value_lt hds
  rw [value_cons, value_cons, hlen]
  rw [hlen] at hv
  generalize 10 ^ ds.length = p at *
  rcases Nat.lt_trichotomy c.toNat d.toNat with h | h | h
  · have := Nat.mul_le_mul_left p (show c.toNat - 48 + 1 ≤ d.toNat - 48 by omega)
    rw [Nat.mul_add, Nat.mul_one] at this
    omega
  · rw [h]
    omega
  · have := Nat.mul_le_mul_left p (show d.toNat - 48 + 1 ≤ c.toNat - 48 by omega)
    rw [Nat.mul_add, Nat.mul_one] at this
    omega

theorem lt_iff_value_lt {cs ds : List Char} (hlen : cs.length = ds.length)
    (hcs : ∀ x ∈ cs, x.isDigit = true) (hds : ∀ x ∈ ds, x.isDigit = true) :
    cs < ds ↔ value cs < value ds := by
  induction cs generalizing ds with
  | nil =>
    obtain rfl := List.length_eq_zero_iff.mp hlen.symm
    simp
  | cons c cs ih =>
    obtain ⟨d, ds, rfl⟩ := List.exists_cons_of_length_eq_add_one hlen.symm
    have hlen' : cs.length = ds.length := by simpa using hlen
    have hcs' : ∀ x ∈ cs, x.isDigit = true := fun x hx => hcs x (by simp [hx])
    have hds' : ∀ x ∈ ds, x.isDigit = true := fun x hx => hds x (by simp [hx])
    rw [List.cons_lt_cons_iff, ih hlen' hcs' hds',
      value_cons_lt_iff (hcs c (by simp)) (hds d (by simp)) hcs' hds' hlen', Char.toNat_inj]
    exact Iff.rfl

theorem value_append_zeros (cs : List Char) (count : Nat) :
    value (cs ++ List.replicate count '0') = 10 ^ count * value cs := by
  rw [value, value, Nat.ofDigitChars_append, Nat.ofDigitChars_replicate_zero]

theorem span_isDigit_append {digits rest : List Char} (h : ∀ c ∈ digits, c.isDigit = true)
    (hrest : ∀ c ∈ rest.head?, c.isDigit = false) :
    (digits ++ rest).takeWhile Char.isDigit = digits ∧
      (digits ++ rest).dropWhile Char.isDigit = rest := by
  rw [List.takeWhile_append_of_pos h, List.dropWhile_append_of_pos h]
  cases rest with
  | nil => simp
  | cons c rest => simp [hrest c (by simp)]

theorem exists_ofNat_eq_cons (n : Nat) : ∃ c cs, ofNat n = c :: cs ∧ c.isDigit = true := by
  obtain ⟨c, cs, heq⟩ : ∃ c cs, ofNat n = c :: cs :=
    List.exists_cons_of_ne_nil Nat.toDigits_ne_nil
  exact ⟨c, cs, heq, isDigit_of_mem_ofNat (n := n) (by simp [heq])⟩

theorem ofNat_eq_cons_of_ne_zero {n : Nat} (h : n ≠ 0) : ∃ c cs, ofNat n = c :: cs ∧ c ≠ '0' := by
  have hdigit : ∀ n < 10, n ≠ 0 → n.digitChar ≠ '0' := by decide
  induction n using Nat.strongRecOn with
  | ind n ih =>
    by_cases hlt : n < 10
    · exact ⟨n.digitChar, [], Nat.toDigits_of_lt_base hlt, hdigit n hlt h⟩
    · obtain ⟨c, cs, heq, hc⟩ := ih (n / 10) (by omega) (by omega)
      refine ⟨c, cs ++ [(n % 10).digitChar], ?_, hc⟩
      rw [ofNat] at heq ⊢
      rw [Nat.toDigits_of_base_le (by decide) (by omega), heq, List.cons_append]

theorem ofNat_inj {m n : Nat} : ofNat m = ofNat n ↔ m = n := by
  constructor
  · intro h
    have hvalue := congrArg value h
    rwa [value_ofNat, value_ofNat] at hvalue
  · rintro rfl
    rfl

theorem ofInt_inj {m n : Int} : ofInt m = ofInt n ↔ m = n := by
  have hsign : ∀ k l : Nat, ofNat k ≠ '-' :: ofNat l := by
    intro k l h
    obtain ⟨c, cs, heq, hc⟩ := exists_ofNat_eq_cons k
    rw [heq] at h
    obtain ⟨rfl, -⟩ := List.cons.inj h
    cases hc
  cases m with
  | ofNat m =>
    cases n with
    | ofNat n => simp only [ofInt, ofNat_inj, Int.ofNat.injEq]
    | negSucc n => simp [ofInt, hsign]
  | negSucc m =>
    cases n with
    | ofNat n => simp [ofInt, (hsign _ _).symm]
    | negSucc n => simp [ofInt, ofNat_inj]

theorem length_ofNat_le {width n : Nat} (hwidth : 0 < width) (h : n < 10 ^ width) :
    (ofNat n).length ≤ width :=
  (Nat.length_toDigits_le_iff (by decide) hwidth).mpr h

/-- The number that a run of digits denotes, whatever its sign, has no more digits than the run. -/
theorem length_ofNat_signed_le {negative : Bool} {digits : List Char} {width : Nat}
    (hdigits : ∀ c ∈ digits, c.isDigit = true) (hwidth : 0 < width) (h : digits.length ≤ width) :
    (ofNat (signed negative (value digits)).natAbs).length ≤ width := by
  have habs : (signed negative (value digits)).natAbs = value digits := by
    cases negative <;> simp [signed]
  rw [habs]
  exact length_ofNat_le hwidth
    (Nat.lt_of_lt_of_le (value_lt hdigits) (Nat.pow_le_pow_right (by decide) h))

theorem isDigit_of_mem_padded {c : Char} {width n : Nat} (h : c ∈ padded width n) :
    c.isDigit = true := by
  rcases List.mem_append.mp h with h | h
  · rw [List.eq_of_mem_replicate h]
    decide
  · exact isDigit_of_mem_ofNat h

@[simp] theorem value_padded (width n : Nat) : value (padded width n) = n := by
  simp [value, padded, ofNat, Nat.ofDigitChars_append]

theorem padded_ne_nil (width n : Nat) : padded width n ≠ [] :=
  List.append_ne_nil_of_right_ne_nil _ Nat.toDigits_ne_nil

theorem length_padded {width n : Nat} (hwidth : 0 < width) (h : n < 10 ^ width) :
    (padded width n).length = width := by
  have hle := length_ofNat_le hwidth h
  simp [padded]
  omega

theorem padded_lt_padded_iff {width m n : Nat} (hwidth : 0 < width) (hm : m < 10 ^ width)
    (hn : n < 10 ^ width) : padded width m < padded width n ↔ m < n := by
  have hlen : (padded width m).length = (padded width n).length := by
    rw [length_padded hwidth hm, length_padded hwidth hn]
  rw [lt_iff_value_lt hlen (fun _ => isDigit_of_mem_padded) (fun _ => isDigit_of_mem_padded),
    value_padded, value_padded]

theorem padded_inj {width m n : Nat} : padded width m = padded width n ↔ m = n := by
  constructor
  · intro h
    simpa using congrArg value h
  · rintro rfl
    rfl

end UsagePolicy.Numeral
