import UsagePolicy.Store.Policies

/-!
# Texts of policy ids

The text of an id is read back as the number it was written from, so different ids have different
texts. A text denotes an id exactly if it consists of 24 hexadecimal digits, in either case.
-/
namespace UsagePolicy

namespace Text

def hexDigits : List Char := "0123456789abcdefABCDEF".toList

theorem hexValue?_isSome_iff {c : Char} : (hexValue? c).isSome = true ↔ c ∈ hexDigits := by
  constructor
  · intro h
    have hlt : c.toNat < 0x67 := by
      unfold hexValue? at h
      simp only [Bool.and_eq_true, decide_eq_true_eq] at h
      split at h
      · omega
      split at h
      · omega
      split at h
      · omega
      · cases h
    have hall : ∀ n < 0x67, (hexValue? (Char.ofNat n)).isSome = true →
        Char.ofNat n ∈ hexDigits := by
      decide +kernel
    have := hall c.toNat hlt
    rw [Char.ofNat_toNat] at this
    exact this h
  · revert c
    have hall : hexDigits.all (fun c => (hexValue? c).isSome) = true := by decide
    exact fun {c} => List.all_eq_true.mp hall c

def shiftHex? (acc : Nat) (c : Char) : Option Nat :=
  (hexValue? c).map (16 * acc + ·)

theorem readHex?_eq (cs : List Char) : readHex? cs = cs.foldlM shiftHex? 0 := rfl

theorem foldlM_shiftHex?_isSome_iff {cs : List Char} (acc : Nat) :
    (cs.foldlM shiftHex? acc).isSome = true ↔ ∀ c ∈ cs, c ∈ hexDigits := by
  induction cs generalizing acc with
  | nil => simp
  | cons c cs ih =>
    rw [List.foldlM_cons, List.forall_mem_cons, ← hexValue?_isSome_iff]
    cases h : hexValue? c with
    | none => simp [shiftHex?, h]
    | some d =>
      have := ih (16 * acc + d)
      simpa [shiftHex?, h] using this

theorem foldlM_shiftHex?_toDigits (n : Nat) :
    (Nat.toDigits 16 n).foldlM shiftHex? 0 = some n := by
  have hdigit : ∀ d < 16, hexValue? d.digitChar = some d := by decide
  induction n using Nat.strongRecOn with
  | ind n ih =>
    by_cases h : n < 16
    · simp [Nat.toDigits_of_lt_base h, shiftHex?, hdigit n h]
    · have hmod : n % 16 < 16 := Nat.mod_lt n (by decide)
      rw [Nat.toDigits_of_base_le (by decide) (by omega), List.foldlM_append,
        ih (n / 16) (by omega)]
      simp [shiftHex?, hdigit (n % 16) hmod]
      omega

theorem foldlM_shiftHex?_zeros (count : Nat) :
    (List.replicate count '0').foldlM shiftHex? 0 = some 0 := by
  induction count with
  | zero => rfl
  | succ count ih =>
    rw [List.replicate_succ, List.foldlM_cons]
    exact ih

end Text

namespace PolicyId

theorem readHex?_text (id : PolicyId) : Text.readHex? id.text.toList = some id.number := by
  rw [Text.readHex?_eq, text, String.toList_ofList, List.foldlM_append,
    Text.foldlM_shiftHex?_zeros]
  exact Text.foldlM_shiftHex?_toDigits id.number

theorem text_injective {id other : PolicyId} (h : id.text = other.text) : id = other := by
  have hnumber := id.readHex?_text
  rw [h, other.readHex?_text, Option.some.injEq] at hnumber
  obtain ⟨number⟩ := id
  obtain ⟨otherNumber⟩ := other
  exact congrArg PolicyId.mk hnumber.symm

/-- The text of an id denotes it, as long as 24 digits suffice. -/
theorem ofText?_text {id : PolicyId} (h : id.text.length = 24) : ofText? id.text = some id := by
  rw [ofText?, if_pos h, readHex?_text]
  rfl

/-- The text consists of 24 hexadecimal digits, in either case. -/
def IsText (text : String) : Prop :=
  text.length = 24 ∧ ∀ c ∈ text.toList, c ∈ Text.hexDigits

instance (text : String) : Decidable (IsText text) :=
  @instDecidableAnd _ _ _ (List.decidableBAll _ text.toList)

theorem ofText?_eq_none_iff {text : String} : ofText? text = none ↔ ¬ IsText text := by
  unfold ofText? IsText
  by_cases h : text.length = 24
  · have := @Text.foldlM_shiftHex?_isSome_iff text.toList 0
    rw [← Text.readHex?_eq] at this
    simp [h, ← this]
  · simp [h]

theorem isText_of_ofText? {id : PolicyId} {text : String} (h : ofText? text = some id) :
    IsText text := by
  refine Decidable.not_not.mp fun hno => ?_
  rw [ofText?_eq_none_iff.mpr hno] at h
  cases h

end PolicyId
end UsagePolicy
