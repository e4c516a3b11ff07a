import Mathlib.Data.Fintype.Prod
import Mathlib.Data.List.Forall2
import UsagePolicy.Identifier
import UsagePolicy.Proofs.Text.HexDigits

/-!
# What an identifier keeps of its random bytes

An identifier has the form of a version 4 identifier: 32 lower-case digits in five groups, with the
digit of the version and a digit of the variant in their places. Its digits are read back as the
stamped bytes, and these keep all of the 128 random bits but the six that are forced. So two
identifiers are equal exactly if they were drawn with the same 122 bits.
-/
namespace UsagePolicy
namespace Identifier

variable {bytes other : Vector UInt8 16}

theorem toNat_version (b : UInt8) : ((b &&& 0x0f) ||| 0x40).toNat = 64 + b.toNat % 16 := by
  have hlow : b.toNat &&& 15 = b.toNat % 16 := Nat.and_two_pow_sub_one_eq_mod b.toNat 4
  have hor := Nat.two_pow_add_eq_or_of_lt (show b.toNat % 16 < 2 ^ 6 by omega) 1
  rw [UInt8.toNat_or, UInt8.toNat_and]
  change (b.toNat &&& 15) ||| 64 = _
  rw [hlow, Nat.or_comm]
  exact hor.symm

theorem toNat_variant (b : UInt8) : ((b &&& 0x3f) ||| 0x80).toNat = 128 + b.toNat % 64 := by
  have hlow : b.toNat &&& 63 = b.toNat % 64 := Nat.and_two_pow_sub_one_eq_mod b.toNat 6
  have hor := Nat.two_pow_add_eq_or_of_lt (show b.toNat % 64 < 2 ^ 7 by omega) 1
  rw [UInt8.toNat_or, UInt8.toNat_and]
  change (b.toNat &&& 63) ||| 128 = _
  rw [hlow, Nat.or_comm]
  exact hor.symm

theorem toList_stamp (bytes : Vector UInt8 16) :
    (stamp bytes).toList =
      bytes.toList.take 6 ++ ((bytes.get 6 &&& 0x0f) ||| 0x40) :: bytes.get 7 ::
        ((bytes.get 8 &&& 0x3f) ||| 0x80) :: bytes.toList.drop 9 := by
  have hcut : bytes.toList =
      bytes.toList.take 6 ++ bytes.get 6 :: bytes.get 7 :: bytes.get 8 :: bytes.toList.drop 9 := by
    have hdrop : bytes.toList.drop 6 =
        bytes.get 6 :: bytes.get 7 :: bytes.get 8 :: bytes.toList.drop 9 := by
      iterate 3 rw [List.drop_eq_getElem_cons (by simp)]
      rfl
    rw [← hdrop, List.take_append_drop]
  have hlength : (bytes.toList.take 6).length = 6 := by simp
  rw [stamp, Vector.toList_set, Vector.toList_set]
  conv_lhs => rw [hcut]
  rw [List.set_append_right _ _ (by rw [hlength]),
    List.set_append_right _ _ (by rw [hlength]; decide), hlength]
  rfl

/-- The form of the digits, with `x` for any digit and `y` for a digit of the variant. -/
def digitForm : List Char :=
  List.replicate 12 'x' ++ ['4', 'x'] ++ List.replicate 2 'x' ++ ['y', 'x'] ++
    List.replicate 14 'x'

def form : List Char :=
  "xxxxxxxx-xxxx-4xxx-yxxx-xxxxxxxxxxxx".toList

theorem grouped_digitForm : grouped digitForm = form := rfl

/-- A lower-case digit fits an `x` of the form, one of the variant fits the `y`, and otherwise only
the character of the form itself fits. -/
def Fits (c place : Char) : Prop :=
  if place = 'x' then c ∈ Text.lowerHexDigits
  else if place = 'y' then c ∈ "89ab".toList
  else c = place

instance (c place : Char) : Decidable (Fits c place) :=
  inferInstanceAs (Decidable (if place = 'x' then _ else if place = 'y' then _ else _))

def HasForm (text : String) : Prop :=
  List.Forall₂ Fits text.toList form

theorem HasForm.length {text : String} (h : HasForm text) : text.length = 36 := by
  rw [← String.length_toList, List.Forall₂.length_eq h]
  rfl

theorem fits_hexPadded (width n : Nat) :
    List.Forall₂ Fits (Text.hexPadded width n) (List.replicate width 'x') := by
  rw [List.forall₂_iff_zip, Text.length_hexPadded, List.length_replicate]
  refine ⟨rfl, fun {c place} hmem => ?_⟩
  obtain ⟨hc, hplace⟩ := List.of_mem_zip hmem
  rw [Fits, if_pos (List.eq_of_mem_replicate hplace)]
  exact Text.mem_lowerHexDigits_of_mem_hexPadded hc

theorem fits_hexText (bytes : List UInt8) :
    List.Forall₂ Fits (hexText bytes) (List.replicate (2 * bytes.length) 'x') := by
  induction bytes with
  | nil => exact List.Forall₂.nil
  | cons b rest ih =>
    rw [List.length_cons, Nat.mul_succ, Nat.add_comm, List.replicate_add]
    exact List.rel_append (fits_hexPadded 2 b.toNat) ih

theorem fits_version (b : UInt8) :
    List.Forall₂ Fits (Text.hexPadded 2 ((b &&& 0x0f) ||| 0x40).toNat) ['4', 'x'] := by
  have hdigit : (64 + b.toNat % 16) / 16 % 16 = 4 := by omega
  rw [toNat_version]
  simp only [Text.hexPadded, List.nil_append, List.cons_append, hdigit]
  exact .cons rfl (fits_hexPadded 1 _)

theorem fits_variant (b : UInt8) :
    List.Forall₂ Fits (Text.hexPadded 2 ((b &&& 0x3f) ||| 0x80).toNat) ['y', 'x'] := by
  have hdigit : ∀ d < 4, Fits (Text.hexDigit (8 + d)) 'y' := by decide
  have hhigh : (128 + b.toNat % 64) / 16 % 16 = 8 + b.toNat % 64 / 16 := by omega
  rw [toNat_variant]
  simp only [Text.hexPadded, List.nil_append, List.cons_append, hhigh]
  exact .cons (hdigit _ (by omega)) (fits_hexPadded 1 _)

theorem fits_grouped {digits places : List Char} (h : List.Forall₂ Fits digits places) :
    List.Forall₂ Fits (grouped digits) (grouped places) := by
  have hhyphen : Fits '-' '-' := rfl
  have hgroup : ∀ start count, List.Forall₂ Fits ((digits.drop start).take count)
      ((places.drop start).take count) :=
    fun start count => List.forall₂_take count (List.forall₂_drop start h)
  exact List.rel_append (List.rel_append (List.rel_append (List.rel_append
    (hgroup 0 8) (.cons hhyphen (hgroup 8 4))) (.cons hhyphen (hgroup 12 4)))
    (.cons hhyphen (hgroup 16 4))) (.cons hhyphen (List.forall₂_drop 20 h))

theorem hasForm_ofBytes (bytes : Vector UInt8 16) : HasForm (ofBytes bytes) := by
  have hfront := fits_hexText (bytes.toList.take 6)
  have hback := fits_hexText (bytes.toList.drop 9)
  rw [List.length_take, Vector.length_toList] at hfront
  rw [List.length_drop, Vector.length_toList] at hback
  rw [HasForm, ofBytes, String.toList_ofList, ← grouped_digitForm, toList_stamp]
  apply fits_grouped
  simp only [hexText, List.flatMap_append, List.flatMap_cons, digitForm, List.append_assoc]
  exact List.rel_append hfront (List.rel_append (fits_version _) (List.rel_append
    (fits_hexPadded 2 _) (List.rel_append (fits_variant _) hback)))

def readBytes? (text : String) : Option (List UInt8) :=
  Text.readBytes? (text.toList.filter (· != '-'))

theorem filter_grouped {digits : List Char} (h : '-' ∉ digits) :
    (grouped digits).filter (· != '-') = digits := by
  have hpart : ∀ part : List Char, part ⊆ digits → part.filter (· != '-') = part := by
    intro part hpart
    apply List.filter_eq_self.mpr
    intro c hc
    have hne : c ≠ '-' := fun heq => h (heq ▸ hpart hc)
    simpa using hne
  have hgroup : ∀ start count, ((digits.drop start).take count).filter (· != '-') =
      (digits.drop start).take count :=
    fun start count => hpart _ fun _ hc => List.drop_subset _ _ (List.take_subset _ _ hc)
  have hjoin : ∀ start count, (digits.drop start).take count ++ digits.drop (start + count) =
      digits.drop start :=
    fun start count => by rw [← List.drop_drop, List.take_append_drop]
  simp only [grouped, List.filter_append, List.filter_cons, hgroup, bne_self_eq_false,
    Bool.false_eq_true, if_false, hpart _ (List.take_subset 8 digits),
    hpart _ (List.drop_subset 20 digits), List.append_assoc]
  rw [hjoin 16 4, hjoin 12 4, hjoin 8 4, List.take_append_drop]

theorem readBytes?_hexText (bytes : List UInt8) : Text.readBytes? (hexText bytes) = some bytes := by
  induction bytes with
  | nil => rfl
  | cons b rest ih =>
    have hread := Text.readHex?_hexPadded 2 b.toNat
    obtain ⟨high, low, hdigits⟩ : ∃ high low, Text.hexPadded 2 b.toNat = [high, low] :=
      ⟨_, _, rfl⟩
    rw [hdigits] at hread
    have htext : hexText (b :: rest) = high :: low :: hexText rest := by
      rw [hexText, List.flatMap_cons, hdigits]
      rfl
    simp [htext, Text.readBytes?, hread, ih]

theorem readBytes?_ofBytes (bytes : Vector UInt8 16) :
    readBytes? (ofBytes bytes) = some (stamp bytes).toList := by
  have hdigits : '-' ∉ hexText (stamp bytes).toList := by
    intro hmem
    obtain ⟨b, -, hmem⟩ := List.mem_flatMap.mp hmem
    exact absurd (Text.mem_lowerHexDigits_of_mem_hexPadded hmem) (by decide)
  rw [readBytes?, ofBytes, String.toList_ofList, filter_grouped hdigits, readBytes?_hexText]

theorem ofBytes_eq_iff_stamp : ofBytes bytes = ofBytes other ↔ stamp bytes = stamp other := by
  constructor
  · intro h
    have hread := readBytes?_ofBytes bytes
    rw [h, readBytes?_ofBytes other, Option.some.injEq] at hread
    exact (Vector.toList_inj.mp hread).symm
  · intro h
    rw [ofBytes, ofBytes, h]

/-- A bit of the bytes by its byte and its place in it, where the lowest place is 0. -/
abbrev Place := Fin 16 × Fin 8

def bit (bytes : Vector UInt8 16) (p : Place) : Bool :=
  bytes[p.1].toNat.testBit p.2

def versionBits : Finset Place := {(6, 4), (6, 5), (6, 6), (6, 7)}

def variantBits : Finset Place := {(8, 6), (8, 7)}

def freeBits : Finset Place := (versionBits ∪ variantBits)ᶜ

theorem card_freeBits : freeBits.card = 122 := by
  decide +kernel

def setBits : Finset Place := {(6, 6), (8, 7)}

def keptMask (i : Fin 16) : UInt8 :=
  if i = 6 then 0x0f else if i = 8 then 0x3f else 0xff

def setMask (i : Fin 16) : UInt8 :=
  if i = 6 then 0x40 else if i = 8 then 0x80 else 0

theorem getElem_stamp (bytes : Vector UInt8 16) (i : Fin 16) :
    (stamp bytes)[i] = (bytes[i] &&& keptMask i) ||| setMask i := by
  by_cases hversion : i = 6
  · subst hversion
    simp [stamp, keptMask, setMask]
  by_cases hvariant : i = 8
  · subst hvariant
    simp [stamp, keptMask, setMask]
  · have hkept : bytes[i.val] &&& 0xff = bytes[i.val] := UInt8.and_neg_one
    have hbefore : 6 ≠ i.val := fun heq => hversion (Fin.ext heq.symm)
    have hafter : 8 ≠ i.val := fun heq => hvariant (Fin.ext heq.symm)
    simp [stamp, keptMask, setMask, hversion, hvariant, hbefore, hafter, hkept]

theorem testBit_masks : ∀ p : Place,
    (keptMask p.1).toNat.testBit p.2 = decide (p ∈ freeBits) ∧
    (setMask p.1).toNat.testBit p.2 = decide (p ∈ setBits) ∧ (p ∈ freeBits → p ∉ setBits) := by
  decide +kernel

/-- Every bit is as it was drawn or has its forced value. -/
theorem bit_stamp (bytes : Vector UInt8 16) (p : Place) :
    bit (stamp bytes) p = if p ∈ freeBits then bit bytes p else decide (p ∈ setBits) := by
  obtain ⟨hkept, hset, hapart⟩ := testBit_masks p
  rw [bit, getElem_stamp, UInt8.toNat_or, UInt8.toNat_and, Nat.testBit_or, Nat.testBit_and, hkept,
    hset]
  by_cases hfree : p ∈ freeBits
  · simp [hfree, hapart hfree, bit]
  · simp [hfree]

theorem eq_of_bit (h : ∀ p, bit bytes p = bit other p) : bytes = other := by
  apply Vector.ext
  intro i hi
  apply UInt8.toNat_inj.mp
  apply Nat.eq_of_testBit_eq
  intro j
  by_cases hj : j < 8
  · exact h (⟨i, hi⟩, ⟨j, hj⟩)
  · have hlt : ∀ b : UInt8, b.toNat < 2 ^ j := fun b =>
      Nat.lt_of_lt_of_le b.toNat_lt (Nat.pow_le_pow_right (by decide) (by omega))
    rw [Nat.testBit_lt_two_pow (hlt _), Nat.testBit_lt_two_pow (hlt _)]

theorem stamp_eq_iff : stamp bytes = stamp other ↔ ∀ p ∈ freeBits, bit bytes p = bit other p := by
  constructor
  · intro h p hp
    have hbit := bit_stamp bytes p
    rw [h, bit_stamp other p, if_pos hp, if_pos hp] at hbit
    exact hbit.symm
  · intro h
    apply eq_of_bit
    intro p
    rw [bit_stamp, bit_stamp]
    split
    · next hp => exact h p hp
    · rfl

/-- An identifier has the form of 36 characters, and its digits are read back as bytes that hold
every bit that was drawn, but for the six that are forced. So two identifiers are equal exactly if
the other 122 bits that they were drawn with are. -/
theorem ofBytes_keeps_free_bits (bytes other : Vector UInt8 16) :
    HasForm (ofBytes bytes) ∧ (ofBytes bytes).length = 36 ∧
    (∃ read : Vector UInt8 16, readBytes? (ofBytes bytes) = some read.toList ∧
      ∀ p ∈ freeBits, bit read p = bit bytes p) ∧
    freeBits.card = 122 ∧
    (ofBytes bytes = ofBytes other ↔ ∀ p ∈ freeBits, bit bytes p = bit other p) := by
  have hform := hasForm_ofBytes bytes
  refine ⟨hform, hform.length, ⟨stamp bytes, readBytes?_ofBytes bytes, ?_⟩, card_freeBits,
    ofBytes_eq_iff_stamp.trans stamp_eq_iff⟩
  intro p hp
  rw [bit_stamp, if_pos hp]

end Identifier
end UsagePolicy
