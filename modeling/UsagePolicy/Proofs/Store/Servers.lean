import UsagePolicy.Proofs.Store.PolicyIds
import UsagePolicy.Store.Session

/-!
# Databases

A database that has all that is asked of one: it numbers the ids that it gives out, lists policies
created at one time in the order of their insertion, and enters arrays. Its driver reads the digits
of an id in pairs and skips blanks between them, so that it accepts texts that are no ids.
-/
namespace UsagePolicy

namespace PolicyId

/-- The digits of a text in which blanks may stand before, between and after pairs of digits. -/
def pairedDigits? : List Char → Option (List Char)
  | [] => some []
  | c :: rest =>
    if isFiller c then pairedDigits? rest
    else
      match rest with
      | [] => none
      | d :: rest => (pairedDigits? rest).map fun digits => c :: d :: digits

/-- The id that pairs of digits denote. Where blanks have left less than 24 of them, it is one that
no policy is stored under. -/
def ofDigits? (digits : List Char) : Option PolicyId :=
  (Text.readHex? digits).map fun n =>
    if digits.length = 24 then ⟨n⟩ else ⟨0x1000000000000000000000000 + n⟩

/-- The id that 24 characters denote if blanks between the digits are skipped. -/
def ofSpacedText? (text : String) : Option PolicyId :=
  if text.length = 24 then (pairedDigits? text.toList).bind ofDigits? else none

theorem mem_of_pairedDigits? {cs digits : List Char} (h : pairedDigits? cs = some digits)
    {c : Char} (hc : c ∈ cs) (hfiller : isFiller c = false) : c ∈ digits := by
  fun_induction pairedDigits? cs generalizing digits with
  | case1 => cases hc
  | case2 b rest hb ih =>
    rcases List.mem_cons.mp hc with rfl | hc
    · rw [hb] at hfiller
      cases hfiller
    · exact ih h hc
  | case3 => cases h
  | case4 b hb d rest ih =>
    obtain ⟨tail, htail, rfl⟩ := Option.map_eq_some_iff.mp h
    simp only [List.mem_cons] at hc ⊢
    rcases hc with rfl | rfl | hc
    · exact Or.inl rfl
    · exact Or.inr (Or.inl rfl)
    · exact Or.inr (Or.inr (ih htail hc))

theorem pairedDigits?_of_no_filler {cs : List Char} (h : ∀ c ∈ cs, isFiller c = false)
    (heven : cs.length % 2 = 0) : pairedDigits? cs = some cs := by
  fun_induction pairedDigits? cs with
  | case1 => rfl
  | case2 b rest hb =>
    rw [h b List.mem_cons_self] at hb
    cases hb
  | case3 => cases heven
  | case4 b hb d rest ih =>
    have htail : rest.length % 2 = 0 := by
      simp only [List.length_cons] at heven
      omega
    rw [ih (fun c hc => h c (List.mem_cons_of_mem _ (List.mem_cons_of_mem _ hc))) htail]
    rfl

theorem isFiller_of_mem_hexDigits {c : Char} (h : c ∈ Text.hexDigits) : isFiller c = false := by
  have hall : Text.hexDigits.all (fun c => !isFiller c) = true := by decide
  simpa using List.all_eq_true.mp hall c h

/-- Blanks stand among the hexadecimal digits of a text of 24 characters. -/
def IsSpaced (text : String) : Prop :=
  text.length = 24 ∧ (∀ c ∈ text.toList, c ∈ Text.hexDigits ∨ isFiller c = true) ∧
    ∃ c ∈ text.toList, isFiller c = true

instance (text : String) : Decidable (IsSpaced text) :=
  @instDecidableAnd _ _ _ (@instDecidableAnd _ _ (List.decidableBAll _ text.toList)
    (List.decidableBEx _ text.toList))

theorem not_isSpaced_of_isText {text : String} (h : IsText text) : ¬ IsSpaced text := by
  rintro ⟨-, -, c, hc, hfiller⟩
  rw [isFiller_of_mem_hexDigits (h.2 c hc)] at hfiller
  cases hfiller

end PolicyId

namespace Server

theorem ReadsIds.readId_of_isText {server : Server} (h : server.ReadsIds) {text : String}
    (htext : PolicyId.IsText text) : server.readId text = PolicyId.ofText? text := by
  cases hid : PolicyId.ofText? text with
  | none => exact absurd htext (PolicyId.ofText?_eq_none_iff.mp hid)
  | some id => exact h.digits text id hid

/-- A text without blanks among its digits is refused exactly if it is no id. -/
theorem ReadsIds.readId_eq_none_iff {server : Server} (h : server.ReadsIds) {text : String}
    (hspaced : ¬ PolicyId.IsSpaced text) :
    server.readId text = none ↔ ¬ PolicyId.IsText text := by
  constructor
  · intro hnone htext
    rw [h.readId_of_isText htext, PolicyId.ofText?_eq_none_iff] at hnone
    exact hnone htext
  · intro htext
    by_cases hlength : text.length = 24
    · obtain ⟨b, hb, hhex⟩ : ∃ b ∈ text.toList, b ∉ Text.hexDigits := by
        simpa [PolicyId.IsText, hlength] using htext
      by_cases hother : ∃ c ∈ text.toList, c ∉ Text.hexDigits ∧ PolicyId.isFiller c = false
      · obtain ⟨c, hc, hhex, hfiller⟩ := hother
        rw [← Text.hexValue?_isSome_iff] at hhex
        exact h.characters text c hc (by simpa using hhex) hfiller
      · have hchars : ∀ c ∈ text.toList, c ∉ Text.hexDigits → PolicyId.isFiller c = true := by
          simpa using hother
        have hall : ∀ c ∈ text.toList, c ∈ Text.hexDigits ∨ PolicyId.isFiller c = true :=
          fun c hc => Decidable.or_iff_not_imp_left.mpr (hchars c hc)
        exact absurd ⟨hlength, hall, b, hb, hchars b hb hhex⟩ hspaced
    · exact h.length text hlength

/-- A database with this first id. -/
def counting (first : Nat) : Server where
  policyId inserted := ⟨first + inserted⟩
  readId := PolicyId.ofSpacedText?
  order := .stable
  arrays := true
  sizeFault? _ := none

theorem freshIds_counting (first : Nat) : (counting first).FreshIds := by
  intro m n h
  simp only [counting, PolicyId.mk.injEq] at h
  omega

theorem readsIds_counting (first : Nat) : (counting first).ReadsIds where
  digits text id h := by
    obtain ⟨hlength, hdigits⟩ := PolicyId.isText_of_ofText? h
    have hpaired : PolicyId.pairedDigits? text.toList = some text.toList :=
      PolicyId.pairedDigits?_of_no_filler
        (fun c hc => PolicyId.isFiller_of_mem_hexDigits (hdigits c hc))
        (by rw [String.length_toList, hlength])
    rw [PolicyId.ofText?, if_pos hlength] at h
    simp only [counting, PolicyId.ofSpacedText?, if_pos hlength, hpaired, Option.bind_some,
      PolicyId.ofDigits?, String.length_toList]
    exact h
  length text h := by
    simp [counting, PolicyId.ofSpacedText?, h]
  characters text c hc hhex hfiller := by
    simp only [counting, PolicyId.ofSpacedText?]
    split
    · cases hpaired : PolicyId.pairedDigits? text.toList with
      | none => rfl
      | some digits =>
        have hmem := PolicyId.mem_of_pairedDigits? hpaired hc hfiller
        have hnone : Text.readHex? digits = none := by
          rw [Text.readHex?_eq, ← Option.not_isSome_iff_eq_none,
            Text.foldlM_shiftHex?_isSome_iff]
          intro hall
          have hsome := Text.hexValue?_isSome_iff.mpr (hall c hmem)
          rw [Option.isNone_iff_eq_none.mp hhex] at hsome
          cases hsome
        simp [PolicyId.ofDigits?, hnone]
    · rfl

end Server
end UsagePolicy
