import Mathlib.Data.List.Basic
import UsagePolicy.Proofs.Calendar.Order
import UsagePolicy.Proofs.Number.Digits
import UsagePolicy.Calendar.Reading

/-!
# Timestamps read back

The interchange form of a timestamp whose offset is a whole count of minutes is read as that very
timestamp: each field of fixed width is read with its own value, and a fraction that is left out
stands for zero.
-/
namespace UsagePolicy

theorem length_le_utf8ByteSize (cs : List Char) :
    cs.length ≤ (String.ofList cs).utf8ByteSize := by
  induction cs with
  | nil => simp
  | cons c cs ih =>
    have happend : String.ofList (c :: cs) = String.singleton c ++ String.ofList cs := by
      rw [String.singleton_eq_ofList, ← String.ofList_append]
      rfl
    have hpos := c.utf8Size_pos
    rw [happend, String.utf8ByteSize_append, String.utf8ByteSize_singleton, List.length_cons]
    omega

def Offset.IsWholeMinutes (offset : Offset) : Prop :=
  offset.seconds % 60 = 0

theorem UniversalTime.isWholeMinutes (t : UniversalTime) :
    ∀ o ∈ t.toTimestamp.offset, o.IsWholeMinutes := by
  rintro o ⟨⟩
  rfl

namespace Timestamp

theorem twoDigits?_of_isDigit {a b : Char} (ha : a.isDigit = true) (hb : b.isDigit = true) :
    twoDigits? a b = some (Numeral.value [a, b]) := by
  simp [twoDigits?, digit?, ha, hb, Numeral.value_cons]

theorem fourDigits?_of_isDigit {a b c d : Char} (ha : a.isDigit = true) (hb : b.isDigit = true)
    (hc : c.isDigit = true) (hd : d.isDigit = true) :
    fourDigits? a b c d = some (Numeral.value [a, b, c, d]) := by
  simp [fourDigits?, twoDigits?_of_isDigit, ha, hb, hc, hd, Numeral.value_cons]
  omega

theorem padded_two {n : Nat} (h : n < 100) :
    ∃ a b, Numeral.padded 2 n = [a, b] ∧ twoDigits? a b = some n := by
  obtain ⟨a, b, hab⟩ := List.length_eq_two.mp (Numeral.length_padded (by decide) h)
  have hdigit : ∀ c ∈ [a, b], c.isDigit = true := by
    rw [← hab]
    intro c
    exact Numeral.isDigit_of_mem_padded
  refine ⟨a, b, hab, ?_⟩
  rw [twoDigits?_of_isDigit (hdigit a (by simp)) (hdigit b (by simp)), ← hab,
    Numeral.value_padded]

theorem padded_four {n : Nat} (h : n < 10000) :
    ∃ a b c d, Numeral.padded 4 n = [a, b, c, d] ∧ fourDigits? a b c d = some n := by
  have hlen := Numeral.length_padded (show 0 < 4 by decide) h
  obtain ⟨a, _, habcd⟩ := List.exists_cons_of_length_eq_add_one hlen
  obtain ⟨b, c, d, rfl⟩ := List.length_eq_three.mp (by simpa [habcd] using hlen)
  have hdigit : ∀ x ∈ [a, b, c, d], x.isDigit = true := by
    rw [← habcd]
    intro x
    exact Numeral.isDigit_of_mem_padded
  refine ⟨a, b, c, d, habcd, ?_⟩
  rw [fourDigits?_of_isDigit (hdigit a (by simp)) (hdigit b (by simp)) (hdigit c (by simp))
    (hdigit d (by simp)), ← habcd, Numeral.value_padded]

theorem leadingDate_dateText (d : Date) (rest : List Char) :
    leadingDate (dateText (Numeral.padded 4 d.year) d ++ rest) =
      .ok ((d.year, d.month, d.day), rest) := by
  obtain ⟨y₁, y₂, y₃, y₄, hyear, hy⟩ := padded_four (n := d.year) (by have := d.year_range; omega)
  have hmonths := d.month_range
  have hdays := d.day_range
  have hle := daysInMonth_le d.year d.month
  obtain ⟨m₁, m₂, hmonth, hm⟩ := padded_two (n := d.month) (by omega)
  obtain ⟨d₁, d₂, hday, hd⟩ := padded_two (n := d.day) (by omega)
  have hlen := length_le_utf8ByteSize (dateText (Numeral.padded 4 d.year) d ++ rest)
  have hcheck : checkDay d.year d.month d.day = .ok (d.year, d.month, d.day) := by
    simp only [checkDay, Bool.or_eq_true, decide_eq_true_eq]
    rw [if_neg (by omega), if_neg (by omega)]
  simp only [dateText, hyear, hmonth, hday, List.cons_append, List.nil_append] at hlen ⊢
  simp only [leadingDate]
  rw [if_neg (by simp only [List.length_cons] at hlen; omega)]
  simp only [hy, hm, hd, hcheck, Except.map]

/-- Nothing of the text could still belong to a fraction of seconds. -/
def EndsFraction (rest : List Char) : Prop :=
  ∀ c ∈ rest.head?, c ≠ '.' ∧ c ≠ ',' ∧ c.isDigit = false

theorem fraction_padded {width n : Nat} (hwidth : 0 < width) (hle : width ≤ 6)
    (h : n < 10 ^ width) : fraction (Numeral.padded width n) = 10 ^ (6 - width) * n := by
  have hlen := Numeral.length_padded hwidth h
  have htake : (Numeral.padded width n ++ List.replicate 6 '0').take 6 =
      Numeral.padded width n ++ List.replicate (6 - width) '0' := by
    rw [List.take_append, hlen, List.take_of_length_le (by omega), List.take_replicate,
      Nat.min_eq_left (by omega)]
  rw [fraction, htake, Numeral.value_append_zeros, Numeral.value_padded]

theorem readSeconds?_fraction {second : Nat} (hsecond : second < 60) {digits rest : List Char}
    (hdigits : ∀ c ∈ digits, c.isDigit = true) (hne : digits ≠ [])
    (hrest : ∀ c ∈ rest.head?, c.isDigit = false) :
    readSeconds? (':' :: (Numeral.padded 2 second ++ '.' :: (digits ++ rest))) =
      some ((second, fraction digits), rest) := by
  obtain ⟨a, b, hab, hs⟩ := padded_two (n := second) (by omega)
  obtain ⟨htake, hdrop⟩ := Numeral.span_isDigit_append hdigits hrest
  rw [hab]
  simp [readSeconds?, hs, htake, hdrop, hne]
  omega

theorem readSeconds?_text (time : TimeOfDay) {rest : List Char} (hrest : EndsFraction rest) :
    readSeconds? (':' :: (Numeral.padded 2 time.second ++
      ((if time.microsecond = 0 then [] else '.' :: Numeral.padded 6 time.microsecond) ++ rest))) =
      some ((time.second.val, time.microsecond.val), rest) := by
  have hlt := time.second.isLt
  by_cases hzero : time.microsecond = 0
  · obtain ⟨a, b, hsecond, hs⟩ := padded_two (n := time.second) (by omega)
    rw [hsecond]
    cases rest with
    | nil =>
      simp [readSeconds?, hs, hzero]
      omega
    | cons c rest =>
      obtain ⟨hdot, hcomma, -⟩ := hrest c (by simp)
      simp [readSeconds?, hs, hzero, hdot, hcomma]
      omega
  · have hfraction := fraction_padded (by decide) (Nat.le_refl 6) time.microsecond.isLt
    rw [if_neg hzero, List.cons_append, readSeconds?_fraction hlt
      (fun _ => Numeral.isDigit_of_mem_padded) (Numeral.padded_ne_nil _ _)
      (fun c hc => (hrest c hc).2.2), hfraction]
    simp

theorem endsFraction_offset (offset : Option Offset) :
    EndsFraction (offset.elim [] offsetText) := by
  cases offset with
  | none => simp [EndsFraction]
  | some o =>
    simp only [Option.elim, offsetText, EndsFraction]
    split_ifs <;> simp

theorem readOffset?_text {offset : Option Offset} (h : ∀ o ∈ offset, o.IsWholeMinutes) :
    readOffset? (offset.elim [] offsetText) = some (offset.map Offset.seconds) := by
  cases offset with
  | none => rfl
  | some o =>
    have hwhole : o.seconds % 60 = 0 := h o rfl
    have hrange := o.range
    simp only [Option.elim, offsetText, Option.map_some]
    split_ifs with hzero hneg
    · rw [hzero]
      rfl
    · generalize hn : o.seconds.natAbs = n
      obtain ⟨a, b, hab, hhours⟩ := padded_two (n := n / 60 / 60) (by omega)
      obtain ⟨c, d, hcd, hminutes⟩ := padded_two (n := n / 60 % 60) (by omega)
      simp [readOffset?, hab, hcd, hhours, hminutes, Numeral.signed]
      omega
    · generalize hn : o.seconds.natAbs = n
      obtain ⟨a, b, hab, hhours⟩ := padded_two (n := n / 60 / 60) (by omega)
      obtain ⟨c, d, hcd, hminutes⟩ := padded_two (n := n / 60 % 60) (by omega)
      simp [readOffset?, hab, hcd, hhours, hminutes, Numeral.signed]
      omega

theorem of?_self (t : Timestamp) :
    of? t.date.year t.date.month t.date.day t.time.hour t.time.minute t.time.second
      t.time.microsecond (t.offset.map Offset.seconds) = some t := by
  obtain ⟨date, ⟨hour, minute, second, microsecond⟩, offset⟩ := t
  cases offset with
  | none => simp [of?, Date.of?_self]
  | some o => simp [of?, Date.of?_self, Offset.of?, o.range]

theorem readFull?_of_parts (d : Date) (time : TimeOfDay) {tail rest : List Char}
    {microsecond : Nat} {offset : Option Int}
    (hseconds : readSeconds? (':' :: (Numeral.padded 2 time.second ++ tail)) =
      some ((time.second.val, microsecond), rest))
    (hoffset : readOffset? rest = some offset) :
    readFull? (dateText (Numeral.padded 4 d.year) d ++ 'T' :: (clockText time ++ tail)) =
      some ⟨d.year, d.month, d.day, time.hour, time.minute, time.second, microsecond, offset⟩ := by
  have hhour := time.hour.isLt
  have hminute := time.minute.isLt
  obtain ⟨a, b, hab, hh⟩ := padded_two (n := time.hour) (by omega)
  obtain ⟨c, e, hce, hm⟩ := padded_two (n := time.minute) (by omega)
  simp only [readFull?, leadingDate_dateText, clockText, hab, hce, List.cons_append,
    List.nil_append]
  simp [hh, hm, hseconds, hoffset]

/-- The interchange form denotes the timestamp that it was written from. -/
theorem readText_interchangeText {t : Timestamp} (h : ∀ o ∈ t.offset, o.IsWholeMinutes) :
    readText (String.ofList t.interchangeText) = .ok t := by
  have hfull := readFull?_of_parts t.date t.time
    (readSeconds?_text t.time (endsFraction_offset t.offset)) (readOffset?_text h)
  simp only [readText, String.toList_ofList, interchangeText, List.append_assoc,
    List.cons_append, hfull, ofMoment, of?_self]

end Timestamp
end UsagePolicy
