import UsagePolicy.Proofs.Calendar.Order
import UsagePolicy.Proofs.Number.Digits

/-!
# The order of timestamps as texts

Interchange forms in universal time compare as texts by their whole seconds. Within one second the
form without a fraction comes last, since the fraction of zero is left out and a letter follows
where the others have a point; the rest are in the order of their fractions. The order of texts is
therefore not that of the instants.
-/
namespace UsagePolicy

theorem append_lt_append_iff {as bs cs ds : List Char} (h : as.length = bs.length) :
    as ++ cs < bs ++ ds ↔ as < bs ∨ as = bs ∧ cs < ds := by
  induction as generalizing bs with
  | nil =>
    obtain rfl := List.length_eq_zero_iff.mp h.symm
    simp
  | cons a as ih =>
    obtain ⟨b, bs, rfl⟩ := List.exists_cons_of_length_eq_add_one h.symm
    simp only [List.cons_append, List.cons_lt_cons_iff, List.cons.injEq,
      ih (by simpa using h)]
    tauto

theorem text_inj {α : Type} {text : α → List Char} {number : α → Nat}
    (h : ∀ a b, text a < text b ↔ number a < number b) {a b : α} :
    text a = text b ↔ number a = number b := by
  have hlt := h a b
  have hgt := h b a
  constructor
  · intro heq
    rw [heq] at hlt hgt
    have hirrefl := List.lt_irrefl (text b)
    have := mt hlt.mpr hirrefl
    have := mt hgt.mpr hirrefl
    omega
  · intro heq
    apply List.le_antisymm
    · exact fun hba => by have := hgt.mp hba; omega
    · exact fun hab => by have := hlt.mp hab; omega

namespace UniversalTime

open Numeral

def secondText (t : UniversalTime) : List Char :=
  Timestamp.dateText (padded 4 t.date.year) t.date ++ 'T' :: Timestamp.clockText t.time

def fractionText (t : UniversalTime) : List Char :=
  (if t.time.microsecond.val = 0 then [] else '.' :: padded 6 t.time.microsecond) ++ ['Z']

theorem interchangeText_eq (t : UniversalTime) :
    t.toTimestamp.interchangeText = t.secondText ++ t.fractionText := by
  simp only [Timestamp.interchangeText, secondText, fractionText, toTimestamp, List.append_assoc,
    Fin.ext_iff, Fin.val_zero]
  rfl

theorem dateText_lt_iff (d e : Date) :
    Timestamp.dateText (padded 4 d.year) d < Timestamp.dateText (padded 4 e.year) e ↔
      d.dayNumber < e.dayNumber := by
  have hyear := d.year_range
  have hyear' := e.year_range
  have hmonth := d.month_range
  have hmonth' := e.month_range
  have hday := d.day_range
  have hday' := e.day_range
  have hle := daysInMonth_le d.year d.month
  have hle' := daysInMonth_le e.year e.month
  have hlen : ∀ {n}, n < 100 → (padded 2 n).length = 2 := fun h => length_padded (by decide) h
  have hlt : ∀ {m n}, m < 100 → n < 100 → (padded 2 m < padded 2 n ↔ m < n) :=
    fun hm hn => padded_lt_padded_iff (by decide) hm hn
  rw [Date.dayNumber_lt_iff]
  simp only [Timestamp.dateText, List.cons_append, List.append_assoc]
  rw [append_lt_append_iff, List.cons_lt_cons_self, append_lt_append_iff, List.cons_lt_cons_self,
    padded_lt_padded_iff (by decide) (by omega) (by omega), hlt (by omega) (by omega),
    hlt (by omega) (by omega), padded_inj, padded_inj]
  · rw [hlen (by omega), hlen (by omega)]
  · rw [length_padded (by decide) (by omega), length_padded (by decide) (by omega)]

theorem clockText_lt_iff (t u : TimeOfDay) :
    Timestamp.clockText t < Timestamp.clockText u ↔ t.seconds < u.seconds := by
  have hlen : ∀ {n}, n < 60 → (padded 2 n).length = 2 :=
    fun h => length_padded (by decide) (by omega)
  have hlt : ∀ {m n}, m < 60 → n < 60 → (padded 2 m < padded 2 n ↔ m < n) :=
    fun hm hn => padded_lt_padded_iff (by decide) (by omega) (by omega)
  obtain ⟨⟨h, hh⟩, ⟨m, hm⟩, ⟨s, hs⟩, _⟩ := t
  obtain ⟨⟨h', hh'⟩, ⟨m', hm'⟩, ⟨s', hs'⟩, _⟩ := u
  have hh := hh.trans (show 24 < 60 by decide)
  have hh' := hh'.trans (show 24 < 60 by decide)
  rw [TimeOfDay.seconds_lt_iff]
  simp only [Timestamp.clockText, List.cons_append, List.append_assoc]
  rw [append_lt_append_iff (by rw [hlen hh, hlen hh']), List.cons_lt_cons_self,
    append_lt_append_iff (by rw [hlen hm, hlen hm']), List.cons_lt_cons_self, hlt hh hh',
    hlt hm hm', hlt hs hs', padded_inj, padded_inj]

theorem length_fullYear (d : Date) : (padded 4 d.year).length = 4 := by
  have hyear := d.year_range
  exact length_padded (by decide) (by omega)

theorem length_dateText (year : List Char) (d : Date) :
    (Timestamp.dateText year d).length = year.length + 6 := by
  have hmonth := d.month_range
  have hday := d.day_range
  have hle := daysInMonth_le d.year d.month
  simp only [Timestamp.dateText, List.length_append, List.length_cons]
  rw [length_padded (by decide) (by omega), length_padded (by decide) (by omega)]

theorem length_clockText (t : TimeOfDay) : (Timestamp.clockText t).length = 8 := by
  simp only [Timestamp.clockText, List.length_append, List.length_cons]
  rw [length_padded (by decide) (by omega), length_padded (by decide) (by omega),
    length_padded (by decide) (by omega)]

theorem secondText_lt_iff (t u : UniversalTime) :
    t.secondText < u.secondText ↔ t.seconds < u.seconds := by
  rw [secondText, secondText,
    append_lt_append_iff (by simp only [length_dateText, length_fullYear]),
    List.cons_lt_cons_self, dateText_lt_iff, text_inj dateText_lt_iff, clockText_lt_iff,
    seconds_lt_seconds_iff]

theorem length_secondText (t : UniversalTime) : t.secondText.length = 19 := by
  simp [secondText, length_dateText, length_fullYear, length_clockText]

theorem fractionText_lt_iff {t u : UniversalTime} : t.fractionText < u.fractionText ↔
    t.time.microsecond.val ≠ 0 ∧
      (u.time.microsecond.val = 0 ∨ t.time.microsecond.val < u.time.microsecond.val) := by
  have ht := t.time.microsecond.isLt
  have hu := u.time.microsecond.isLt
  have hlen : (padded 6 t.time.microsecond).length = (padded 6 u.time.microsecond).length := by
    rw [length_padded (by decide) ht, length_padded (by decide) hu]
  unfold fractionText
  split_ifs with h h' h'
  · simp [h]
  · simp [h, List.cons_lt_cons_iff]
  · simp [h, h', List.cons_lt_cons_iff]
  · rw [List.cons_append, List.cons_append, List.cons_lt_cons_self, append_lt_append_iff hlen,
      padded_lt_padded_iff (by decide) ht hu]
    simp [h, h']

/-- The interchange form is later as a text: the second is later, or in one second the fraction is
written later. -/
theorem interchangeText_lt_iff (t u : UniversalTime) :
    t.toTimestamp.interchangeText < u.toTimestamp.interchangeText ↔
      t.seconds < u.seconds ∨ t.seconds = u.seconds ∧ t.time.microsecond.val ≠ 0 ∧
        (u.time.microsecond.val = 0 ∨ t.time.microsecond.val < u.time.microsecond.val) := by
  rw [interchangeText_eq, interchangeText_eq,
    append_lt_append_iff (by rw [length_secondText, length_secondText]), secondText_lt_iff,
    text_inj secondText_lt_iff, fractionText_lt_iff]

end UniversalTime
end UsagePolicy
