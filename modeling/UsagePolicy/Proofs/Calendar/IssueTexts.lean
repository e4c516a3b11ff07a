import Mathlib.Data.List.Forall2
import UsagePolicy.Proofs.Calendar.DayNumbers
import UsagePolicy.Proofs.Calendar.ReadBack
import UsagePolicy.Proofs.Calendar.TextOrder

/-!
# Times of issue as texts

An agreement states its time of issue in universal time, cut to the millisecond. From the year 1000
on the text has the form that ISO 8601 gives to such a time, and is read back as the millisecond
that it was written for. In the years before, the year has fewer than four digits; the text is then
short of the zeros that would fill it up, but of nothing else. So two times of issue have the same
text exactly if they lie in the same millisecond, whatever the offsets of their clocks.
-/
namespace UsagePolicy

def startOfYear (year : Nat) : Int :=
  (daysBeforeYear year * Timestamp.microsecondsPerDay : Nat)

theorem Date.le_year_iff {d : Date} {year : Nat} (h : 1 ≤ year) :
    year ≤ d.year ↔ daysBeforeYear year ≤ d.dayNumber := by
  have hmonth := daysBeforeMonth_le_daysInYear d.year d.month_range.1 d.month_range.2
  have hday := d.day_range
  unfold dayNumber
  rcases Nat.lt_trichotomy year d.year with hlt | rfl | hlt
  · have := daysBeforeYear_le h hlt
    omega
  · omega
  · have := daysBeforeYear_le d.year_range.1 hlt
    omega

def TimeOfDay.wholeMillisecond (t : TimeOfDay) : TimeOfDay :=
  { t with microsecond := ⟨t.microsecond / 1000 * 1000, by omega⟩ }

namespace UniversalTime

theorem le_year_iff {u : UniversalTime} {year : Nat} (h : 1 ≤ year) :
    year ≤ u.date.year ↔ startOfYear year ≤ u.toTimestamp.instant := by
  have htime := microseconds_lt u.time
  rw [Date.le_year_iff h, instant_toTimestamp, startOfYear]
  unfold Timestamp.microsecondsPerDay at *
  omega

theorem instant_inj {u v : UniversalTime} :
    u.toTimestamp.instant = v.toTimestamp.instant ↔ u = v := by
  constructor
  · intro h
    have hu := ofInstant?_eq_some.mpr h
    rw [ofInstant?_eq_some.mpr rfl] at hu
    exact (Option.some.inj hu).symm
  · rintro rfl
    rfl

def wholeMillisecond (u : UniversalTime) : UniversalTime :=
  { u with time := u.time.wholeMillisecond }

theorem instant_wholeMillisecond (u : UniversalTime) :
    u.wholeMillisecond.toTimestamp.instant = u.toTimestamp.instant / 1000 * 1000 := by
  have hseconds : u.wholeMillisecond.seconds = u.seconds := rfl
  rw [instant_eq, instant_eq, hseconds]
  simp only [wholeMillisecond, TimeOfDay.wholeMillisecond]
  omega

/-- The text of a time of issue, given its year in writing. -/
def issuedChars (year : List Char) (u : UniversalTime) : List Char :=
  Timestamp.dateText year u.date ++ 'T' :: Timestamp.clockText u.time ++
    '.' :: Numeral.padded 3 (u.time.microsecond / 1000 : Nat) ++ ['Z']

theorem issuedChars_wholeMillisecond (year : List Char) (u : UniversalTime) :
    u.wholeMillisecond.issuedChars year = u.issuedChars year := by
  simp [issuedChars, wholeMillisecond, TimeOfDay.wholeMillisecond, Timestamp.clockText]

end UniversalTime

namespace Timestamp

open Numeral

/-- The form of a time of issue, with a zero for every digit. -/
def isoForm : List Char :=
  "0000-00-00T00:00:00.000Z".toList

/-- A digit fits a zero of the form, and otherwise only the character of the form itself does. -/
def Fits (c place : Char) : Prop :=
  if place = '0' then c.isDigit = true else c = place

def HasIsoForm (text : String) : Prop :=
  List.Forall₂ Fits text.toList isoForm

theorem HasIsoForm.length {text : String} (h : HasIsoForm text) : text.length = 24 := by
  rw [← String.length_toList, List.Forall₂.length_eq h]
  rfl

theorem fits_padded {width n : Nat} (hwidth : 0 < width) (h : n < 10 ^ width) :
    List.Forall₂ Fits (padded width n) (List.replicate width '0') := by
  have hlen := length_padded hwidth h
  rw [List.forall₂_iff_zip, List.length_replicate]
  refine ⟨hlen, fun {c place} hmem => ?_⟩
  obtain ⟨hc, hplace⟩ := List.of_mem_zip hmem
  rw [Fits, if_pos (List.eq_of_mem_replicate hplace)]
  exact isDigit_of_mem_padded hc

theorem fits_cons {c : Char} {cs form : List Char} (hc : c ≠ '0') (h : List.Forall₂ Fits cs form) :
    List.Forall₂ Fits (c :: cs) (c :: form) :=
  List.Forall₂.cons (by rw [Fits, if_neg hc]) h

theorem fits_dateText (d : Date) :
    List.Forall₂ Fits (dateText (padded 4 d.year) d) "0000-00-00".toList := by
  have hyear := d.year_range
  have hmonth := d.month_range
  have hday := d.day_range
  have hle := daysInMonth_le d.year d.month
  have hform : "0000-00-00".toList = List.replicate 4 '0' ++ '-' :: List.replicate 2 '0' ++
      '-' :: List.replicate 2 '0' := rfl
  rw [hform, dateText]
  refine List.rel_append (List.rel_append ?_ (fits_cons (by decide) ?_)) (fits_cons (by decide) ?_)
  all_goals exact fits_padded (by decide) (by omega)

theorem fits_clockText (t : TimeOfDay) :
    List.Forall₂ Fits (clockText t) "00:00:00".toList := by
  have hform : "00:00:00".toList = List.replicate 2 '0' ++ ':' :: List.replicate 2 '0' ++
      ':' :: List.replicate 2 '0' := rfl
  rw [hform, clockText]
  refine List.rel_append (List.rel_append ?_ (fits_cons (by decide) ?_)) (fits_cons (by decide) ?_)
  all_goals exact fits_padded (by decide) (by omega)

theorem hasIsoForm_issuedChars (u : UniversalTime) :
    HasIsoForm (String.ofList (u.issuedChars (padded 4 u.date.year))) := by
  have hform : isoForm = "0000-00-00".toList ++ 'T' :: "00:00:00".toList ++
      '.' :: List.replicate 3 '0' ++ ['Z'] := rfl
  rw [HasIsoForm, String.toList_ofList, hform]
  refine List.rel_append (List.rel_append (List.rel_append (fits_dateText u.date) ?_) ?_) ?_
  · exact fits_cons (by decide) (fits_clockText u.time)
  · exact fits_cons (by decide) (fits_padded (by decide) (by omega))
  · exact fits_cons (by decide) .nil

theorem readSeconds?_millisecond (t : TimeOfDay) :
    readSeconds? (':' :: (padded 2 t.second ++ '.' :: (padded 3 (t.microsecond / 1000 : Nat) ++
      ['Z']))) = some ((t.second.val, t.wholeMillisecond.microsecond.val), ['Z']) := by
  have hfraction := fraction_padded (show 0 < 3 by decide) (by decide)
    (show t.microsecond.val / 1000 < 10 ^ 3 by omega)
  rw [readSeconds?_fraction t.second.isLt (fun _ => isDigit_of_mem_padded) (padded_ne_nil _ _)
    (by simp), hfraction, Nat.mul_comm]
  rfl

theorem readText_issuedChars (u : UniversalTime) :
    readText (String.ofList (u.issuedChars (padded 4 u.date.year))) =
      .ok u.wholeMillisecond.toTimestamp := by
  have hfull := readFull?_of_parts u.date u.time (readSeconds?_millisecond u.time)
    (show readOffset? ['Z'] = some (some 0) from rfl)
  have hself : of? u.date.year u.date.month u.date.day u.time.hour u.time.minute u.time.second
      u.time.wholeMillisecond.microsecond (some 0) = some u.wholeMillisecond.toTimestamp :=
    of?_self u.wholeMillisecond.toTimestamp
  simp only [readText, String.toList_ofList, UniversalTime.issuedChars, List.append_assoc,
    List.cons_append, hfull, ofMoment, hself]

/-- The text is read as a timestamp in universal time that denotes the instant. -/
def ReadsAs (text : String) (instant : Int) : Prop :=
  ∃ t, readText text = .ok t ∧ t.offset = some .utc ∧ t.instant = instant

theorem readsAs_issuedChars (u : UniversalTime) :
    ReadsAs (String.ofList (u.issuedChars (padded 4 u.date.year)))
      (u.toTimestamp.instant / 1000 * 1000) :=
  ⟨_, readText_issuedChars u, rfl, u.instant_wholeMillisecond⟩

/-- The text with zeros in front, as many as it is short of the form. -/
def withFullYear (text : String) : String :=
  String.ofList (text.toList.leftpad 24 '0')

theorem length_issuedChars (year : List Char) (u : UniversalTime) :
    (u.issuedChars year).length = year.length + 20 := by
  have hmillisecond := length_padded (show 0 < 3 by decide)
    (show u.time.microsecond.val / 1000 < 10 ^ 3 by omega)
  simp only [UniversalTime.issuedChars, List.length_append, List.length_cons, List.length_nil,
    UniversalTime.length_dateText, UniversalTime.length_clockText, hmillisecond]

theorem ofNat_year_of_ge {year : Nat} (h : 1000 ≤ year) (hlast : year ≤ 9999) :
    ofNat year = padded 4 year := by
  have hlong : ¬ (ofNat year).length ≤ 3 := by
    rw [ofNat, Nat.length_toDigits_le_iff (by decide) (by decide)]
    omega
  rw [padded, Nat.sub_eq_zero_of_le (by omega)]
  rfl

theorem withFullYear_issuedChars (u : UniversalTime) :
    withFullYear (String.ofList (u.issuedChars (ofNat u.date.year))) =
      String.ofList (u.issuedChars (padded 4 u.date.year)) := by
  rw [withFullYear, String.toList_ofList, List.leftpad, length_issuedChars]
  simp [UniversalTime.issuedChars, dateText, padded]

theorem issuedText_eq_ok {t : Timestamp} {text : String} :
    t.issuedText = .ok text ↔ ∃ u : UniversalTime, u.toTimestamp.instant = t.instant ∧
      String.ofList (u.issuedChars (ofNat u.date.year)) = text := by
  rw [issuedText]
  constructor
  · intro h
    cases hu : t.toUniversal with
    | error _ =>
      rw [hu] at h
      cases h
    | ok u =>
      rw [hu] at h
      exact ⟨u, toUniversal_eq_ok.mp hu, Except.ok.inj h⟩
  · rintro ⟨u, hu, rfl⟩
    rw [toUniversal_eq_ok.mpr hu]
    rfl

/-- From the year 1000 on a time of issue is written in the form of ISO 8601. Before, it is that
form but for the zeros in front. -/
theorem issuedText_is_iso {t : Timestamp} {text : String} (h : t.issuedText = .ok text) :
    (startOfYear 1000 ≤ t.instant →
      HasIsoForm text ∧ ReadsAs text (t.instant / 1000 * 1000)) ∧
    (t.instant < startOfYear 1000 →
      text.length < 24 ∧ HasIsoForm (withFullYear text) ∧
        ReadsAs (withFullYear text) (t.instant / 1000 * 1000)) := by
  obtain ⟨u, hu, rfl⟩ := issuedText_eq_ok.mp h
  have hyear : 1000 ≤ u.date.year ↔ _ := u.le_year_iff (by decide)
  rw [← hu]
  constructor
  · intro hlate
    rw [ofNat_year_of_ge (hyear.mpr hlate) u.date.year_range.2]
    exact ⟨hasIsoForm_issuedChars u, readsAs_issuedChars u⟩
  · intro hearly
    have hlt : u.date.year < 10 ^ 3 := by omega
    have hshort := length_ofNat_le (show 0 < 3 by decide) hlt
    refine ⟨?_, ?_⟩
    · rw [String.length_ofList, length_issuedChars]
      omega
    · rw [withFullYear_issuedChars]
      exact ⟨hasIsoForm_issuedChars u, readsAs_issuedChars u⟩

/-- Half a minute before the year 2024, in a zone that is a minute and a half behind. -/
theorem issuedText_is_iso_new_year :
    let t : Timestamp :=
      ⟨⟨2023, 12, 31, by decide, by decide⟩, ⟨23, 59, 30, 999999⟩, some ⟨-90, by decide⟩⟩
    t.issuedText = .ok "2024-01-01T00:01:00.999Z" ∧ startOfYear 1000 ≤ t.instant ∧
      HasIsoForm "2024-01-01T00:01:00.999Z" ∧
      ReadsAs "2024-01-01T00:01:00.999Z" (t.instant / 1000 * 1000) := by
  intro t
  have htext : t.issuedText = .ok "2024-01-01T00:01:00.999Z" := by decide +kernel
  have hlate : startOfYear 1000 ≤ t.instant := by decide
  exact ⟨htext, hlate, (issuedText_is_iso htext).1 hlate⟩

/-- Half an hour into the year 1000, in a zone that is an hour ahead: the time of issue lies in the
year 999, and its text does not have four digits for it. -/
theorem year_999_has_three_digits :
    let t : Timestamp :=
      ⟨⟨1000, 1, 1, by decide, by decide⟩, ⟨0, 30, 0, 0⟩, some ⟨3600, by decide⟩⟩
    ∃ text, t.issuedText = .ok text ∧ text = "999-12-31T23:30:00.000Z" ∧ text.length ≠ 24 ∧
      ¬ HasIsoForm text := by
  intro t
  have hlen : "999-12-31T23:30:00.000Z".length ≠ 24 := by decide
  exact ⟨_, by decide +kernel, rfl, hlen, fun h => hlen h.length⟩

/-- Texts of times of issue tell milliseconds apart, and nothing else. There is one exactly within
the calendar. -/
theorem issuedText_identifies_milliseconds (t : Timestamp) :
    (t.issuedText = .error {} ↔ ¬ (startOfYear 1 ≤ t.instant ∧ t.instant < startOfYear 10000)) ∧
    ∀ {u : Timestamp} {text text' : String}, t.issuedText = .ok text → u.issuedText = .ok text' →
      (text = text' ↔ t.instant / 1000 = u.instant / 1000) := by
  constructor
  · change _ ↔ ¬ t.InCalendar
    rcases t.issuedText_cases with ⟨hin, text, h⟩ | ⟨hout, h⟩
    · simp [h, hin]
    · simp [h, hout]
  · intro u text text' htext htext'
    obtain ⟨v, hv, rfl⟩ := issuedText_eq_ok.mp htext
    obtain ⟨w, hw, rfl⟩ := issuedText_eq_ok.mp htext'
    have hcut : v.wholeMillisecond = w.wholeMillisecond ↔ t.instant / 1000 = u.instant / 1000 := by
      rw [← UniversalTime.instant_inj, UniversalTime.instant_wholeMillisecond,
        UniversalTime.instant_wholeMillisecond, hv, hw]
      omega
    rw [← hcut]
    constructor
    · intro heq
      have hread := congrArg (fun text => readText (withFullYear text)) heq
      simp only [withFullYear_issuedChars, readText_issuedChars, Except.ok.injEq] at hread
      exact UniversalTime.instant_inj.mp (congrArg Timestamp.instant hread)
    · intro heq
      have hdate : v.date.year = w.date.year := congrArg (fun u => u.date.year) heq
      rw [← UniversalTime.issuedChars_wholeMillisecond, heq, hdate,
        UniversalTime.issuedChars_wholeMillisecond]

/-- An afternoon of a leap day without a zone and the next morning of a zone eleven hours ahead. -/
theorem issuedText_identifies_leap_day :
    let t : Timestamp := ⟨⟨2024, 2, 29, by decide, by decide⟩, ⟨15, 0, 0, 7123⟩, none⟩
    let u : Timestamp :=
      ⟨⟨2024, 3, 1, by decide, by decide⟩, ⟨2, 0, 0, 7999⟩, some ⟨39600, by decide⟩⟩
    ∃ text text', t.issuedText = .ok text ∧ u.issuedText = .ok text' ∧ text = text' := by
  intro t u
  have ht : t.issuedText = .ok "2024-02-29T15:00:00.007Z" := by decide +kernel
  have hu : u.issuedText = .ok "2024-02-29T15:00:00.007Z" := by decide +kernel
  exact ⟨_, _, ht, hu, ((issuedText_identifies_milliseconds t).2 ht hu).mpr (by decide)⟩

end Timestamp
end UsagePolicy
