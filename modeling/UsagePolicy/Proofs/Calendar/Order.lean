import Mathlib.Tactic.Ring
import UsagePolicy.Calendar.Timestamp

/-!
# The order of dates and times

Day numbers count the dates in the order of year, month and day without a gap between years or
months, and instants in universal time count microseconds in the order of date and time of day.
-/
namespace UsagePolicy

def daysInYear (year : Nat) : Nat :=
  if isLeapYear year then 366 else 365

theorem isLeapYear_iff {year : Nat} :
    isLeapYear year = true ↔ 4 ∣ year ∧ (¬ 100 ∣ year ∨ 400 ∣ year) := by
  simp [isLeapYear, Nat.dvd_iff_mod_eq_zero]

theorem daysBeforeYear_succ {year : Nat} (h : 1 ≤ year) :
    daysBeforeYear (year + 1) = daysBeforeYear year + daysInYear year := by
  obtain ⟨past, rfl⟩ : ∃ past, year = past + 1 := ⟨year - 1, by omega⟩
  have h100 : 100 ∣ past + 1 → 4 ∣ past + 1 := Dvd.dvd.trans (by decide)
  have h400 : 400 ∣ past + 1 → 100 ∣ past + 1 := Dvd.dvd.trans (by decide)
  have hle : past / 100 ≤ past / 4 := Nat.div_le_div_left (by decide) (by decide)
  simp only [daysBeforeYear, daysInYear, isLeapYear_iff, Nat.add_sub_cancel, Nat.succ_div]
  generalize past / 4 = leaps at *
  generalize past / 100 = centuries at *
  split_ifs <;> omega

theorem daysBeforeYear_le {year other : Nat} (h : 1 ≤ year) (hlt : year < other) :
    daysBeforeYear year + daysInYear year ≤ daysBeforeYear other := by
  induction other with
  | zero => omega
  | succ other ih =>
    rcases Nat.lt_succ_iff_lt_or_eq.mp hlt with hlt' | rfl
    · have := ih hlt'
      rw [daysBeforeYear_succ (by omega)]
      omega
    · rw [daysBeforeYear_succ h]

theorem sum_take_add_le (lengths : List Nat) {i j : Nat} (h : i < j) :
    (lengths.take i).sum + (lengths[i]?).getD 0 ≤ (lengths.take j).sum := by
  induction lengths generalizing i j with
  | nil => simp
  | cons length rest ih =>
    obtain ⟨j, rfl⟩ : ∃ k, j = k + 1 := ⟨j - 1, by omega⟩
    cases i with
    | zero => simp
    | succ i =>
      have := @ih i j (by omega)
      simp only [List.take_succ_cons, List.sum_cons, List.getElem?_cons_succ]
      omega

theorem sum_monthLengths (year : Nat) : (monthLengths year).sum = daysInYear year := by
  unfold monthLengths daysInYear
  split_ifs <;> rfl

theorem daysInMonth_le (year month : Nat) : daysInMonth year month ≤ 31 := by
  have hall : ∀ length ∈ monthLengths year, length ≤ 31 := by
    unfold monthLengths
    split_ifs <;> decide
  unfold daysInMonth
  split_ifs
  · omega
  · cases h : (monthLengths year)[month - 1]? with
    | none => simp
    | some length => exact hall length (List.mem_of_getElem? h)

theorem daysBeforeMonth_eq (year month : Nat) :
    daysBeforeMonth year month = ((monthLengths year).take (month - 1)).sum := by
  rw [daysBeforeMonth, List.sum_eq_foldr]

theorem daysBeforeMonth_le (year : Nat) {month other : Nat} (h : 1 ≤ month) (hlt : month < other) :
    daysBeforeMonth year month + daysInMonth year month ≤ daysBeforeMonth year other := by
  have hsum := sum_take_add_le (monthLengths year) (show month - 1 < other - 1 by omega)
  simpa [daysBeforeMonth_eq, daysInMonth, show month ≠ 0 by omega] using hsum

theorem daysBeforeMonth_le_daysInYear (year : Nat) {month : Nat} (h : 1 ≤ month)
    (hle : month ≤ 12) :
    daysBeforeMonth year month + daysInMonth year month ≤ daysInYear year := by
  have h13 := daysBeforeMonth_le year h (show month < 13 by omega)
  have hall : daysBeforeMonth year 13 = daysInYear year := by
    rw [daysBeforeMonth_eq, ← sum_monthLengths]
    rfl
  omega

namespace Date

theorem dayNumber_lt_of_year_lt {d e : Date} (h : d.year < e.year) :
    d.dayNumber < e.dayNumber := by
  have hyear := daysBeforeYear_le d.year_range.1 h
  have hmonth := daysBeforeMonth_le_daysInYear d.year d.month_range.1 d.month_range.2
  have hday := d.day_range
  unfold dayNumber
  omega

theorem dayNumber_lt_of_month_lt {d e : Date} (hyear : d.year = e.year) (h : d.month < e.month) :
    d.dayNumber < e.dayNumber := by
  have hmonth := daysBeforeMonth_le d.year d.month_range.1 h
  have hday := d.day_range
  unfold dayNumber
  rw [← hyear]
  omega

theorem dayNumber_lt_iff {d e : Date} : d.dayNumber < e.dayNumber ↔
    d.year < e.year ∨ d.year = e.year ∧
      (d.month < e.month ∨ d.month = e.month ∧ d.day < e.day) := by
  have hd := d.day_range
  have he := e.day_range
  rcases Nat.lt_trichotomy d.year e.year with hy | hy | hy
  · have := dayNumber_lt_of_year_lt hy
    omega
  · rcases Nat.lt_trichotomy d.month e.month with hm | hm | hm
    · have := dayNumber_lt_of_month_lt hy hm
      omega
    · unfold dayNumber
      rw [hy, hm]
      omega
    · have := dayNumber_lt_of_month_lt hy.symm hm
      omega
  · have := dayNumber_lt_of_year_lt hy
    omega

end Date

namespace TimeOfDay

def seconds (t : TimeOfDay) : Nat :=
  (t.hour * 60 + t.minute) * 60 + t.second

theorem microseconds_eq (t : TimeOfDay) :
    t.microseconds = t.seconds * 1000000 + t.microsecond := rfl

theorem seconds_lt (t : TimeOfDay) : t.seconds < 86400 := by
  obtain ⟨⟨h, hh⟩, ⟨m, hm⟩, ⟨s, hs⟩, u⟩ := t
  simp only [seconds]
  omega

theorem seconds_lt_iff {t u : TimeOfDay} : t.seconds < u.seconds ↔
    t.hour.val < u.hour.val ∨ t.hour.val = u.hour.val ∧
      (t.minute.val < u.minute.val ∨ t.minute.val = u.minute.val ∧
        t.second.val < u.second.val) := by
  obtain ⟨⟨h, hh⟩, ⟨m, hm⟩, ⟨s, hs⟩, _⟩ := t
  obtain ⟨⟨h', hh'⟩, ⟨m', hm'⟩, ⟨s', hs'⟩, _⟩ := u
  simp only [seconds]
  omega

end TimeOfDay

namespace UniversalTime

def seconds (t : UniversalTime) : Nat :=
  t.date.dayNumber * 86400 + t.time.seconds

theorem instant_eq (t : UniversalTime) :
    t.toTimestamp.instant = t.seconds * 1000000 + t.time.microsecond.val := by
  simp only [toTimestamp, Timestamp.instant, Timestamp.microsecondsPerDay, seconds,
    TimeOfDay.microseconds_eq, Option.elim, Offset.utc]
  push_cast
  ring

theorem seconds_lt_seconds_iff {t u : UniversalTime} : t.seconds < u.seconds ↔
    t.date.dayNumber < u.date.dayNumber ∨
      t.date.dayNumber = u.date.dayNumber ∧ t.time.seconds < u.time.seconds := by
  have ht := t.time.seconds_lt
  have hu := u.time.seconds_lt
  unfold seconds
  omega

end UniversalTime
end UsagePolicy
