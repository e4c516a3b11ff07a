/-!
# Dates

The proleptic Gregorian calendar from year 1 to year 9999. A date is counted by its day
number, which is zero for the first of January of year 1.
-/
namespace UsagePolicy

def isLeapYear (year : Nat) : Bool :=
  year % 4 == 0 && (year % 100 != 0 || year % 400 == 0)

def monthLengths (year : Nat) : List Nat :=
  [31, if isLeapYear year then 29 else 28, 31, 30, 31, 30, 31, 31, 30, 31, 30, 31]

/-- The count of days in a month; zero for a month that does not exist. -/
def daysInMonth (year month : Nat) : Nat :=
  if month = 0 then 0 else ((monthLengths year)[month - 1]?).getD 0

/-- The count of days before the first of January of a year. -/
def daysBeforeYear (year : Nat) : Nat :=
  let past := year - 1
  365 * past + past / 4 - past / 100 + past / 400

/-- The count of days in a year before the first of a month. -/
def daysBeforeMonth (year month : Nat) : Nat :=
  ((monthLengths year).take (month - 1)).foldr (· + ·) 0

structure Date where
  year : Nat
  month : Nat
  day : Nat
  year_range : 1 ≤ year ∧ year ≤ 9999
  day_range : 1 ≤ day ∧ day ≤ daysInMonth year month
  deriving DecidableEq, Repr

namespace Date

def of? (year month day : Nat) : Option Date :=
  if h : (1 ≤ year ∧ year ≤ 9999) ∧ 1 ≤ day ∧ day ≤ daysInMonth year month then
    some ⟨year, month, day, h.1, h.2⟩
  else none

theorem month_range (d : Date) : 1 ≤ d.month ∧ d.month ≤ 12 := by
  obtain ⟨year, month, day, _, hday⟩ := d
  by_cases h0 : month = 0
  · simp [daysInMonth, h0] at hday
    omega
  · by_cases h : month ≤ 12
    · exact ⟨by simp only; omega, h⟩
    · have : ((monthLengths year)[month - 1]?) = none := by
        apply List.getElem?_eq_none
        simp only [monthLengths, List.length_cons, List.length_nil]
        omega
      simp [daysInMonth, h0, this] at hday
      omega

theorem of?_self (d : Date) : of? d.year d.month d.day = some d := by
  simp [of?, d.year_range, d.day_range]

def dayNumber (d : Date) : Nat :=
  daysBeforeYear d.year + daysBeforeMonth d.year d.month + (d.day - 1)

/-- The month, and the day counted from one, that a count of days reaches in the given months. -/
def monthAndDay : List Nat → Nat → Nat × Nat
  | [], days => (1, days + 1)
  | length :: rest, days =>
    if days < length then (1, days + 1)
    else
      let (month, day) := monthAndDay rest (days - length)
      (month + 1, day)

/-- The year that contains a day number, and the count of days before it in that year. Cycles
of 400, 100, 4 and 1 years are taken off in turn; a fifth short cycle does not begin on the
last day of a long one. -/
def yearAndDays (dayNumber : Nat) : Nat × Nat :=
  let quarters := dayNumber / 146097
  let days := dayNumber % 146097
  let centuries := min (days / 36524) 3
  let days := days - 36524 * centuries
  let leaps := days / 1461
  let days := days % 1461
  let years := min (days / 365) 3
  (400 * quarters + 100 * centuries + 4 * leaps + years + 1, days - 365 * years)

/-- The date with a day number, if the calendar reaches it. -/
def ofDayNumber? (dayNumber : Nat) : Option Date :=
  let (year, days) := yearAndDays dayNumber
  let (month, day) := monthAndDay (monthLengths year) days
  of? year month day

example : (of? 2024 2 29).map dayNumber = some 738944 := by decide

example : (ofDayNumber? 738944).map (fun d => (d.year, d.month, d.day)) = some (2024, 2, 29) := by
  decide

end Date
end UsagePolicy
