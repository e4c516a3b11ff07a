import UsagePolicy.Calendar.Date
import UsagePolicy.Number.Numeral

/-!
# Timestamps

A timestamp is a date and a time of day to the microsecond, with the offset of its clock from
universal time in seconds, or without one; a timestamp without an offset is taken to be in
universal time. The instant that a timestamp denotes is counted in microseconds from the start
of year 1.

Two texts of a timestamp are written here: the interchange form, which keeps the offset and
drops a fraction of zero, and the form in which agreements state their time of issue, which is
in universal time, has three digits of fraction and does not pad the year.
-/
namespace UsagePolicy

structure TimeOfDay where
  hour : Fin 24
  minute : Fin 60
  second : Fin 60
  microsecond : Fin 1000000
  deriving DecidableEq, Repr

namespace TimeOfDay

def midnight : TimeOfDay := ⟨0, 0, 0, 0⟩

def microseconds (t : TimeOfDay) : Nat :=
  ((t.hour * 60 + t.minute) * 60 + t.second) * 1000000 + t.microsecond

/-- The time a number of microseconds after midnight; whole days are cut off. -/
def ofMicroseconds (n : Nat) : TimeOfDay :=
  ⟨Fin.ofNat 24 (n / 3600000000), Fin.ofNat 60 (n / 60000000), Fin.ofNat 60 (n / 1000000),
    Fin.ofNat 1000000 n⟩

theorem microseconds_ofMicroseconds {n : Nat} (h : n < 86400000000) :
    (ofMicroseconds n).microseconds = n := by
  simp only [microseconds, ofMicroseconds, Fin.ofNat]
  omega

theorem ofMicroseconds_microseconds (t : TimeOfDay) : ofMicroseconds t.microseconds = t := by
  obtain ⟨⟨h, hh⟩, ⟨m, hm⟩, ⟨s, hs⟩, ⟨u, hu⟩⟩ := t
  simp only [microseconds, ofMicroseconds, Fin.ofNat, TimeOfDay.mk.injEq, Fin.mk.injEq]
  omega

end TimeOfDay

/-- Seconds by which a clock is ahead of universal time, less than a day either way. -/
structure Offset where
  seconds : Int
  range : -86400 < seconds ∧ seconds < 86400
  deriving DecidableEq, Repr

namespace Offset

def utc : Offset := ⟨0, by decide⟩

def of? (seconds : Int) : Option Offset :=
  if h : -86400 < seconds ∧ seconds < 86400 then some ⟨seconds, h⟩ else none

end Offset

structure Timestamp where
  date : Date
  time : TimeOfDay
  offset : Option Offset
  deriving DecidableEq, Repr

/-- A date and a time of day in universal time, which is what a clock shows. -/
structure UniversalTime where
  date : Date
  time : TimeOfDay
  deriving DecidableEq, Repr

namespace UniversalTime

def toTimestamp (t : UniversalTime) : Timestamp :=
  ⟨t.date, t.time, some .utc⟩

end UniversalTime

structure DateOutOfRange where
  deriving DecidableEq, Repr

namespace Timestamp

def microsecondsPerDay : Nat := 86400000000

/-- Microseconds from the start of year 1 to the instant denoted. -/
def instant (t : Timestamp) : Int :=
  (t.date.dayNumber * microsecondsPerDay + t.time.microseconds : Nat) -
    (t.offset.elim 0 Offset.seconds) * 1000000

end Timestamp

/-- The universal time of an instant, if the calendar reaches it. -/
def UniversalTime.ofInstant? (instant : Int) : Option UniversalTime :=
  if instant < 0 then none
  else
    (Date.ofDayNumber? (instant.toNat / Timestamp.microsecondsPerDay)).map fun date =>
      ⟨date, .ofMicroseconds (instant.toNat % Timestamp.microsecondsPerDay)⟩

namespace Timestamp

def toUniversal (t : Timestamp) : Except DateOutOfRange UniversalTime :=
  match UniversalTime.ofInstant? t.instant with
  | some u => .ok u
  | none => .error {}

def clockText (time : TimeOfDay) : List Char :=
  Numeral.padded 2 time.hour ++ ':' :: Numeral.padded 2 time.minute ++
    ':' :: Numeral.padded 2 time.second

/-- The year as given, then month and day, two digits each. -/
def dateText (year : List Char) (date : Date) : List Char :=
  year ++ '-' :: Numeral.padded 2 date.month ++ '-' :: Numeral.padded 2 date.day

/-- `Z` for universal time, otherwise the sign, the hours and the minutes. -/
def offsetText (offset : Offset) : List Char :=
  if offset.seconds = 0 then ['Z']
  else
    let minutes := offset.seconds.natAbs / 60
    (if offset.seconds < 0 then '-' else '+') ::
      (Numeral.padded 2 (minutes / 60) ++ ':' :: Numeral.padded 2 (minutes % 60))

def interchangeText (t : Timestamp) : List Char :=
  dateText (Numeral.padded 4 t.date.year) t.date ++ 'T' :: clockText t.time ++
    (if t.time.microsecond = 0 then [] else '.' :: Numeral.padded 6 t.time.microsecond) ++
    (t.offset.elim [] offsetText)

def issuedText (t : Timestamp) : Except DateOutOfRange String :=
  t.toUniversal.map fun u =>
    String.ofList (dateText (Numeral.ofNat u.date.year) u.date ++ 'T' :: clockText u.time ++
      '.' :: Numeral.padded 3 (u.time.microsecond / 1000 : Nat) ++ ['Z'])

def of? (year month day hour minute second microsecond : Nat) (offset : Option Int) :
    Option Timestamp := do
  let date ← Date.of? year month day
  if h : hour < 24 ∧ minute < 60 ∧ second < 60 ∧ microsecond < 1000000 then
    let time : TimeOfDay :=
      ⟨⟨hour, h.1⟩, ⟨minute, h.2.1⟩, ⟨second, h.2.2.1⟩, ⟨microsecond, h.2.2.2⟩⟩
    match offset with
    | none => some ⟨date, time, none⟩
    | some seconds => (Offset.of? seconds).map fun o => ⟨date, time, some o⟩
  else none

example : ((of? 2024 3 1 0 30 15 123456 (some 3600)).bind fun t => t.issuedText.toOption) =
    some "2024-02-29T23:30:15.123Z" := by decide +kernel

example : (of? 2024 1 1 0 0 0 500000 (some (-1800))).map interchangeText =
    some "2024-01-01T00:00:00.500000-00:30".toList := by decide +kernel

end Timestamp
end UsagePolicy
