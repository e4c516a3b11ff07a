import UsagePolicy.Calendar.Timestamp
import UsagePolicy.Number.Binary64

/-!
# Reading timestamps

A text is read as a date and a time with an optional offset, else as a count of seconds or
milliseconds since 1970, else as a date alone, which stands for its midnight. A text that none
of these fits is reported with the fault of reading it as a date.

A count is in seconds up to 2 · 10^10 either way and in milliseconds beyond.
-/
namespace UsagePolicy

inductive DateFault where
  | tooShort
  | yearCharacter
  | monthCharacter
  | dayCharacter
  | separator
  | monthRange
  | dayRange
  | extraCharacters
  | beforeCalendar
  | afterCalendar
  deriving DecidableEq, Repr

def DateFault.message : DateFault → String
  | .tooShort => "input is too short"
  | .yearCharacter => "invalid character in year"
  | .monthCharacter => "invalid character in month"
  | .dayCharacter => "invalid character in day"
  | .separator => "invalid date separator, expected `-`"
  | .monthRange => "month value is outside expected range of 1-12"
  | .dayRange => "day value is outside expected range"
  | .extraCharacters => "unexpected extra characters at the end of the input"
  | .beforeCalendar => "dates before 0000 are not supported as unix timestamps"
  | .afterCalendar => "dates after 9999 are not supported as unix timestamps"

/-- Why a count of seconds, or a moment that was read, is not a timestamp. -/
inductive MomentFault where
  | beforeCalendar
  | afterCalendar
  | notNumber
  | yearZero
  deriving DecidableEq, Repr

def MomentFault.message : MomentFault → String
  | .beforeCalendar => DateFault.beforeCalendar.message
  | .afterCalendar => DateFault.afterCalendar.message
  | .notNumber => "NaN values not permitted"
  | .yearZero => "year 0 is out of range"

inductive TimestampFault where
  | notDate (fault : DateFault)
  | notMoment (fault : MomentFault)
  deriving DecidableEq, Repr

namespace Timestamp

def digit? (c : Char) : Option Nat :=
  if c.isDigit then some (c.toNat - 0x30) else none

def twoDigits? (a b : Char) : Option Nat := do
  let x ← digit? a
  let y ← digit? b
  return 10 * x + y

def fourDigits? (a b c d : Char) : Option Nat := do
  let x ← twoDigits? a b
  let y ← twoDigits? c d
  return 100 * x + y

/-- The day is tested against the month by the calendar rule, which holds for year zero too. -/
def checkDay (year month day : Nat) : Except DateFault (Nat × Nat × Nat) :=
  if month < 1 || 12 < month then .error .monthRange
  else if day < 1 || daysInMonth year month < day then .error .dayRange
  else .ok (year, month, day)

/-- The year, month and day that start a text, with the rest of it. Faults are found from left
to right; the text is too short if it has fewer than ten bytes. -/
def leadingDate (cs : List Char) : Except DateFault ((Nat × Nat × Nat) × List Char) :=
  if (String.ofList cs).utf8ByteSize < 10 then .error .tooShort
  else
    match cs with
    | y₁ :: y₂ :: y₃ :: y₄ :: afterYear =>
      match fourDigits? y₁ y₂ y₃ y₄, afterYear with
      | none, _ => .error .yearCharacter
      | some year, '-' :: m₁ :: m₂ :: afterMonth =>
        match twoDigits? m₁ m₂, afterMonth with
        | none, _ => .error .monthCharacter
        | some month, '-' :: d₁ :: d₂ :: rest =>
          match twoDigits? d₁ d₂ with
          | none => .error .dayCharacter
          | some day => (checkDay year month day).map (·, rest)
        | some _, '-' :: _ => .error .dayCharacter
        | some _, _ => .error .separator
      | some _, '-' :: _ => .error .monthCharacter
      | some _, _ => .error .separator
    | _ => .error .yearCharacter

/-- Microseconds in the digits of a fraction; digits after the sixth are cut off. -/
def fraction (digits : List Char) : Nat :=
  Numeral.value ((digits ++ List.replicate 6 '0').take 6)

/-- Seconds and microseconds after the minutes; both zero if no colon follows. -/
def readSeconds? (cs : List Char) : Option ((Nat × Nat) × List Char) :=
  match cs with
  | ':' :: a :: b :: rest => do
    let second ← twoDigits? a b
    if 59 < second then none
    else
      match rest with
      | c :: digits =>
        if c = '.' || c = ',' then
          let run := digits.takeWhile Char.isDigit
          if run.isEmpty then none
          else some ((second, fraction run), digits.dropWhile Char.isDigit)
        else some ((second, 0), rest)
      | [] => some ((second, 0), [])
  | ':' :: _ => none
  | _ => some ((0, 0), cs)

/-- The offset in seconds that makes up the rest of a text: nothing, `Z`, or a sign with hours
and minutes. The sign may be a hyphen or a minus sign. -/
def readOffset? (cs : List Char) : Option (Option Int) :=
  match cs with
  | [] => some none
  | ['Z'] => some (some 0)
  | ['z'] => some (some 0)
  | c :: a :: b :: rest =>
    let minutes := match rest with
      | [':', x, y] => twoDigits? x y
      | [x, y] => twoDigits? x y
      | _ => none
    let negative := c = '-' || c = Char.ofNat 0x2212
    match twoDigits? a b, minutes with
    | some h, some m =>
      if (negative || c = '+') && h < 24 && m < 60 then
        some (some (Numeral.signed negative ((h * 60 + m) * 60)))
      else none
    | _, _ => none
  | _ => none

/-- A moment whose year may be zero: date, hour, minute, seconds with microseconds, offset. -/
structure Moment where
  year : Nat
  month : Nat
  day : Nat
  hour : Nat
  minute : Nat
  second : Nat
  microsecond : Nat
  offset : Option Int
  deriving DecidableEq, Repr

/-- A date and a time in full, with `T`, `t`, an underscore or a blank between them. -/
def readFull? (cs : List Char) : Option Moment :=
  match leadingDate cs with
  | .error _ => none
  | .ok ((year, month, day), rest) =>
    match rest with
    | separator :: h₁ :: h₂ :: ':' :: m₁ :: m₂ :: rest =>
      if ['T', 't', '_', ' '].contains separator then do
        let hour ← twoDigits? h₁ h₂
        let minute ← twoDigits? m₁ m₂
        let ((second, microsecond), rest) ← readSeconds? rest
        let offset ← readOffset? rest
        if hour < 24 && minute < 60 then
          some ⟨year, month, day, hour, minute, second, microsecond, offset⟩
        else none
      else none
    | _ => none

/-- The timestamp of a moment: the calendar has no year zero. -/
def ofMoment (m : Moment) : Except TimestampFault Timestamp :=
  match of? m.year m.month m.day m.hour m.minute m.second m.microsecond m.offset with
  | some t => .ok t
  | none => .error (.notMoment .yearZero)

/-- The largest count that is read as seconds rather than milliseconds. -/
def secondsLimit : Nat := 20000000000

def epochDay : Nat := 719162

def ofSeconds (seconds : Int) (microseconds : Nat) : Except MomentFault Timestamp :=
  let seconds := seconds + (microseconds / 1000000 : Nat)
  if seconds < -62167219200 then .error .beforeCalendar
  else if 253402300799 < seconds then .error .afterCalendar
  else
    match UniversalTime.ofInstant?
        ((seconds + epochDay * 86400) * 1000000 + (microseconds % 1000000 : Nat)) with
    | some t => .ok t.toTimestamp
    | none => .error .yearZero

/-- A whole count, in seconds or milliseconds, and microseconds added to it. -/
def ofCount (count : Int) (microseconds : Nat) : Except MomentFault Timestamp :=
  if count.natAbs ≤ secondsLimit then ofSeconds count microseconds
  else ofSeconds (count.fdiv 1000) (microseconds + (count.fmod 1000).toNat * 1000)

/-- The integer nearest to a number, a half going away from zero. -/
def nearest (x : Binary64) : Nat :=
  let (num, den) := x.toRatio
  (2 * num.natAbs + den) / (2 * den)

def quotient (num : Int) (den : Nat) : Binary64 :=
  Binary64.ofRatio (num < 0) num.natAbs den

/-- A number as a count. The whole part is rounded down, and the difference to it is rounded to a
number, scaled to microseconds and rounded again, each time to the nearest number. -/
def ofNumber (x : Binary64) : Except MomentFault Timestamp :=
  match x with
  | .nan => .error .notNumber
  | .infinity negative => .error (if negative then .beforeCalendar else .afterCalendar)
  | .finite .. =>
    let (num, den) := x.toRatio
    let (restNum, restDen) := (quotient (num - x.floor * den) den).toRatio
    let microseconds (perUnit : Nat) : Nat := nearest (quotient (restNum * perUnit) restDen)
    if num.natAbs ≤ secondsLimit * den then ofSeconds x.floor (microseconds 1000000)
    else
      ofSeconds (x.floor.fdiv 1000) ((x.floor.fmod 1000).toNat * 1000 + microseconds 1000)

def isWholeCount (n : Int) : Bool :=
  -0x8000000000000000 ≤ n && n < 0x8000000000000000

def wholeCount? (cs : List Char) : Option Int :=
  let (negative, digits) := Numeral.splitSign cs
  let n := Numeral.signed negative (Numeral.value digits)
  if !digits.isEmpty && digits.all Char.isDigit && isWholeCount n then some n else none

/-- The power of ten that makes up the rest of a text: none, or a letter `e` with an optional
sign and digits. -/
def powerOfTen? (cs : List Char) : Option Int :=
  match cs with
  | [] => some 0
  | c :: rest =>
    let (negative, digits) := Numeral.splitSign rest
    if (c = 'e' || c = 'E') && !digits.isEmpty && digits.all Char.isDigit then
      some (Numeral.signed negative (Numeral.value digits))
    else none

/-- A decimal fraction in a text: an optional sign, digits around a point and a power of ten. -/
def fractionCount? (cs : List Char) : Option Binary64 :=
  let (negative, body) := Numeral.splitSign cs
  let whole := body.takeWhile Char.isDigit
  match body.dropWhile Char.isDigit with
  | '.' :: rest =>
    let digits := rest.takeWhile Char.isDigit
    if whole.isEmpty && digits.isEmpty then none
    else
      (powerOfTen? (rest.dropWhile Char.isDigit)).map fun power =>
        Binary64.ofDecimal negative (Numeral.value (whole ++ digits)) (power - digits.length)
  | _ => none

def readDate (cs : List Char) : Except DateFault (Nat × Nat × Nat) :=
  match leadingDate cs with
  | .error e => .error e
  | .ok (date, rest) => if rest.isEmpty then .ok date else .error .extraCharacters

def dateFault : MomentFault → DateFault
  | .beforeCalendar => .beforeCalendar
  | _ => .afterCalendar

/-- A text that is neither a full timestamp nor a count that denotes one. -/
def readMidnight (cs : List Char) (count : Option MomentFault) : Except TimestampFault Timestamp :=
  match readDate cs with
  | .ok (year, month, day) => ofMoment ⟨year, month, day, 0, 0, 0, 0, none⟩
  | .error e => .error (.notDate (count.elim e dateFault))

def readText (text : String) : Except TimestampFault Timestamp :=
  let cs := text.toList
  match readFull? cs with
  | some m => ofMoment m
  | none =>
    match wholeCount? cs with
    | some n =>
      match ofCount n 0 with
      | .ok t => .ok t
      | .error .yearZero => .error (.notMoment .yearZero)
      | .error e => readMidnight cs (some e)
    | none =>
      match fractionCount? cs with
      | some x =>
        match ofNumber x with
        | .ok t => .ok t
        | .error .yearZero => .error (.notMoment .yearZero)
        | .error _ => readMidnight cs none
      | none => readMidnight cs none

end Timestamp
end UsagePolicy
