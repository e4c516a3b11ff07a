import UsagePolicy.Json.Basic
import UsagePolicy.Text.Encoding
import UsagePolicy.Text.Hex

/-!
# Reading JSON text

The reader consumes a list of characters and either returns a value with the rest of the text
or stops with a fault and the suffix at which it stopped; the offset of a fault is the length
consumed up to that suffix. Beside the standard grammar it accepts the words NaN, Infinity and
-Infinity. A number with a fraction or an exponent is a floating-point number, any other an
exact integer.

Each level of nesting consumes its bracket and takes two steps, so twice the length of the text
bounds the recursion. A caller may admit only so many levels; a bracket that opens one too many is
a fault like any other.
-/
namespace UsagePolicy
namespace Json

/-- The kinds of value that hold others. -/
inductive Container where
  | array
  | object
  deriving DecidableEq, Repr

def Container.name : Container → String
  | .array => "array"
  | .object => "object"

/-- What is wrong at the place where reading stopped. -/
inductive ReadFault where
  | expectingValue
  | expectingName
  | expectingColon
  | expectingComma
  | extraData
  | unterminatedString
  | controlCharacter
  | invalidEscape
  | invalidCodeUnit
  | leadingMark
  | numeralTooLong (fault : Numeral.TooLong)
  | tooDeep (container : Container)
  deriving DecidableEq, Repr

def ReadFault.message : ReadFault → String
  | .expectingValue => "Expecting value"
  | .expectingName => "Expecting property name enclosed in double quotes"
  | .expectingColon => "Expecting ':' delimiter"
  | .expectingComma => "Expecting ',' delimiter"
  | .extraData => "Extra data"
  | .unterminatedString => "Unterminated string starting at"
  | .controlCharacter => "Invalid control character at"
  | .invalidEscape => "Invalid \\escape"
  | .invalidCodeUnit => "Invalid \\uXXXX escape"
  | .leadingMark => "Unexpected UTF-8 BOM (decode using utf-8-sig)"
  | .numeralTooLong fault => fault.message
  | .tooDeep container =>
    "maximum recursion depth exceeded while decoding a JSON " ++ container.name ++
      " from a unicode string"

def ReadFault.exceedsLimit : ReadFault → Bool
  | .numeralTooLong _ => true
  | .tooDeep _ => true
  | _ => false

/-- A fault and the suffix of the text at which it was found. -/
structure Stop where
  fault : ReadFault
  suffix : List Char
  deriving DecidableEq, Repr

/-- The outcome of reading a part of a text: what was read and the rest of the text. -/
abbrev Reading (α : Type) := Except Stop (α × List Char)

def stop {α : Type} (fault : ReadFault) (suffix : List Char) : Except Stop α :=
  .error ⟨fault, suffix⟩

def isGap (c : Char) : Bool :=
  c == ' ' || c == '\t' || c == '\n' || c == '\r'

def skipGap (cs : List Char) : List Char :=
  cs.dropWhile isGap

/-- The code unit in the four digits after an escape's letter `u`, which `suffix` starts with.
A character has to follow the digits. -/
def readCodeUnit (suffix : List Char) : Reading Nat :=
  match suffix with
  | _ :: a :: b :: c :: d :: next :: rest =>
    match Text.readHex? [a, b, c, d] with
    | some n => .ok (n, next :: rest)
    | none => stop .invalidCodeUnit suffix
  | _ => stop .invalidCodeUnit suffix

/-- The character of an escape whose letter `u` starts the suffix, with the second code unit of
a surrogate pair. -/
def readUnicodeEscape (suffix : List Char) : Reading Char :=
  match readCodeUnit suffix with
  | .error e => .error e
  | .ok (first, rest) =>
    match Text.isHighSurrogate first, rest with
    | true, '\\' :: 'u' :: a :: b :: c :: d :: e :: after =>
      match readCodeUnit ('u' :: a :: b :: c :: d :: e :: after) with
      | .error e => .error e
      | .ok (second, after) =>
        if Text.isLowSurrogate second then .ok (Text.joinSurrogates first second, after)
        else .ok (Text.ofCodeUnit first, rest)
    | _, _ => .ok (Text.ofCodeUnit first, rest)

/-- The character of the escape that starts the suffix with its backslash; `opening` is the
suffix at the quote that opened the text. -/
def readEscape (opening suffix : List Char) : Reading Char :=
  match suffix.tail with
  | [] => stop .unterminatedString opening
  | '"' :: rest => .ok ('"', rest)
  | '\\' :: rest => .ok ('\\', rest)
  | '/' :: rest => .ok ('/', rest)
  | 'b' :: rest => .ok ('\x08', rest)
  | 'f' :: rest => .ok ('\x0c', rest)
  | 'n' :: rest => .ok ('\n', rest)
  | 'r' :: rest => .ok ('\r', rest)
  | 't' :: rest => .ok ('\t', rest)
  | 'u' :: rest => readUnicodeEscape ('u' :: rest)
  | _ => stop .invalidEscape suffix

/-- The characters up to the closing quote, put before those in `seen`, which are reversed. -/
def readChars (fuel : Nat) (opening seen suffix : List Char) : Reading String :=
  match fuel, suffix with
  | fuel + 1, c :: rest =>
    if c = '"' then .ok (String.ofList seen.reverse, rest)
    else if c = '\\' then
      match readEscape opening (c :: rest) with
      | .ok (escaped, after) => readChars fuel opening (escaped :: seen) after
      | .error e => .error e
    else if c.toNat < 0x20 then stop .controlCharacter (c :: rest)
    else readChars fuel opening (c :: seen) rest
  | _, _ => stop .unterminatedString opening

def spanDigits (cs : List Char) : List Char × List Char :=
  (cs.takeWhile Char.isDigit, cs.dropWhile Char.isDigit)

/-- The integer part of a number: a zero alone, or digits that do not start with zero. -/
def readWhole? (cs : List Char) : Option (List Char × List Char) :=
  match cs with
  | '0' :: rest => some (['0'], rest)
  | c :: _ => if c.isDigit then some (spanDigits cs) else none
  | [] => none

/-- The digits of a fraction; a point without digits after it is not part of the number. -/
def readFraction (cs : List Char) : List Char × List Char :=
  match cs with
  | '.' :: rest =>
    match spanDigits rest with
    | ([], _) => ([], cs)
    | span => span
  | _ => ([], cs)

/-- The exponent, if a letter, an optional sign and at least one digit stand there. -/
def readExponent (cs : List Char) : Option Int × List Char :=
  match cs with
  | c :: rest =>
    if c = 'e' || c = 'E' then
      let (negative, digits) := Numeral.splitSign rest
      match spanDigits digits with
      | ([], _) => (none, cs)
      | (run, after) => (some (Numeral.signed negative (Numeral.value run)), after)
    else (none, cs)
  | [] => (none, cs)

/-- A number whose sign has been read; `start` is the suffix at which the number starts. -/
def readUnsigned (negative : Bool) (start cs : List Char) : Reading Json :=
  match readWhole? cs with
  | none => stop .expectingValue start
  | some (whole, rest) =>
    let (fraction, rest) := readFraction rest
    let (exponent, rest) := readExponent rest
    if fraction.isEmpty && exponent.isNone then
      if whole.length ≤ Numeral.digitLimit then
        .ok (.int (Numeral.signed negative (Numeral.value whole)), rest)
      else stop (.numeralTooLong ⟨whole.length⟩) start
    else
      let digits := Numeral.value (whole ++ fraction)
      .ok (.float (Binary64.ofDecimal negative digits (exponent.getD 0 - fraction.length)), rest)

def afterWord? (word : String) (cs : List Char) : Option (List Char) :=
  if word.toList.isPrefixOf cs then some (cs.drop word.length) else none

/-- The words and what they denote, in the order in which they are tried. -/
def words : List (String × Json) :=
  [("null", .null), ("true", .bool true), ("false", .bool false), ("NaN", .float .nan),
    ("Infinity", .float (.infinity false)), ("-Infinity", .float (.infinity true))]

def readWord? (cs : List Char) : Option (Json × List Char) :=
  words.findSome? fun (word, value) => (afterWord? word cs).map (value, ·)

def readAtom (cs : List Char) : Reading Json :=
  match readWord? cs with
  | some result => .ok result
  | none =>
    match cs with
    | '-' :: rest => readUnsigned true cs rest
    | _ => readUnsigned false cs cs

/-- How many more levels of nesting are admitted; any number if none is given. -/
abbrev Room := Option Nat

/-- The room inside a container, if there is room for the container. -/
def Room.within? : Room → Option Room
  | none => some none
  | some 0 => none
  | some (n + 1) => some (some n)

@[simp] theorem Room.within?_none : Room.within? none = some none := rfl

def Room.Holds (room : Room) (levels : Nat) : Prop :=
  ∀ n ∈ room, levels ≤ n

theorem Room.holds_none (levels : Nat) : Room.Holds none levels := nofun

theorem Room.holds_some {n levels : Nat} : Room.Holds (some n) levels ↔ levels ≤ n := by
  simp [Holds]

theorem Room.Holds.mono {room : Room} {m n : Nat} (h : room.Holds n) (hle : m ≤ n) :
    room.Holds m := fun k hk => Nat.le_trans hle (h k hk)

theorem Room.Holds.within? {room : Room} {levels : Nat} (h : room.Holds (levels + 1)) :
    ∃ inner, room.within? = some inner ∧ inner.Holds levels := by
  cases room with
  | none => exact ⟨none, rfl, holds_none levels⟩
  | some n =>
    have hle := holds_some.mp h
    obtain ⟨m, rfl⟩ : ∃ m, n = m + 1 := ⟨n - 1, by omega⟩
    exact ⟨some m, rfl, holds_some.mpr (by omega)⟩

theorem Room.holds_succ {room inner : Room} {levels : Nat} (hroom : room.within? = some inner)
    (h : inner.Holds levels) : room.Holds (levels + 1) := by
  cases room with
  | none => exact holds_none _
  | some n =>
    cases n with
    | zero => cases hroom
    | succ n =>
      cases hroom
      exact holds_some.mpr (Nat.succ_le_succ (holds_some.mp h))

mutual

def readValue (room : Room) (fuel : Nat) (cs : List Char) : Reading Json :=
  match fuel with
  | 0 => stop .expectingValue cs
  | fuel + 1 =>
    match cs with
    | '"' :: rest => (readChars (fuel + 1) cs [] rest).map fun (s, after) => (.str s, after)
    | '[' :: rest =>
      match Room.within? room, skipGap rest with
      | none, _ => stop (.tooDeep .array) cs
      | some _, ']' :: after => .ok (.arr [], after)
      | some room, start =>
        (readItems room fuel [] start).map fun (items, after) => (.arr items, after)
    | '\x7b' :: rest =>
      match Room.within? room, skipGap rest with
      | none, _ => stop (.tooDeep .object) cs
      | some _, '\x7d' :: after => .ok (.obj [], after)
      | some room, start =>
        (readFields room fuel [] start).map fun (fields, after) => (.obj fields, after)
    | _ => readAtom cs

/-- The items from the start of one to the closing bracket, after those in `seen`, which are
reversed. -/
def readItems (room : Room) (fuel : Nat) (seen : List Json) (cs : List Char) :
    Reading (List Json) :=
  match fuel with
  | 0 => stop .expectingValue cs
  | fuel + 1 =>
    match readValue room fuel cs with
    | .error e => .error e
    | .ok (v, after) =>
      match skipGap after with
      | ']' :: rest => .ok ((v :: seen).reverse, rest)
      | ',' :: rest => readItems room fuel (v :: seen) (skipGap rest)
      | suffix => stop .expectingComma suffix

/-- The fields from the start of a name to the closing brace, written over those in `seen`. -/
def readFields (room : Room) (fuel : Nat) (seen : Fields) (cs : List Char) : Reading Fields :=
  match fuel with
  | 0 => stop .expectingName cs
  | fuel + 1 =>
    match cs with
    | '"' :: opened =>
      match readChars fuel cs [] opened with
      | .error e => .error e
      | .ok (name, after) =>
        match skipGap after with
        | ':' :: rest =>
          match readValue room fuel (skipGap rest) with
          | .error e => .error e
          | .ok (v, after) =>
            match skipGap after with
            | '\x7d' :: rest => .ok (seen.put name v, rest)
            | ',' :: rest => readFields room fuel (seen.put name v) (skipGap rest)
            | suffix => stop .expectingComma suffix
        | suffix => stop .expectingColon suffix
    | suffix => stop .expectingName suffix

end

/-- A whole text: one value with nothing but blanks around it. -/
def readAll (room : Room) (cs : List Char) : Except Stop Json :=
  match readValue room (2 * cs.length + 2) (skipGap cs) with
  | .error e => .error e
  | .ok (v, after) =>
    match skipGap after with
    | [] => .ok v
    | suffix => stop .extraData suffix

structure ReadError where
  fault : ReadFault
  offset : Nat
  deriving DecidableEq, Repr

def parseChars (room : Room) (cs : List Char) : Except ReadError Json :=
  match readAll room cs with
  | .ok v => .ok v
  | .error e => .error ⟨e.fault, cs.length - e.suffix.length⟩

/-- The value that a text denotes, if it is nested no deeper than admitted. A byte order mark in
front is refused. -/
def parseWithin (room : Room) (text : String) : Except ReadError Json :=
  let cs := text.toList
  if cs.head? = some Text.byteOrderMark then .error ⟨.leadingMark, 0⟩ else parseChars room cs

/-- The value that a text denotes, if it is one that can be read. -/
def parse (text : String) : Except ReadError Json :=
  parseWithin (some nestingLimit) text

/-- The fault with the line, the column and the offset at which it was found. A text that is more
than can be read is reported without the place. -/
def ReadError.describe (e : ReadError) (text : String) : String :=
  if e.fault.exceedsLimit then e.fault.message
  else
    let before := text.toList.take e.offset
    let line := before.count '\n' + 1
    let column := (before.reverse.takeWhile (· != '\n')).length + 1
    let show10 (n : Nat) : String := String.ofList (Numeral.ofNat n)
    e.fault.message ++ ": line " ++ show10 line ++ " column " ++ show10 column ++ " (char " ++
      show10 e.offset ++ ")"

example : (parseWithin (some 1) "[[]]").toOption.isNone = true ∧
    (parseWithin (some 2) "[[]]").toOption.isSome = true := by decide +kernel

end Json
end UsagePolicy
