import UsagePolicy.Policy.UsageCount
import UsagePolicy.Schema.Issue

/-!
# Checking fields

Each check takes a JSON value to a value of the model or to issues. Integers may come as
numbers without a fraction, as booleans, or as numerals in a text; timestamps may come as texts
or as counts of seconds; texts and lists only as themselves.
-/
namespace UsagePolicy
namespace Schema

def text : Json → Checked String
  | .str s => .accepted s
  | v => .refuse .notText v

/-- An integer in its plain form: a minus sign if it is negative, and digits without zeros in
front. More digits than are read as a number are reported as such whatever follows them. -/
def plainInteger (cs : List Char) : Except Complaint Int :=
  let (negative, rest) := match cs with
    | '-' :: rest => (true, rest)
    | _ => (false, cs)
  let digits := rest.takeWhile Char.isDigit
  if digits.head? = some '0' then
    if rest = ['0'] then .ok 0 else .error .notIntegerText
  else if Numeral.digitLimit < digits.length then .error .integerTooLong
  else if digits.isEmpty || digits.length < rest.length then .error .notIntegerText
  else .ok (Numeral.signed negative (Numeral.value digits))

/-- Takes zeros and the underscores among them off the front, up to the first other digit or a
minus sign. Of a text of such zeros the last character stays, and so does the one before a
point. -/
def dropLeadingZeros (cs : List Char) : Option (List Char) :=
  let zeros := cs.takeWhile fun c => c = '0' || c = '_'
  match zeros, cs.drop zeros.length with
  | [], c :: _ => if c.isDigit then some cs else none
  | '0' :: _, [] => zeros.getLast?.map fun c => [c]
  | '0' :: _, c :: rest =>
    if c = '.' then zeros.getLast?.map (· :: c :: rest)
    else if c.isDigit || c = '-' then some (c :: rest)
    else none
  | _, _ => none

/-- The text before its first point if only zeros follow the point, at least one of them;
otherwise the whole text. -/
def dropZeroFraction (cs : List Char) : List Char :=
  match cs.dropWhile (· != '.') with
  | _ :: zeros =>
    if !zeros.isEmpty && zeros.all (· == '0') then cs.takeWhile (· != '.') else cs
  | [] => cs

def hasDoubleUnderscore (cs : List Char) : Bool :=
  (cs.zip (cs.drop 1)).any fun (c, d) => c = '_' && d = '_'

/-- The text without its underscores, if each of them stands alone and inside the text. -/
def dropUnderscores (cs : List Char) : List Char :=
  if cs.head? = some '_' || cs.getLast? = some '_' || hasDoubleUnderscore cs then cs
  else cs.filter (· != '_')

/-- The plain form of a text that allows itself blanks around it, a sign, zeros in front,
underscores between digits or a fraction of zeros. -/
def tidyInteger (cs : List Char) : Option (List Char) := do
  let body ← match Text.trim Text.isSpace cs with
    | '+' :: '-' :: _ => none
    | '+' :: rest => some rest
    | rest => some rest
  let (negative, body) := match body with
    | '-' :: rest => (true, rest)
    | rest => (false, rest)
  let significant ← dropLeadingZeros body
  let digits := dropUnderscores (dropZeroFraction significant)
  return if negative then '-' :: digits else digits

/-- The integer that a text denotes, in its plain form or after tidying. Only the plain form
tells a text that is too long from one that is no integer. -/
def integerText (s : String) : Except Complaint Int :=
  match plainInteger s.toList with
  | .error .notIntegerText =>
    match (tidyInteger s.toList).map plainInteger with
    | some (.ok n) => .ok n
    | _ => .error .notIntegerText
  | result => result

/-- The integer that a number denotes: it has to be whole and below 2^63 either way. -/
def integerNumber (x : Binary64) : Except Complaint Int :=
  if !x.isFinite then .error .notFinite
  else if !x.isIntegral then .error .fractional
  else if -0x8000000000000000 < x.truncate && x.truncate < 0x8000000000000000 then
    .ok x.truncate
  else .error .integerTooLong

def integer (v : Json) : Checked Int :=
  let result : Except Complaint Int := match v with
    | .int n => .ok n
    | .bool b => .ok (if b then 1 else 0)
    | .float x => integerNumber x
    | .str s => integerText s
    | _ => .error .notInteger
  match result with
  | .ok n => .accepted n
  | .error complaint => .refuse complaint v

def usageCount (v : Json) : Checked (Option Int) :=
  match UsageCount.ofJson v with
  | .ok n => .accepted (some n)
  | .error fault => .refuse (.badCount fault) v

def policyType (v : Json) : Checked PolicyType :=
  match v with
  | .str s =>
    match PolicyType.ofTag? s with
    | some t => .accepted t
    | none => .refuse .unknownTag v
  | _ => .refuse .unknownTag v

/-- A timestamp as a text or a count. An integer beyond the floating-point numbers is no count. -/
def timestamp (v : Json) : Checked Timestamp :=
  match v with
  | .str s =>
    match Timestamp.readText s with
    | .ok t => .accepted t
    | .error fault => .refuse (.badTimestamp fault) v
  | .int n =>
    match Timestamp.ofCount n 0 with
    | .ok t => .accepted t
    | .error fault =>
      if (Timestamp.quotient n 1).isFinite then .refuse (.badTimestamp (.notMoment fault)) v
      else .refuse .notTimestamp v
  | .float x =>
    match Timestamp.ofNumber x with
    | .ok t => .accepted t
    | .error fault => .refuse (.badTimestamp (.notMoment fault)) v
  | _ => .refuse .notTimestamp v

def optional {α : Type} (check : Json → Checked α) : Json → Checked (Option α)
  | .null => .accepted none
  | v => (check v).map some

def items {α : Type} (check : Json → Checked α) (index : Nat) : List Json → Checked (List α)
  | [] => .accepted []
  | v :: rest =>
    ((check v).within (.index index)).both (items check (index + 1) rest) |>.map fun (x, xs) =>
      x :: xs

def list {α : Type} (check : Json → Checked α) : Json → Checked (List α)
  | .arr values => items check 0 values
  | v => .refuse .notList v

/-- Where an input comes from, which decides how a value that is no object is reported. -/
inductive Source where
  | values
  | requestBody
  deriving DecidableEq, Repr

/-- A model by name from the fields of an object; unknown fields are left aside. -/
def model {α : Type} (name : String) (check : Fields → Checked α) (source : Source) :
    Json → Checked α
  | .obj fields => check fields
  | v =>
    match source with
    | .values => .refuse (.notModel name) v
    | .requestBody => .refuse .notObject v

def required {α : Type} (fields : Fields) (name : String) (check : Json → Checked α) : Checked α :=
  match fields.get? name with
  | some v => (check v).within (.field name)
  | none => (Checked.refuse .missing (.obj fields)).within (.field name)

def withDefault {α : Type} (fields : Fields) (name : String) (value : α)
    (check : Json → Checked α) : Checked α :=
  match fields.get? name with
  | some v => (check v).within (.field name)
  | none => .accepted value

end Schema
end UsagePolicy
