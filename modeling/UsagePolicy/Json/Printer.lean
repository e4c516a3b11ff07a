import UsagePolicy.Json.Basic
import UsagePolicy.Number.Shortest
import UsagePolicy.Text.Hex

/-!
# JSON text

A value is written in one of two layouts: compact, without any blank, or indented, with one
item or field a line and two blanks for each level. Quotes, backslashes and control characters
below U+0020 are escaped; every other character stands for itself. Floating-point numbers are
written in the standard form of decimal text unless another form is asked for.

A value is written in front of the text that follows it, so that the time it takes does not grow
with the depth at which its parts stand. What keeps a value from being written is told apart from
the text that it would have.
-/
namespace UsagePolicy
namespace Json

inductive Layout where
  | compact
  | indented
  deriving DecidableEq, Repr

namespace Layout

/-- What separates items, and an item from the bracket before it, at the given level. -/
def lineBreak (layout : Layout) (level : Nat) : List Char :=
  match layout with
  | compact => []
  | indented => '\n' :: List.replicate (2 * level) ' '

/-- What separates the last item from the closing bracket at the given level; nothing if there is
no item. -/
def closing (layout : Layout) (level : Nat) (isEmpty : Bool) : List Char :=
  if isEmpty then [] else layout.lineBreak level

def colon : Layout → List Char
  | compact => [':']
  | indented => [':', ' ']

end Layout

def escape (c : Char) : List Char :=
  if c = '"' then ['\\', '"']
  else if c = '\\' then ['\\', '\\']
  else if c = '\n' then ['\\', 'n']
  else if c = '\r' then ['\\', 'r']
  else if c = '\t' then ['\\', 't']
  else if c = '\x08' then ['\\', 'b']
  else if c = '\x0c' then ['\\', 'f']
  else if c.toNat < 0x20 then '\\' :: 'u' :: Text.hexPadded 4 c.toNat
  else [c]

def quote (s : String) : List Char :=
  '"' :: (s.toList.flatMap escape ++ ['"'])

mutual

/-- Writes a value whose opening bracket stands at the given level in front of the rest of a
text. -/
def write (layout : Layout) (form : DecimalForm) (level : Nat) :
    Json → List Char → List Char
  | .null, rest => "null".toList ++ rest
  | .bool b, rest => (if b then "true" else "false").toList ++ rest
  | .int n, rest => Numeral.ofInt n ++ rest
  | .float x, rest => x.text form ++ rest
  | .str s, rest => quote s ++ rest
  | .arr items, rest =>
    '[' :: writeItems layout form (level + 1) [] items
      (layout.closing level items.isEmpty ++ ']' :: rest)
  | .obj fields, rest =>
    '\x7b' :: writeFields layout form (level + 1) [] fields
      (layout.closing level fields.isEmpty ++ '\x7d' :: rest)

/-- Writes items, with a comma before each but the first, which follows `separator`. -/
def writeItems (layout : Layout) (form : DecimalForm) (level : Nat) (separator : List Char) :
    List Json → List Char → List Char
  | [], rest => rest
  | v :: vs, rest =>
    separator ++ (layout.lineBreak level ++
      write layout form level v (writeItems layout form level [','] vs rest))

/-- Writes fields, with a comma before each but the first, which follows `separator`. -/
def writeFields (layout : Layout) (form : DecimalForm) (level : Nat) (separator : List Char) :
    Fields → List Char → List Char
  | [], rest => rest
  | (name, v) :: fields, rest =>
    separator ++ (layout.lineBreak level ++ (quote name ++ (layout.colon ++
      write layout form level v (writeFields layout form level [','] fields rest))))

end

/-- The text of a value whose opening bracket stands at level zero. -/
def render (layout : Layout) (form : DecimalForm) (v : Json) : List Char :=
  v.write layout form 0 []

def compactText (v : Json) : String :=
  String.ofList (render .compact .standard v)

/-- The value on one line, without blanks, its numbers in the terse form. -/
def terseText (v : Json) : String :=
  String.ofList (render .compact .terse v)

def indentedText (v : Json) : String :=
  String.ofList (render .indented .standard v)

inductive WriteFault where
  | integerTooLong
  | tooDeep
  deriving DecidableEq, Repr

/-- The text of a fault, with what was being done when the stack ran out. -/
def WriteFault.message (activity : String) : WriteFault → String
  | .integerTooLong => "Exceeds the limit (4300 digits) for integer string conversion; " ++
      "use sys.set_int_max_str_digits() to increase the limit"
  | .tooDeep => "maximum recursion depth exceeded while " ++ activity

mutual

/-- The first fault that writing a value comes to, if there is room for so many levels. -/
def writeFault? (room : Nat) : Json → Option WriteFault
  | .int n =>
    if (Numeral.ofNat n.natAbs).length ≤ Numeral.digitLimit then none else some .integerTooLong
  | .arr items =>
    match room with
    | 0 => some .tooDeep
    | room + 1 => writeFaultItems? room items
  | .obj fields =>
    match room with
    | 0 => some .tooDeep
    | room + 1 => writeFaultFields? room fields
  | _ => none

def writeFaultItems? (room : Nat) : List Json → Option WriteFault
  | [] => none
  | v :: rest => writeFault? room v <|> writeFaultItems? room rest

def writeFaultFields? (room : Nat) : Fields → Option WriteFault
  | [] => none
  | (_, v) :: rest => writeFault? room v <|> writeFaultFields? room rest

end

/-- The indented text of a value, if there is room for so many levels. -/
def indentedWithin (room : Nat) (v : Json) : Except WriteFault String :=
  match v.writeFault? room with
  | some fault => .error fault
  | none => .ok v.indentedText

def indented (v : Json) : Except WriteFault String :=
  indentedWithin nestingLimit v

example : (Json.obj [("a", .arr [.int 1, .null]), ("b", .str "\n")]).compactText =
    "\x7b\"a\":[1,null],\"b\":\"\\n\"\x7d" := by decide +kernel

example : (Json.arr [.int (-3), .arr []]).indentedText = "[\n  -3,\n  []\n]" := by decide +kernel

end Json
end UsagePolicy
