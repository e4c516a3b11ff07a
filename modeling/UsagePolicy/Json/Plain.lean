import UsagePolicy.Json.Basic
import UsagePolicy.Number.Shortest
import UsagePolicy.Text.Hex
import UsagePolicy.Text.Printable

/-!
# Plain text

The text that a value contributes to another text, such as an address. A text contributes
itself. Any other value is spelled out on one line, and the texts in it are quoted: with single
quotes, unless the text holds one of them and no double quote.
-/
namespace UsagePolicy
namespace Json

/-- The shortest escape for a character that is not printable. -/
def escapeUnprintable (c : Char) : List Char :=
  let n := c.toNat
  if n < 0x100 then '\\' :: 'x' :: Text.hexPadded 2 n
  else if n < 0x10000 then '\\' :: 'u' :: Text.hexPadded 4 n
  else '\\' :: 'U' :: Text.hexPadded 8 n

def escapePlain (mark c : Char) : List Char :=
  if c = mark || c = '\\' then ['\\', c]
  else if c = '\n' then ['\\', 'n']
  else if c = '\r' then ['\\', 'r']
  else if c = '\t' then ['\\', 't']
  else if Text.isPrintable c then [c]
  else escapeUnprintable c

def quotePlain (s : String) : List Char :=
  let cs := s.toList
  let mark := if cs.contains '\'' && !cs.contains '"' then '"' else '\''
  mark :: (cs.flatMap (escapePlain mark) ++ [mark])

/-- Numbers are written as in any value, the ones that are not finite by short words. -/
def plainNumber : Binary64 → List Char
  | .nan => "nan".toList
  | .infinity negative => (if negative then "-inf" else "inf").toList
  | x => x.text .standard

mutual

def spell : Json → List Char
  | .null => "None".toList
  | .bool b => (if b then "True" else "False").toList
  | .int n => Numeral.ofInt n
  | .float x => plainNumber x
  | .str s => quotePlain s
  | .arr items => '[' :: ([',', ' '].intercalate (spellItems items) ++ [']'])
  | .obj fields => '\x7b' :: ([',', ' '].intercalate (spellFields fields) ++ ['\x7d'])

def spellItems : List Json → List (List Char)
  | [] => []
  | v :: rest => spell v :: spellItems rest

def spellFields : Fields → List (List Char)
  | [] => []
  | (name, v) :: rest => (quotePlain name ++ ':' :: ' ' :: spell v) :: spellFields rest

end

def plainText : Json → String
  | .str s => s
  | v => String.ofList v.spell

@[simp] theorem plainText_str (s : String) : plainText (.str s) = s := rfl

example : (Json.arr [.str "x", .bool true, .null, .str "it's"]).plainText =
    "['x', True, None, \"it's\"]" := by decide +kernel

end Json
end UsagePolicy
