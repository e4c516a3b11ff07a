/-!
# Encodings

A text that is sent as bytes is in UTF-8, UTF-16 or UTF-32. The encoding shows in the zeros
among the first four bytes as long as the text starts with ASCII characters. Numbers above the
last code point and units that are cut short are refused; a surrogate without its partner is
read as the replacement character.
-/
namespace UsagePolicy.Text

def isHighSurrogate (n : Nat) : Bool := 0xd800 ≤ n && n ≤ 0xdbff
def isLowSurrogate (n : Nat) : Bool := 0xdc00 ≤ n && n ≤ 0xdfff

/-- The character of a code unit; a lone surrogate becomes the replacement character. -/
def ofCodeUnit (n : Nat) : Char :=
  if isHighSurrogate n || isLowSurrogate n then Char.ofNat 0xfffd else Char.ofNat n

def joinSurrogates (high low : Nat) : Char :=
  Char.ofNat (0x10000 + (high - 0xd800) * 0x400 + (low - 0xdc00))

def ofUnits16 : List Nat → List Char
  | [] => []
  | [unit] => [ofCodeUnit unit]
  | first :: second :: rest =>
    if isHighSurrogate first && isLowSurrogate second then
      joinSurrogates first second :: ofUnits16 rest
    else ofCodeUnit first :: ofUnits16 (second :: rest)

def ofUnit32? (n : Nat) : Option Char :=
  if n < 0x110000 then some (ofCodeUnit n) else none

inductive ByteOrder where
  | bigEndian
  | littleEndian
  deriving DecidableEq, Repr

def ByteOrder.number (order : ByteOrder) (bytes : List UInt8) : Nat :=
  let bytes := match order with
    | bigEndian => bytes
    | littleEndian => bytes.reverse
  bytes.foldl (fun acc b => 256 * acc + b.toNat) 0

def units16? (order : ByteOrder) : List UInt8 → Option (List Nat)
  | [] => some []
  | a :: b :: rest => (units16? order rest).map (order.number [a, b] :: ·)
  | _ => none

def units32? (order : ByteOrder) : List UInt8 → Option (List Nat)
  | [] => some []
  | a :: b :: c :: d :: rest => (units32? order rest).map (order.number [a, b, c, d] :: ·)
  | _ => none

inductive Encoding where
  | utf8
  | utf16 (order : ByteOrder)
  | utf32 (order : ByteOrder)
  deriving DecidableEq, Repr

/-- The encoding that the zeros among the first bytes suggest. -/
def Encoding.detect : List UInt8 → Encoding
  | a :: b :: c :: d :: _ =>
    if a = 0 then if b = 0 then .utf32 .bigEndian else .utf16 .bigEndian
    else if b = 0 then
      if c = 0 && d = 0 then .utf32 .littleEndian else .utf16 .littleEndian
    else .utf8
  | [a, b] =>
    if a = 0 then .utf16 .bigEndian else if b = 0 then .utf16 .littleEndian else .utf8
  | _ => .utf8

def byteOrderMark : Char := Char.ofNat 0xfeff

/-- The characters that the bytes of a text stand for in the encoding that they suggest. Those of
UTF-8 are the text's own, without the byte order mark that may come in front. -/
def decode? (text : String) : Option (List Char) :=
  let bytes := text.toUTF8.data.toList
  match Encoding.detect bytes with
  | .utf8 =>
    match text.toList with
    | [] => some []
    | c :: rest => some (if c = byteOrderMark then rest else c :: rest)
  | .utf16 order => (units16? order bytes).map ofUnits16
  | .utf32 order => (units32? order bytes).bind (·.mapM ofUnit32?)

example : decode? "\x00[\x00]" = some ['[', ']'] := by decide +kernel

example : decode? "1\x00\x00\x00x" = none := by decide +kernel

end UsagePolicy.Text
