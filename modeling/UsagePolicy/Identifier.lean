import UsagePolicy.Text.Hex

/-!
# Identifiers

An identifier is made of sixteen bytes. Four bits are forced to the version 4 and two bits to
the variant, and the bytes are written in lower-case hexadecimal digits in groups of
8, 4, 4, 4 and 12.
-/
namespace UsagePolicy
namespace Identifier

def stamp (bytes : Vector UInt8 16) : Vector UInt8 16 :=
  (bytes.set 6 ((bytes[6] &&& 0x0f) ||| 0x40)).set 8 ((bytes[8] &&& 0x3f) ||| 0x80)

def hexText (bytes : List UInt8) : List Char :=
  bytes.flatMap fun b => Text.hexPadded 2 b.toNat

/-- Thirty-two digits with a hyphen after the 8th, 12th, 16th and 20th. -/
def grouped (digits : List Char) : List Char :=
  digits.take 8 ++ '-' :: (digits.drop 8).take 4 ++ '-' :: (digits.drop 12).take 4 ++
    '-' :: (digits.drop 16).take 4 ++ '-' :: digits.drop 20

def ofBytes (bytes : Vector UInt8 16) : String :=
  String.ofList (grouped (hexText (stamp bytes).toList))

theorem ofBytes_ne_empty (bytes : Vector UInt8 16) : ofBytes bytes ≠ "" := by
  intro h
  have hempty := congrArg String.toList h
  simp [ofBytes, grouped] at hempty

/-- The identifier with the bits of a number below 2^48 and zeros elsewhere. -/
def numbered (n : Nat) : String :=
  String.ofList ("00000000-0000-4000-8000-".toList ++ Text.hexPadded 12 n)

example : ofBytes (Vector.replicate 16 0x7f) = "7f7f7f7f-7f7f-4f7f-bf7f-7f7f7f7f7f7f" := by
  decide +kernel

end Identifier
end UsagePolicy
