/-!
# Blank characters

Text is trimmed and skipped by two classes of characters: those with the Unicode property
White_Space, and the same class with the four information separators added. The first class
is contained in the second.
-/
namespace UsagePolicy.Text

def isSpace (c : Char) : Bool :=
  let n := c.toNat
  (0x09 ≤ n && n ≤ 0x0d) || n == 0x20 || n == 0x85 || n == 0xa0 || n == 0x1680 ||
    (0x2000 ≤ n && n ≤ 0x200a) || n == 0x2028 || n == 0x2029 || n == 0x202f || n == 0x205f ||
    n == 0x3000

/-- White space and the information separators U+001C to U+001F. -/
def isBlank (c : Char) : Bool :=
  isSpace c || (0x1c ≤ c.toNat && c.toNat ≤ 0x1f)

theorem isBlank_of_isSpace {c : Char} (h : isSpace c = true) : isBlank c = true := by
  simp [isBlank, h]

/-- Removes the longest run of characters in the class from the end. -/
def trimEnd (inClass : Char → Bool) (cs : List Char) : List Char :=
  (cs.reverse.dropWhile inClass).reverse

/-- Removes the longest runs of characters in the class from both ends. -/
def trim (inClass : Char → Bool) (cs : List Char) : List Char :=
  trimEnd inClass (cs.dropWhile inClass)

end UsagePolicy.Text
