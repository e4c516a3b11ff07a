/-!
# Lines

A text is divided into lines at its line breaks. A carriage return with a line feed after it is
one break. A break ends its line, so that the empty text has no line and nothing follows the
last break. No line holds a break, and a text without a break is one line once a break ends it.
-/
namespace UsagePolicy.Text

/-- The characters from line feed to carriage return, the separators U+001C to U+001E, the next
line U+0085, and the separators of lines and paragraphs. -/
def isLineBreak (c : Char) : Bool :=
  let n := c.toNat
  (0x0a ≤ n && n ≤ 0x0d) || (0x1c ≤ n && n ≤ 0x1e) || n == 0x85 || n == 0x2028 || n == 0x2029

def lines : List Char → List (List Char)
  | [] => []
  | '\r' :: '\n' :: rest => [] :: lines rest
  | c :: rest =>
    if isLineBreak c then [] :: lines rest
    else
      match lines rest with
      | line :: more => (c :: line) :: more
      | [] => [[c]]

theorem isLineBreak_of_mem_lines {cs line : List Char} (h : line ∈ lines cs) :
    ∀ c ∈ line, isLineBreak c = false := by
  fun_induction lines cs generalizing line with
  | case1 => simp at h
  | case2 rest ih =>
    rcases List.mem_cons.1 h with rfl | h
    · simp
    · exact ih h
  | case3 c rest _ hc ih =>
    rcases List.mem_cons.1 h with rfl | h
    · simp
    · exact ih h
  | case4 c rest _ hc first more hl ih =>
    rcases List.mem_cons.1 h with rfl | h
    · intro d hd
      rcases List.mem_cons.1 hd with rfl | hd
      · simpa using hc
      · exact ih (hl ▸ List.mem_cons_self) d hd
    · exact ih (hl ▸ List.mem_cons_of_mem _ h)
  | case5 c rest _ hc hl ih =>
    simp_all

theorem lines_of_no_break {cs : List Char} (h : ∀ c ∈ cs, isLineBreak c = false) :
    lines (cs ++ ['\n']) = [cs] := by
  induction cs with
  | nil => decide
  | cons c rest ih =>
    have hc : isLineBreak c = false := h c List.mem_cons_self
    have hr : c ≠ '\r' := by
      rintro rfl
      exact absurd hc (by decide)
    have hrest := ih fun d hd => h d (List.mem_cons_of_mem _ hd)
    rw [List.cons_append, lines.eq_3]
    · simp [hc, hrest]
    · simp [hr]

/-- The lines of a text that is printed with a break after it. -/
def printedLines (text : String) : List String :=
  (lines (text.toList ++ ['\n'])).map String.ofList

example : printedLines "a\r\nb\r" = ["a", "b"] := by decide +kernel

example : printedLines "a\n" = ["a", ""] := by decide +kernel

end UsagePolicy.Text
