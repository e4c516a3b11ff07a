import Mathlib.Data.List.TakeWhile
import UsagePolicy.Text.Blank
import UsagePolicy.Text.Split

/-!
# Pieces between separators

Where the pieces of a text stand in it, and what is left of a text when it is trimmed, both told
without splitting or trimming anything: a piece is a stretch without separators that has one on
either side or reaches to the end, and a trimmed text is what lies between blanks.
-/
namespace UsagePolicy.Text

variable {separator : Char} {cs piece : List Char} {inClass : Char → Bool}

/-- The piece holds no separator, and stands between two of them or between one and an end of the
text. -/
def Separates (separator : Char) (cs piece : List Char) : Prop :=
  separator ∉ piece ∧ ∃ front back, cs = front ++ piece ++ back ∧
    (∀ c ∈ front.getLast?, c = separator) ∧ ∀ c ∈ back.head?, c = separator

theorem split_eq_splitOn (separator : Char) (cs : List Char) :
    split separator cs = cs.splitOn separator := by
  induction cs with
  | nil => rfl
  | cons c rest ih =>
    rw [split, List.splitOn_cons_eq_if_modifyHead, ← ih]
    simp only [beq_iff_eq]
    split
    · rfl
    · obtain ⟨piece, more, h⟩ := List.exists_cons_of_ne_nil (split_ne_nil separator rest)
      rw [h]
      rfl

theorem exists_around_of_mem {pieces : List (List Char)} (h : piece ∈ pieces) :
    ∃ front back, [separator].intercalate pieces = front ++ piece ++ back ∧
      (∀ c ∈ front.getLast?, c = separator) ∧ ∀ c ∈ back.head?, c = separator := by
  induction pieces with
  | nil => cases h
  | cons first rest ih =>
    cases rest with
    | nil =>
      rw [List.mem_singleton.mp h]
      exact ⟨[], [], by simp, by simp, by simp⟩
    | cons next more =>
      rw [List.intercalate_cons_cons]
      rcases List.mem_cons.mp h with rfl | h
      · exact ⟨[], separator :: [separator].intercalate (next :: more), by simp, by simp, by simp⟩
      · obtain ⟨front, back, heq, hfront, hback⟩ := ih h
        refine ⟨first ++ separator :: front, back, by simp [heq], ?_, hback⟩
        intro c hc
        rw [List.getLast?_append, List.getLast?_cons] at hc
        cases hlast : front.getLast? with
        | none => simpa [hlast, eq_comm] using hc
        | some d =>
          have hd : d = separator := hfront d hlast
          simpa [hlast, hd, eq_comm] using hc

theorem mem_split_iff : piece ∈ split separator cs ↔ Separates separator cs piece := by
  constructor
  · intro h
    refine ⟨not_mem_of_mem_split h, ?_⟩
    obtain ⟨front, back, heq, hends⟩ := @exists_around_of_mem separator _ _ h
    rw [intercalate_split] at heq
    exact ⟨front, back, heq, hends⟩
  · rintro ⟨hpiece, front, back, rfl, hfront, hback⟩
    have hend : ∀ back : List Char, (∀ c ∈ back.head?, c = separator) →
        piece ∈ (piece ++ back).splitOn separator := by
      intro back hback
      cases back with
      | nil => simp [List.splitOn_eq_singleton hpiece]
      | cons c rest =>
        obtain rfl : c = separator := hback c rfl
        rw [List.splitOn_append_cons_self, List.splitOn_eq_singleton hpiece]
        simp
    rw [split_eq_splitOn, List.append_assoc]
    rcases List.eq_nil_or_concat front with rfl | ⟨start, c, rfl⟩
    · exact hend back hback
    · obtain rfl : c = separator := hfront c (by simp)
      rw [List.concat_eq_append, List.append_assoc, List.cons_append, List.nil_append,
        List.splitOn_append_cons_self]
      exact List.mem_append_right _ (hend back hback)

/-- The text is the core with characters of the class around it, and the core neither starts nor
ends with one. -/
def IsCore (inClass : Char → Bool) (cs core : List Char) : Prop :=
  ∃ left right, cs = left ++ core ++ right ∧ (∀ c ∈ left ++ right, inClass c = true) ∧
    (∀ c ∈ core.head?, inClass c = false) ∧ ∀ c ∈ core.getLast?, inClass c = false

theorem dropWhile_eq_iff {rest : List Char} :
    cs.dropWhile inClass = rest ↔ ∃ left, cs = left ++ rest ∧ (∀ c ∈ left, inClass c = true) ∧
      ∀ c ∈ rest.head?, inClass c = false := by
  constructor
  · rintro rfl
    refine ⟨cs.takeWhile inClass, List.takeWhile_append_dropWhile.symm,
      fun c hc => List.mem_takeWhile_imp hc, fun c hc => ?_⟩
    have hnot := List.head?_dropWhile_not inClass cs
    rwa [Option.mem_def.mp hc] at hnot
  · rintro ⟨left, rfl, hleft, hrest⟩
    rw [List.dropWhile_append_of_pos hleft]
    cases rest with
    | nil => rfl
    | cons c rest => rw [List.dropWhile_cons_of_neg (by simp [hrest c rfl])]

theorem trimEnd_eq_iff {core : List Char} :
    trimEnd inClass cs = core ↔ ∃ right, cs = core ++ right ∧ (∀ c ∈ right, inClass c = true) ∧
      ∀ c ∈ core.getLast?, inClass c = false := by
  rw [trimEnd, List.reverse_eq_iff, dropWhile_eq_iff]
  constructor
  · rintro ⟨left, heq, hleft, hcore⟩
    refine ⟨left.reverse, ?_, by simpa using hleft, by simpa using hcore⟩
    rw [← List.reverse_reverse cs, heq, List.reverse_append, List.reverse_reverse]
  · rintro ⟨right, rfl, hright, hcore⟩
    exact ⟨right.reverse, List.reverse_append, by simpa using hright, by simpa using hcore⟩

theorem trim_eq_iff {core : List Char} : trim inClass cs = core ↔ IsCore inClass cs core := by
  constructor
  · intro h
    obtain ⟨right, hdrop, hright, hlast⟩ := trimEnd_eq_iff.mp h
    obtain ⟨left, heq, hleft, hfirst⟩ := dropWhile_eq_iff.mp hdrop
    refine ⟨left, right, by rw [heq, List.append_assoc], ?_, ?_, hlast⟩
    · rw [List.forall_mem_append]
      exact ⟨hleft, hright⟩
    · intro c hc
      exact hfirst c (by rw [List.head?_append, Option.mem_def.mp hc]; rfl)
  · rintro ⟨left, right, rfl, hblank, hfirst, hlast⟩
    rw [List.forall_mem_append] at hblank
    obtain ⟨hleft, hright⟩ := hblank
    -- An empty core leaves blanks alone, all of which are dropped at the start.
    cases core with
    | nil =>
      have hall : ∀ c ∈ left ++ right, inClass c = true :=
        List.forall_mem_append.mpr ⟨hleft, hright⟩
      rw [List.append_nil, trim, List.dropWhile_eq_nil_iff.mpr hall]
      rfl
    | cons c core =>
      have hdrop : (left ++ c :: core ++ right).dropWhile inClass = c :: core ++ right :=
        dropWhile_eq_iff.mpr ⟨left, List.append_assoc _ _ _, hleft, hfirst⟩
      rw [trim, hdrop]
      exact trimEnd_eq_iff.mpr ⟨right, rfl, hright, hlast⟩

end UsagePolicy.Text
