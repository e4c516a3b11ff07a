import Mathlib.Tactic.SplitIfs
import UsagePolicy.Proofs.Number.Digits
import UsagePolicy.Json.Printer
import UsagePolicy.Json.Reader

/-!
# Numbers and texts read back

What is written for an integer or a text is read with its own value, whatever follows it. A number
has to end there: what follows may not go on with it.
-/
namespace UsagePolicy
namespace Json

/-- Nothing of the text could still belong to an integer in front of it. -/
def EndsNumber (rest : List Char) : Prop :=
  ∀ c ∈ rest.head?, c.isDigit = false ∧ c ≠ '.' ∧ c ≠ 'e' ∧ c ≠ 'E'

theorem endsNumber_nil : EndsNumber [] := by
  intro c hc
  cases hc

theorem endsNumber_cons {c : Char} (h : c.isDigit = false ∧ c ≠ '.' ∧ c ≠ 'e' ∧ c ≠ 'E')
    (rest : List Char) : EndsNumber (c :: rest) := by
  intro d hd
  obtain rfl := Option.some.inj hd
  exact h

theorem readWhole?_ofNat (n : Nat) {rest : List Char} (hrest : EndsNumber rest) :
    readWhole? (Numeral.ofNat n ++ rest) = some (Numeral.ofNat n, rest) := by
  by_cases h : n = 0
  · subst h
    rfl
  · obtain ⟨c, cs, heq, hc⟩ := Numeral.ofNat_eq_cons_of_ne_zero h
    have hdigits : ∀ d ∈ c :: cs, d.isDigit = true := by
      rw [← heq]
      intro d
      exact Numeral.isDigit_of_mem_ofNat
    obtain ⟨htake, hdrop⟩ := Numeral.span_isDigit_append hdigits fun d hd => (hrest d hd).1
    rw [heq, List.cons_append] at *
    unfold readWhole?
    split
    · next hcons => exact absurd (List.cons.inj hcons).1 hc
    · next hcons =>
      obtain ⟨rfl, -⟩ := List.cons.inj hcons
      simp [hdigits, spanDigits, htake, hdrop]
    · next hnil => cases hnil

theorem readFraction_of_endsNumber {rest : List Char} (hrest : EndsNumber rest) :
    readFraction rest = ([], rest) := by
  unfold readFraction
  split
  · exact absurd rfl (hrest '.' rfl).2.1
  · rfl

theorem readExponent_of_endsNumber {rest : List Char} (hrest : EndsNumber rest) :
    readExponent rest = (none, rest) := by
  cases rest with
  | nil => rfl
  | cons c rest =>
    obtain ⟨-, -, hlower, hupper⟩ := hrest c rfl
    simp [readExponent, hlower, hupper]

theorem readUnsigned_ofNat (negative : Bool) (start : List Char) {n : Nat} {rest : List Char}
    (hlimit : (Numeral.ofNat n).length ≤ Numeral.digitLimit) (hrest : EndsNumber rest) :
    readUnsigned negative start (Numeral.ofNat n ++ rest) =
      .ok (.int (Numeral.signed negative n), rest) := by
  simp [readUnsigned, readWhole?_ofNat n hrest, readFraction_of_endsNumber hrest,
    readExponent_of_endsNumber hrest, hlimit, Numeral.value_ofNat]

theorem afterWord?_of_head_ne (word : String) {c d : Char} {letters : List Char}
    (hword : word.toList = d :: letters) (h : d ≠ c) (cs : List Char) :
    afterWord? word (c :: cs) = none := by
  simp [afterWord?, hword, List.isPrefixOf, h]

theorem readWord?_of_isDigit {c : Char} (h : c.isDigit = true) (cs : List Char) :
    readWord? (c :: cs) = none ∧ readWord? ('-' :: c :: cs) = none := by
  have hne : ∀ d, d.isDigit = false → d ≠ c := by
    rintro d hd rfl
    rw [h] at hd
    cases hd
  constructor
  · simp [readWord?, words, afterWord?_of_head_ne "null" rfl (hne 'n' rfl),
      afterWord?_of_head_ne "true" rfl (hne 't' rfl),
      afterWord?_of_head_ne "false" rfl (hne 'f' rfl),
      afterWord?_of_head_ne "NaN" rfl (hne 'N' rfl),
      afterWord?_of_head_ne "Infinity" rfl (hne 'I' rfl),
      afterWord?_of_head_ne "-Infinity" rfl (hne '-' rfl)]
  · have hinfinity : afterWord? "-Infinity" ('-' :: c :: cs) = none := by
      simp [afterWord?, List.isPrefixOf, hne 'I' rfl]
    simp [readWord?, words, hinfinity,
      afterWord?_of_head_ne "null" rfl (show 'n' ≠ '-' by decide),
      afterWord?_of_head_ne "true" rfl (show 't' ≠ '-' by decide),
      afterWord?_of_head_ne "false" rfl (show 'f' ≠ '-' by decide),
      afterWord?_of_head_ne "NaN" rfl (show 'N' ≠ '-' by decide),
      afterWord?_of_head_ne "Infinity" rfl (show 'I' ≠ '-' by decide)]

theorem readAtom_ofInt {n : Int} {rest : List Char}
    (hlimit : (Numeral.ofNat n.natAbs).length ≤ Numeral.digitLimit) (hrest : EndsNumber rest) :
    readAtom (Numeral.ofInt n ++ rest) = .ok (.int n, rest) := by
  obtain ⟨c, cs, heq, hc⟩ := Numeral.exists_ofNat_eq_cons n.natAbs
  obtain ⟨hword, hsigned⟩ := readWord?_of_isDigit hc (cs ++ rest)
  cases n with
  | ofNat n =>
    have htext : Numeral.ofInt (.ofNat n) ++ rest = c :: (cs ++ rest) :=
      congrArg (· ++ rest) heq
    have hread := readUnsigned_ofNat false (c :: (cs ++ rest)) hlimit hrest
    rw [heq, List.cons_append] at hread
    rw [htext, readAtom]
    · simp [hword, hread, Numeral.signed]
    · intro more h
      obtain ⟨rfl, -⟩ := List.cons.inj h
      cases hc
  | negSucc n =>
    have htext : Numeral.ofInt (.negSucc n) ++ rest = '-' :: c :: (cs ++ rest) :=
      congrArg ('-' :: · ++ rest) heq
    have hread := readUnsigned_ofNat true ('-' :: c :: (cs ++ rest)) hlimit hrest
    rw [heq, List.cons_append] at hread
    rw [htext, readAtom, hsigned]
    rw [hread]
    rfl

theorem readUnicodeEscape_hexPadded {n : Nat} (h : n < 0x20) (next : Char) (rest : List Char) :
    readUnicodeEscape ('u' :: (Text.hexPadded 4 n ++ next :: rest)) =
      .ok (Char.ofNat n, next :: rest) := by
  have hread : ∀ n < 0x20, Text.readHex? (Text.hexPadded 4 n) = some n ∧
      Text.isHighSurrogate n = false ∧ Text.ofCodeUnit n = Char.ofNat n := by decide
  obtain ⟨hdigits, hlone, hunit⟩ := hread n h
  obtain ⟨a, b, c, d, heq⟩ : ∃ a b c d, Text.hexPadded 4 n = [a, b, c, d] := ⟨_, _, _, _, rfl⟩
  rw [heq] at hdigits ⊢
  simp [readUnicodeEscape, readCodeUnit, hdigits, hlone, hunit]

/-- A character stands for itself, or is escaped in a way that is read as the character. -/
theorem escape_cases (c : Char) :
    (escape c = [c] ∧ c ≠ '"' ∧ c ≠ '\\' ∧ ¬ c.toNat < 0x20) ∨
      ∃ letters, escape c = '\\' :: letters ∧ ∀ opening next rest,
        readEscape opening ('\\' :: (letters ++ next :: rest)) = .ok (c, next :: rest) := by
  unfold escape
  split_ifs with hquote hbackslash hnewline hreturn htab hbackspace hfeed hcontrol
  · exact Or.inr ⟨['"'], rfl, fun _ _ _ => by rw [hquote]; rfl⟩
  · exact Or.inr ⟨['\\'], rfl, fun _ _ _ => by rw [hbackslash]; rfl⟩
  · exact Or.inr ⟨['n'], rfl, fun _ _ _ => by rw [hnewline]; rfl⟩
  · exact Or.inr ⟨['r'], rfl, fun _ _ _ => by rw [hreturn]; rfl⟩
  · exact Or.inr ⟨['t'], rfl, fun _ _ _ => by rw [htab]; rfl⟩
  · exact Or.inr ⟨['b'], rfl, fun _ _ _ => by rw [hbackspace]; rfl⟩
  · exact Or.inr ⟨['f'], rfl, fun _ _ _ => by rw [hfeed]; rfl⟩
  · refine Or.inr ⟨'u' :: Text.hexPadded 4 c.toNat, rfl, fun opening next rest => ?_⟩
    have hread := readUnicodeEscape_hexPadded hcontrol next rest
    rw [Char.ofNat_toNat] at hread
    exact hread
  · exact Or.inl ⟨rfl, hquote, hbackslash, hcontrol⟩

theorem readChars_escape (opening : List Char) (cs : List Char) (seen rest : List Char)
    {fuel : Nat} (hfuel : (cs.flatMap escape ++ '"' :: rest).length ≤ fuel) :
    readChars fuel opening seen (cs.flatMap escape ++ '"' :: rest) =
      .ok (String.ofList (seen.reverse ++ cs), rest) := by
  induction cs generalizing seen fuel with
  | nil =>
    obtain ⟨fuel, rfl⟩ : ∃ k, fuel = k + 1 := ⟨fuel - 1, by simp at hfuel; omega⟩
    simp [readChars]
  | cons c cs ih =>
    obtain ⟨next, more, hmore⟩ : ∃ next more, cs.flatMap escape ++ '"' :: rest = next :: more :=
      List.exists_cons_of_ne_nil (by simp)
    rw [List.flatMap_cons, List.append_assoc, hmore] at hfuel ⊢
    rw [hmore] at ih
    rcases escape_cases c with ⟨heq, hquote, hbackslash, hcontrol⟩ | ⟨letters, heq, hread⟩
    · rw [heq, List.singleton_append, List.length_cons] at hfuel
      obtain ⟨fuel, rfl⟩ : ∃ k, fuel = k + 1 := ⟨fuel - 1, by omega⟩
      rw [heq, List.singleton_append, readChars]
      simp only [hquote, hbackslash, hcontrol, if_false]
      rw [ih (c :: seen) (by omega)]
      simp
    · rw [heq, List.cons_append, List.length_cons, List.length_append] at hfuel
      obtain ⟨fuel, rfl⟩ : ∃ k, fuel = k + 1 := ⟨fuel - 1, by omega⟩
      rw [heq, List.cons_append, readChars]
      simp only [hread, if_true, show '\\' ≠ '"' by decide, if_false]
      rw [ih (c :: seen) (by omega)]
      simp

theorem readChars_toList (opening : List Char) (s : String) (rest : List Char) {fuel : Nat}
    (hfuel : (s.toList.flatMap escape ++ '"' :: rest).length ≤ fuel) :
    readChars fuel opening [] (s.toList.flatMap escape ++ '"' :: rest) = .ok (s, rest) := by
  rw [readChars_escape opening s.toList [] rest hfuel]
  simp

end Json
end UsagePolicy
