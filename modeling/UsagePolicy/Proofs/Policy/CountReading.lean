import Mathlib.Algebra.Order.Field.Basic
import Mathlib.Data.List.TakeWhile
import Mathlib.Data.Nat.Digits.Lemmas
import Mathlib.Data.Rat.Floor
import Mathlib.Tactic.Ring
import UsagePolicy.Policy.UsageCount
import UsagePolicy.Proofs.Json.Limits

/-!
# What a submitted count denotes

A count is submitted as any value, and the rules below say which number each value denotes. A text
denotes the number that it starts with: after as many blanks as there are, a sign or none, and as
many digits as follow. The count that a value is read as is the one that the rules give it, and they
give one to every value but a text of too many digits and a list or an object that has no text.
-/
namespace UsagePolicy

namespace Binary64

/-- The exact value of a finite number; zero for any other. -/
def value : Binary64 → ℚ
  | .finite negative significand exponent =>
    (if negative then -1 else 1) * significand * 2 ^ exponent
  | _ => 0

theorem two_zpow_eq (exponent : Int) :
    (2 : ℚ) ^ exponent = 2 ^ exponent.toNat / 2 ^ (-exponent).toNat := by
  rcases Int.le_total 0 exponent with h | h
  · obtain ⟨n, rfl⟩ := Int.eq_ofNat_of_zero_le h
    simp
  · obtain ⟨n, hn⟩ := Int.eq_ofNat_of_zero_le (Int.neg_nonneg_of_nonpos h)
    obtain rfl : exponent = -(n : Int) := by omega
    simp

theorem value_eq_toRatio (x : Binary64) : x.value = (x.toRatio.1 : ℚ) / (x.toRatio.2 : ℚ) := by
  cases x with
  | nan | infinity negative => simp [value, toRatio]
  | finite negative significand exponent =>
    cases negative <;>
      simp [value, toRatio, scale, Numeral.signed, two_zpow_eq exponent, mul_div_assoc, neg_div]

theorem truncate_eq (x : Binary64) :
    x.truncate = if 0 ≤ x.value then ⌊x.value⌋ else ⌈x.value⌉ := by
  have hden : (0 : ℚ) < x.toRatio.2 := by
    cases x <;> simp [toRatio, scale]
  have hsign : (0 : ℚ) ≤ (x.toRatio.1 : ℚ) / (x.toRatio.2 : ℚ) ↔ 0 ≤ x.toRatio.1 := by
    rw [le_div_iff₀ hden, zero_mul, Int.cast_nonneg_iff]
  rw [value_eq_toRatio, Rat.floor_intCast_div_natCast, Rat.ceil_intCast_div_natCast, truncate]
  split
  · next h => exact Int.tdiv_eq_ediv_of_nonneg (hsign.mp h)
  · next h =>
    have hneg : 0 ≤ -x.toRatio.1 := by
      have := mt hsign.mpr h
      omega
    rw [← Int.tdiv_eq_ediv_of_nonneg hneg, Int.neg_tdiv, Int.neg_neg]

end Binary64

theorem Numeral.ofValues_eq_ofDigits (digits : List Nat) :
    Numeral.ofValues digits = Nat.ofDigits 10 digits.reverse := by
  rw [Nat.ofDigits_eq_foldr, List.foldr_reverse, Numeral.ofValues]
  simp only [Nat.add_comm, Nat.cast_id]

namespace UsageCount

theorem atLeastOne_eq_max (n : Int) : atLeastOne n = max 1 n := by
  unfold atLeastOne
  split <;> omega

/-- The parts of a text that may start with a number: blanks, a sign, digits and the rest. Of each
there is as much as can be. -/
structure Parts (text blanks sign digits rest : List Char) : Prop where
  whole : text = blanks ++ (sign ++ (digits ++ rest))
  all_blank : ∀ c ∈ blanks, Text.isBlank c = true
  blanks_end : ∀ c ∈ (sign ++ (digits ++ rest)).head?, Text.isBlank c = false
  sign_form : sign = [] ∨ sign = ['+'] ∨ sign = ['-']
  sign_end : sign = [] → ∀ c ∈ (digits ++ rest).head?, c ≠ '+' ∧ c ≠ '-'
  all_digits : ∀ c ∈ digits, (Text.digitValue? c).isSome = true
  digits_end : ∀ c ∈ rest.head?, Text.digitValue? c = none

def number (sign digits : List Char) : Int :=
  let magnitude : Nat := Nat.ofDigits 10 (digits.filterMap Text.digitValue?).reverse
  if sign = ['-'] then -magnitude else magnitude

theorem head?_dropWhile {p : Char → Bool} {cs : List Char} :
    ∀ c ∈ (cs.dropWhile p).head?, p c = false := by
  intro c hc
  have h := List.head?_dropWhile_not p cs
  rwa [Option.mem_def.mp hc] at h

theorem exists_parts_of_signed {text blanks sign cs : List Char}
    (htext : text = blanks ++ (sign ++ cs)) (hblanks : ∀ c ∈ blanks, Text.isBlank c = true)
    (hend : ∀ c ∈ (sign ++ cs).head?, Text.isBlank c = false)
    (hsign : sign = [] ∨ sign = ['+'] ∨ sign = ['-'])
    (hnone : sign = [] → ∀ c ∈ cs.head?, c ≠ '+' ∧ c ≠ '-') :
    ∃ digits rest, Parts text blanks sign digits rest := by
  let isDigit : Char → Bool := fun c => (Text.digitValue? c).isSome
  have hsplit : cs.takeWhile isDigit ++ cs.dropWhile isDigit = cs := List.takeWhile_append_dropWhile
  refine ⟨cs.takeWhile isDigit, cs.dropWhile isDigit, ?_, hblanks, ?_, hsign, ?_, ?_, ?_⟩
  · rw [hsplit, htext]
  · rwa [hsplit]
  · rwa [hsplit]
  · exact fun c => List.mem_takeWhile_imp
  · intro c hc
    exact Option.isNone_iff_eq_none.mp (Option.isSome_eq_false_iff.mp (head?_dropWhile c hc))

/-- Every text has these parts. -/
theorem exists_parts (text : List Char) :
    ∃ blanks sign digits rest, Parts text blanks sign digits rest := by
  have hsplit : text.takeWhile Text.isBlank ++ text.dropWhile Text.isBlank = text :=
    List.takeWhile_append_dropWhile
  have hblanks : ∀ c ∈ text.takeWhile Text.isBlank, Text.isBlank c = true :=
    fun c => List.mem_takeWhile_imp
  have hend : ∀ c ∈ (text.dropWhile Text.isBlank).head?, Text.isBlank c = false := head?_dropWhile
  refine ⟨text.takeWhile Text.isBlank, ?_⟩
  generalize text.dropWhile Text.isBlank = tail at hsplit hend
  by_cases hsigned : ∃ cs, tail = '+' :: cs ∨ tail = '-' :: cs
  · obtain ⟨cs, rfl | rfl⟩ := hsigned
    · exact ⟨['+'], exists_parts_of_signed hsplit.symm hblanks hend (by simp) (by simp)⟩
    · exact ⟨['-'], exists_parts_of_signed hsplit.symm hblanks hend (by simp) (by simp)⟩
  · refine ⟨[], exists_parts_of_signed hsplit.symm hblanks hend (by simp) fun _ c hc => ?_⟩
    cases tail with
    | nil => cases hc
    | cons d cs =>
      obtain rfl := Option.some.inj hc
      exact ⟨fun h => hsigned ⟨cs, Or.inl (by rw [h])⟩, fun h => hsigned ⟨cs, Or.inr (by rw [h])⟩⟩

theorem leadingDigits_append {digits rest : List Char}
    (hdigits : ∀ c ∈ digits, (Text.digitValue? c).isSome = true)
    (hend : ∀ c ∈ rest.head?, Text.digitValue? c = none) :
    Text.leadingDigits (digits ++ rest) = digits.filterMap Text.digitValue? := by
  induction digits with
  | nil =>
    cases rest with
    | nil => rfl
    | cons c cs => simp [Text.leadingDigits, hend c rfl]
  | cons c cs ih =>
    obtain ⟨d, hd⟩ := Option.isSome_iff_exists.mp (hdigits c (by simp))
    have hcs := ih fun e he => hdigits e (by simp [he])
    simp [Text.leadingDigits, hd, hcs]

variable {text blanks sign digits rest : List Char}

theorem Parts.dropWhile_isBlank (h : Parts text blanks sign digits rest) :
    text.dropWhile Text.isBlank = sign ++ (digits ++ rest) := by
  have hend := h.blanks_end
  rw [h.whole, List.dropWhile_append_of_pos h.all_blank]
  cases hcs : sign ++ (digits ++ rest) with
  | nil => rfl
  | cons c cs =>
    rw [hcs] at hend
    rw [List.dropWhile_cons_of_neg (by simp [hend c rfl])]

theorem Parts.splitSign (h : Parts text blanks sign digits rest) :
    Numeral.splitSign (sign ++ (digits ++ rest)) = (decide (sign = ['-']), digits ++ rest) := by
  rcases h.sign_form with rfl | rfl | rfl
  · have hnone := h.sign_end rfl
    rw [List.nil_append]
    unfold Numeral.splitSign
    split
    · next cs hcs => exact absurd rfl (hnone '-' (by rw [hcs]; rfl)).2
    · next cs hcs => exact absurd rfl (hnone '+' (by rw [hcs]; rfl)).1
    · rfl
  · rfl
  · rfl

theorem Parts.ofText {s : String} (h : Parts s.toList blanks sign digits rest) :
    ofText s =
      if digits = [] then .ok 1
      else if digits.length ≤ Numeral.digitLimit then .ok (max 1 (number sign digits))
      else .error ⟨digits.length⟩ := by
  have hlength : (digits.filterMap Text.digitValue?).length = digits.length :=
    List.filterMap_length_eq_length.mpr h.all_digits
  have hread := leadingDigits_append h.all_digits h.digits_end
  unfold UsageCount.ofText
  rw [h.dropWhile_isBlank, h.splitSign]
  simp only [hread]
  by_cases hnil : digits = []
  · simp [hnil]
  · have hne : digits.filterMap Text.digitValue? ≠ [] := by
      rwa [Ne, ← List.length_eq_zero_iff, hlength, List.length_eq_zero_iff]
    rw [if_neg hnil]
    split
    · next hvalues => exact absurd hvalues hne
    · rw [Numeral.ofValues?, hlength]
      by_cases hle : digits.length ≤ Numeral.digitLimit
      · rw [if_pos hle, if_pos hle, Numeral.ofValues_eq_ofDigits]
        simp [Except.map, atLeastOne_eq_max, number, Numeral.signed]
      · rw [if_neg hle, if_neg hle]
        rfl

/-- The number that each value denotes, or the fault of a text whose digits are too many. An array
or an object denotes one if it can be spelled at all. -/
inductive Denotes : Json → Except Fault Int → Prop
  | null : Denotes .null (.ok 1)
  | bool (b : Bool) : Denotes (.bool b) (.ok 1)
  | arr {items : List Json} : (Json.arr items).writeFault? Json.nestingLimit = none →
    Denotes (.arr items) (.ok 1)
  | obj {fields : Fields} : (Json.obj fields).writeFault? Json.nestingLimit = none →
    Denotes (.obj fields) (.ok 1)
  | unspelledArr {items : List Json} {fault : Json.WriteFault} :
    (Json.arr items).writeFault? Json.nestingLimit = some fault →
    Denotes (.arr items) (.error (.unspelled fault))
  | unspelledObj {fields : Fields} {fault : Json.WriteFault} :
    (Json.obj fields).writeFault? Json.nestingLimit = some fault →
    Denotes (.obj fields) (.error (.unspelled fault))
  | int (k : Int) : Denotes (.int k) (.ok (max 1 k))
  | notFinite {x : Binary64} : x.isFinite = false → Denotes (.float x) (.ok 1)
  | finite {x : Binary64} : x.isFinite = true →
    Denotes (.float x) (.ok (max 1 (if 0 ≤ x.value then ⌊x.value⌋ else ⌈x.value⌉)))
  | noDigits {s : String} {blanks sign rest : List Char} :
    Parts s.toList blanks sign [] rest → Denotes (.str s) (.ok 1)
  | text {s : String} {blanks sign digits rest : List Char} :
    Parts s.toList blanks sign digits rest → digits ≠ [] → digits.length ≤ 4300 →
    Denotes (.str s) (.ok (max 1 (number sign digits)))
  | tooLong {s : String} {blanks sign digits rest : List Char} :
    Parts s.toList blanks sign digits rest → 4300 < digits.length →
    Denotes (.str s) (.error (.tooLong ⟨digits.length⟩))

theorem Denotes.ofJson {v : Json} {r : Except Fault Int} (h : Denotes v r) : ofJson v = r := by
  cases h with
  | null | bool => rfl
  | arr hfault | unspelledArr hfault => rw [ofJson_arr, hfault]
  | obj hfault | unspelledObj hfault => rw [ofJson_obj, hfault]
  | int k => simp [UsageCount.ofJson, atLeastOne_eq_max]
  | notFinite hx => simp [UsageCount.ofJson, Binary64.truncate_of_not_finite hx, atLeastOne]
  | finite => simp only [UsageCount.ofJson, atLeastOne_eq_max, Binary64.truncate_eq]
  | noDigits hparts =>
    rw [ofJson_str, hparts.ofText]
    rfl
  | text hparts hne hle =>
    rw [ofJson_str, hparts.ofText, if_neg hne, Numeral.digitLimit, if_pos hle]
    rfl
  | tooLong hparts hlong =>
    have hne := List.ne_nil_of_length_pos (Nat.zero_lt_of_lt hlong)
    rw [ofJson_str, hparts.ofText, if_neg hne, Numeral.digitLimit,
      if_neg (Nat.not_le.mpr hlong)]
    rfl

theorem exists_denotes (v : Json) : ∃ r, Denotes v r := by
  cases v with
  | null => exact ⟨_, .null⟩
  | bool b => exact ⟨_, .bool b⟩
  | int k => exact ⟨_, .int k⟩
  | float x =>
    cases hx : x.isFinite with
    | false => exact ⟨_, .notFinite hx⟩
    | true => exact ⟨_, .finite hx⟩
  | str s =>
    obtain ⟨blanks, sign, digits, rest, hparts⟩ := exists_parts s.toList
    by_cases hnil : digits = []
    · subst hnil
      exact ⟨_, .noDigits hparts⟩
    · rcases Nat.lt_or_ge 4300 digits.length with hlong | hle
      · exact ⟨_, .tooLong hparts hlong⟩
      · exact ⟨_, .text hparts hnil hle⟩
  | arr items =>
    cases hfault : (Json.arr items).writeFault? Json.nestingLimit with
    | none => exact ⟨_, .arr hfault⟩
    | some fault => exact ⟨_, .unspelledArr hfault⟩
  | obj fields =>
    cases hfault : (Json.obj fields).writeFault? Json.nestingLimit with
    | none => exact ⟨_, .obj hfault⟩
    | some fault => exact ⟨_, .unspelledObj hfault⟩

theorem ofJson_eq_iff {v : Json} {r : Except Fault Int} : ofJson v = r ↔ Denotes v r := by
  refine ⟨fun h => ?_, Denotes.ofJson⟩
  obtain ⟨r', hr'⟩ := exists_denotes v
  obtain rfl : r' = r := by rw [← hr'.ofJson, h]
  exact hr'

theorem natAbs_number_lt (sign digits : List Char) :
    (number sign digits).natAbs < 10 ^ digits.length := by
  have hlt : Nat.ofDigits 10 (digits.filterMap Text.digitValue?).reverse <
      10 ^ (digits.filterMap Text.digitValue?).reverse.length := by
    apply Nat.ofDigits_lt_base_pow_length (by decide)
    intro d hd
    obtain ⟨c, -, hc⟩ := List.mem_filterMap.mp (List.mem_reverse.mp hd)
    exact Text.digitValue?_lt hc
  have hle : (digits.filterMap Text.digitValue?).reverse.length ≤ digits.length := by
    rw [List.length_reverse]
    exact List.length_filterMap_le _ _
  have habs : (number sign digits).natAbs =
      Nat.ofDigits 10 (digits.filterMap Text.digitValue?).reverse := by
    unfold number
    split <;> simp
  rw [habs]
  exact Nat.lt_of_lt_of_le hlt (Nat.pow_le_pow_right (by decide) hle)

/-- A count that is read from a value within the limits is short enough to be written. -/
theorem length_le_of_ofJson {v : Json} {n : Int} (hv : v.Limited) (h : ofJson v = .ok n) :
    (Numeral.ofNat n.natAbs).length ≤ Numeral.digitLimit := by
  have hone : (Numeral.ofNat (1 : Int).natAbs).length ≤ Numeral.digitLimit := by decide
  have hmax : ∀ k : Int, (Numeral.ofNat k.natAbs).length ≤ Numeral.digitLimit →
      (Numeral.ofNat (max 1 k).natAbs).length ≤ Numeral.digitLimit := by
    intro k hk
    rcases max_choice 1 k with h | h <;> rw [h] <;> assumption
  generalize hr : (Except.ok n : Except Fault Int) = r at h
  cases ofJson_eq_iff.mp h with
  | null | bool | arr | obj | notFinite | noDigits =>
    cases hr
    exact hone
  | int k =>
    cases hr
    exact hmax k hv
  | finite =>
    cases hr
    rw [← Binary64.truncate_eq]
    exact hmax _ (Binary64.length_truncate_le hv)
  | text hparts hne hle =>
    cases hr
    refine hmax _ (Numeral.length_ofNat_le (by decide) ?_)
    exact Nat.lt_of_lt_of_le (natAbs_number_lt _ _) (Nat.pow_le_pow_right (by decide) hle)
  | tooLong | unspelledArr | unspelledObj => cases hr

theorem digitValue?_of_isDigit {c : Char} (h : c.isDigit = true) :
    Text.digitValue? c = some (c.toNat - 48) := by
  obtain ⟨hlow, hhigh⟩ := Numeral.digit_range h
  rw [Text.digitValue?, Text.digitZeros, List.find?_cons_of_pos]
  · rfl
  · simp
    omega

theorem isBlank_of_isDigit {c : Char} (h : c.isDigit = true) : Text.isBlank c = false := by
  obtain ⟨hlow, hhigh⟩ := Numeral.digit_range h
  simp [Text.isBlank, Text.isSpace]
  omega

theorem ofDigits_filterMap {digits : List Char} (h : ∀ c ∈ digits, c.isDigit = true) :
    Nat.ofDigits 10 (digits.filterMap Text.digitValue?).reverse = Numeral.value digits := by
  have hvalues : digits.filterMap Text.digitValue? = digits.map fun c => c.toNat - 48 := by
    rw [List.filterMap_congr fun c hc => digitValue?_of_isDigit (h c hc)]
    exact congrFun List.filterMap_eq_map digits
  rw [← Numeral.ofValues_eq_ofDigits, hvalues, Numeral.ofValues, List.foldl_map]
  rfl

theorem parts_ofInt (k : Int) :
    Parts (Numeral.ofInt k) [] (if k < 0 then ['-'] else []) (Numeral.ofNat k.natAbs) [] := by
  have hall : ∀ c ∈ Numeral.ofNat k.natAbs, c.isDigit = true :=
    fun c => Numeral.isDigit_of_mem_ofNat
  obtain ⟨c, cs, heq, hc⟩ := Numeral.exists_ofNat_eq_cons k.natAbs
  refine ⟨?_, by simp, ?_, by split <;> simp, ?_, ?_, by simp⟩
  · cases k with
    | ofNat n => simp [Numeral.ofInt]
    | negSucc n => simp [Numeral.ofInt]
  · split
    · simp
      decide
    · simp [heq, isBlank_of_isDigit hc]
  · simp only [heq]
    rintro - d ⟨⟩
    constructor <;> rintro rfl <;> cases hc
  · exact fun d hd => Option.isSome_of_eq_some (digitValue?_of_isDigit (hall d hd))

theorem number_ofInt (k : Int) :
    number (if k < 0 then ['-'] else []) (Numeral.ofNat k.natAbs) = k := by
  have hall : ∀ c ∈ Numeral.ofNat k.natAbs, c.isDigit = true :=
    fun c => Numeral.isDigit_of_mem_ofNat
  simp only [number, ofDigits_filterMap hall, Numeral.value_ofNat]
  by_cases hk : k < 0
  · rw [if_pos hk, if_pos rfl]
    omega
  · rw [if_neg hk, if_neg (by simp)]
    omega

theorem ofJson_eq_one_iff {v : Json} (hv : (∃ items, v = .arr items) ∨ ∃ fields, v = .obj fields) :
    ofJson v = .ok 1 ↔ v.writeFault? Json.nestingLimit = none := by
  rcases hv with ⟨items, rfl⟩ | ⟨fields, rfl⟩
  · rw [ofJson_arr]
    cases (Json.arr items).writeFault? Json.nestingLimit <;> simp
  · rw [ofJson_obj]
    cases (Json.obj fields).writeFault? Json.nestingLimit <;> simp

theorem writeFault?_of_parse {text : String} {v : Json} (h : Json.parse text = .ok v) :
    v.writeFault? Json.nestingLimit = none := by
  obtain ⟨hlimited, hroom⟩ := Json.fits_of_parse h
  rw [Json.writeFault?_of_limited v Json.nestingLimit hlimited,
    if_pos (Json.Room.holds_some.mp hroom)]

/-- A submitted value is read as the count that it denotes. What is read is positive and is read
again as itself, and an integer is read as its decimal text is. An array or an object counts as one
exactly if it has a text, as all those have that a text can denote. -/
theorem ofJson_reads_count (v : Json) :
    (∀ r, ofJson v = r ↔ Denotes v r) ∧
      (∀ n, ofJson v = .ok n → 1 ≤ n ∧ ofJson (.int n) = .ok n) ∧
      (∀ k : Int, v = .int k → (Numeral.ofNat k.natAbs).length ≤ 4300 →
        ofJson (.str (String.ofList (Numeral.ofInt k))) = ofJson v) ∧
      ((∃ items, v = .arr items) ∨ (∃ fields, v = .obj fields) →
        (ofJson v = .ok 1 ↔ v.writeFault? Json.nestingLimit = none) ∧
        ∀ text, Json.parse text = .ok v → ofJson v = .ok 1) := by
  refine ⟨fun r => ofJson_eq_iff, fun n h => ?_, fun k hv hk => ?_, fun hv => ?_⟩
  · have hn := one_le_of_ofJson h
    refine ⟨hn, ?_⟩
    rw [(Denotes.int n).ofJson, max_eq_right hn]
  · obtain ⟨c, cs, heq, -⟩ := Numeral.exists_ofNat_eq_cons k.natAbs
    have hparts : Parts (String.ofList (Numeral.ofInt k)).toList [] (if k < 0 then ['-'] else [])
        (Numeral.ofNat k.natAbs) [] := by
      rw [String.toList_ofList]
      exact parts_ofInt k
    rw [hv, (Denotes.text hparts (by simp [heq]) hk).ofJson, number_ofInt, (Denotes.int k).ofJson]
  · have hone := ofJson_eq_one_iff hv
    exact ⟨hone, fun text hparse => hone.mpr (writeFault?_of_parse hparse)⟩

/-- An array that holds an integer of too many digits has no text, and so no count. Neither have two
thousand arrays around a null. -/
theorem long_integer_in_array_unspelled :
    ofJson (.arr [.int (10 ^ 4300)]) = .error (.unspelled .integerTooLong) ∧
      ofJson (Json.nest 2000 .null) = .error (.unspelled .tooDeep) := by
  constructor
  · have hfault : (Json.arr [.int (10 ^ 4300)]).writeFault? Json.nestingLimit =
        some .integerTooLong := by
      decide +kernel
    exact ofJson_eq_iff.mpr (.unspelledArr hfault)
  · have hdeep : ¬ (Json.nest 2000 .null).nesting ≤ Json.nestingLimit := by
      rw [Json.nesting_nest]
      decide
    have hfault := Json.writeFault?_of_limited (Json.nest 2000 .null) Json.nestingLimit
      (Json.limited_nest (show Json.null.Limited from trivial) 2000)
    rw [if_neg hdeep] at hfault
    exact ofJson_eq_iff.mpr (.unspelledArr hfault)

theorem ofJson_reads_count_of_scripts :
    ofJson (.str "\u2003+٠١٢ uses") = .ok 12 ∧
      (1 ≤ (12 : Int) ∧ ofJson (.int 12) = .ok 12) ∧
      ofJson (.str (String.ofList (List.replicate 4301 '0'))) = .error (.tooLong ⟨4301⟩) ∧
      ((Numeral.ofNat (-7 : Int).natAbs).length ≤ 4300 ∧
        ofJson (.str (String.ofList (Numeral.ofInt (-7)))) = ofJson (.int (-7))) ∧
      Json.parse "[7]" = .ok (.arr [.int 7]) ∧ ofJson (.arr [.int 7]) = .ok 1 := by
  have hshort : Parts "\u2003+٠١٢ uses".toList ['\u2003'] ['+'] ['٠', '١', '٢']
      [' ', 'u', 's', 'e', 's'] := {
    whole := by decide
    all_blank := List.all_eq_true.mp (by decide)
    blanks_end := by
      rintro c ⟨⟩
      decide
    sign_form := by decide
    sign_end := by decide
    all_digits := List.all_eq_true.mp (by decide)
    digits_end := by
      rintro c ⟨⟩
      decide }
  have hlong : Parts (String.ofList (List.replicate 4301 '0')).toList [] []
      (List.replicate 4301 '0') [] := {
    whole := by
      rw [String.toList_ofList, List.append_nil, List.nil_append, List.nil_append]
    all_blank := by simp
    blanks_end := by
      rintro c ⟨⟩
      decide
    sign_form := Or.inl rfl
    sign_end := by
      rintro - c ⟨⟩
      decide
    all_digits := by
      intro c hc
      rw [List.eq_of_mem_replicate hc]
      decide
    digits_end := by simp }
  have hread : ofJson (.str "\u2003+٠١٢ uses") = .ok 12 :=
    ((ofJson_reads_count _).1 _).mpr (.text hshort (by decide) (by decide))
  have hparse : Json.parse "[7]" = .ok (.arr [.int 7]) := by decide +kernel
  refine ⟨hread, (ofJson_reads_count _).2.1 _ hread, ?_, ⟨by decide, ?_⟩, hparse,
    ((ofJson_reads_count _).2.2.2 (Or.inl ⟨_, rfl⟩)).2 _ hparse⟩
  · have hdenotes := Denotes.tooLong hlong (by rw [List.length_replicate]; decide)
    rw [List.length_replicate] at hdenotes
    exact ((ofJson_reads_count _).1 _).mpr hdenotes
  · exact (ofJson_reads_count _).2.2.1 (-7) rfl (by decide)

end UsageCount
end UsagePolicy
