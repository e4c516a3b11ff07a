import Mathlib.Data.List.Nodup
import UsagePolicy.Proofs.Json.Limits
import UsagePolicy.Proofs.Json.Scalars

/-!
# Values read back

What is written for a value is read as that value, in either layout, unless the value holds
floating-point numbers, integers of more digits than are read, or an object that has a name twice.
So two such values have the same text only if they are the same.
-/
namespace UsagePolicy

theorem Fields.put_of_not_mem {fields : Fields} {name : String}
    (h : name ∉ fields.map Prod.fst) (value : Json) :
    fields.put name value = fields ++ [(name, value)] := by
  induction fields with
  | nil => rfl
  | cons field rest ih =>
    simp only [List.map_cons, List.mem_cons, not_or] at h
    simp [Fields.put, Ne.symm h.1, ih h.2]

namespace Json

mutual

/-- The value has no floating-point numbers, its integers are short enough to be read, and each of
its objects has every name once. -/
def Readable : Json → Prop
  | .int n => (Numeral.ofNat n.natAbs).length ≤ Numeral.digitLimit
  | .float _ => False
  | .arr items => ReadableItems items
  | .obj fields => (fields.map Prod.fst).Nodup ∧ ReadableFields fields
  | _ => True

def ReadableItems : List Json → Prop
  | [] => True
  | v :: rest => Readable v ∧ ReadableItems rest

def ReadableFields : Fields → Prop
  | [] => True
  | (_, v) :: rest => Readable v ∧ ReadableFields rest

end

theorem readableItems_iff {items : List Json} :
    ReadableItems items ↔ ∀ v ∈ items, v.Readable := by
  induction items with
  | nil => simp [ReadableItems]
  | cons v rest ih => simp [ReadableItems, ih]

theorem readable_texts (items : List String) : (texts items).Readable := by
  simp [texts, Readable, readableItems_iff]

theorem skipGap_cons {c : Char} (h : isGap c = false) (cs : List Char) :
    skipGap (c :: cs) = c :: cs := by
  simp [skipGap, h]

/-- The text does not start with a blank. -/
def StartsTight (cs : List Char) : Prop :=
  ∀ c ∈ cs.head?, isGap c = false

theorem skipGap_of_startsTight {cs : List Char} (h : StartsTight cs) : skipGap cs = cs := by
  cases cs with
  | nil => rfl
  | cons c cs => exact skipGap_cons (h c rfl) cs

theorem isGap_of_mem_lineBreak {layout : Layout} {level : Nat} {c : Char}
    (h : c ∈ layout.lineBreak level) : isGap c = true := by
  cases layout with
  | compact => cases h
  | indented =>
    rcases List.mem_cons.mp h with rfl | h
    · rfl
    · rw [List.eq_of_mem_replicate h]
      rfl

theorem skipGap_lineBreak (layout : Layout) (level : Nat) {cs : List Char} (h : StartsTight cs) :
    skipGap (layout.lineBreak level ++ cs) = cs := by
  rw [skipGap, List.dropWhile_append_of_pos fun c => isGap_of_mem_lineBreak]
  exact skipGap_of_startsTight h

theorem skipGap_lineBreak_cons (layout : Layout) (level : Nat) {c : Char} (h : isGap c = false)
    (cs : List Char) : skipGap (layout.lineBreak level ++ c :: cs) = c :: cs := by
  apply skipGap_lineBreak
  intro d hd
  rwa [← Option.some.inj hd]

theorem endsNumber_lineBreak (layout : Layout) (level : Nat) {cs : List Char}
    (h : EndsNumber cs) : EndsNumber (layout.lineBreak level ++ cs) := by
  cases layout with
  | compact => exact h
  | indented => exact endsNumber_cons (by decide) _

theorem closing_false (layout : Layout) (level : Nat) :
    layout.closing level false = layout.lineBreak level := rfl

theorem skipGap_colon (layout : Layout) {cs : List Char} (h : StartsTight cs) :
    ∃ after, layout.colon ++ cs = ':' :: after ∧ skipGap after = cs := by
  cases layout with
  | compact => exact ⟨cs, rfl, skipGap_of_startsTight h⟩
  | indented => exact ⟨' ' :: cs, rfl, skipGap_of_startsTight h⟩

variable (layout : Layout) (form : DecimalForm)

/-- A character with which a value can start. -/
def Opens (c : Char) : Prop :=
  isGap c = false ∧ c ≠ ']' ∧ c ≠ Text.byteOrderMark

instance : DecidablePred Opens :=
  fun c => inferInstanceAs (Decidable (isGap c = false ∧ c ≠ ']' ∧ c ≠ Text.byteOrderMark))

theorem opens_of_isDigit {c : Char} (h : c.isDigit = true) : Opens c := by
  have hrange := Numeral.digit_range h
  have hne : ∀ d : Char, d.toNat < 48 ∨ 57 < d.toNat → c ≠ d := by
    rintro d hd rfl
    omega
  refine ⟨?_, hne _ (by decide), hne _ (by decide)⟩
  simp [isGap, hne ' ' (by decide), hne '\t' (by decide), hne '\n' (by decide),
    hne '\r' (by decide)]

theorem write_opens {v : Json} (h : v.Readable) (level : Nat) (rest : List Char) :
    ∃ c cs, v.write layout form level rest = c :: cs ∧ Opens c := by
  cases v with
  | null => exact ⟨'n', _, rfl, by decide⟩
  | bool b =>
    cases b
    · exact ⟨'f', _, rfl, by decide⟩
    · exact ⟨'t', _, rfl, by decide⟩
  | float x => exact h.elim
  | str s => exact ⟨'"', _, rfl, by decide⟩
  | arr items => exact ⟨'[', _, rfl, by decide⟩
  | obj fields => exact ⟨'\x7b', _, rfl, by decide⟩
  | int n =>
    obtain ⟨c, cs, heq, hc⟩ := Numeral.exists_ofNat_eq_cons n.natAbs
    cases n with
    | ofNat n => exact ⟨c, cs ++ rest, congrArg (· ++ rest) heq, opens_of_isDigit hc⟩
    | negSucc n => exact ⟨'-', _, rfl, by decide⟩

theorem write_startsTight {v : Json} (h : v.Readable) (level : Nat) (rest : List Char) :
    StartsTight (v.write layout form level rest) := by
  obtain ⟨c, cs, heq, hc⟩ := write_opens layout form h level rest
  rw [heq]
  intro d hd
  exact Option.some.inj hd ▸ hc.1

theorem writeItems_comma {items : List Json} (h : items ≠ []) (level : Nat) (rest : List Char) :
    writeItems layout form level [','] items rest =
      ',' :: writeItems layout form level [] items rest := by
  cases items with
  | nil => exact absurd rfl h
  | cons v vs => rfl

theorem skipGap_writeFields_cons (name : String) (v : Json) (fields : Fields) (level : Nat)
    (rest : List Char) : skipGap (writeFields layout form level [] ((name, v) :: fields) rest) =
      '"' :: (name.toList.flatMap escape ++ '"' :: (layout.colon ++ v.write layout form level
        (writeFields layout form level [','] fields rest))) := by
  simp only [writeFields, quote, List.nil_append, List.cons_append, List.append_assoc]
  exact skipGap_lineBreak_cons layout level rfl _

theorem writeFields_comma {fields : Fields} (h : fields ≠ []) (level : Nat) (rest : List Char) :
    writeFields layout form level [','] fields rest =
      ',' :: writeFields layout form level [] fields rest := by
  cases fields with
  | nil => exact absurd rfl h
  | cons field fields => rfl

theorem endsNumber_writeItems (items : List Json) (level : Nat) {rest : List Char}
    (h : EndsNumber rest) : EndsNumber (writeItems layout form level [','] items rest) := by
  cases items with
  | nil => exact h
  | cons v vs => exact endsNumber_cons (by decide) _

theorem endsNumber_writeFields (fields : Fields) (level : Nat) {rest : List Char}
    (h : EndsNumber rest) : EndsNumber (writeFields layout form level [','] fields rest) := by
  cases fields with
  | nil => exact h
  | cons field fields => exact endsNumber_cons (by decide) _

mutual

theorem length_le_write : ∀ (v : Json) (level : Nat) (rest : List Char),
    rest.length ≤ (v.write layout form level rest).length
  | .null, _, rest | .bool _, _, rest | .int _, _, rest | .float _, _, rest | .str _, _, rest => by
    simp only [write, List.length_append]
    omega
  | .arr items, level, rest => by
    have h := length_le_writeItems items (level + 1) []
      (layout.closing level items.isEmpty ++ ']' :: rest)
    simp only [write, List.length_cons, List.length_append] at h ⊢
    omega
  | .obj fields, level, rest => by
    have h := length_le_writeFields fields (level + 1) []
      (layout.closing level fields.isEmpty ++ '\x7d' :: rest)
    simp only [write, List.length_cons, List.length_append] at h ⊢
    omega

theorem length_le_writeItems : ∀ (items : List Json) (level : Nat) (separator rest : List Char),
    rest.length ≤ (writeItems layout form level separator items rest).length
  | [], _, _, _ => by simp [writeItems]
  | v :: vs, level, separator, rest => by
    have hhead := length_le_write v level (writeItems layout form level [','] vs rest)
    have htail := length_le_writeItems vs level [','] rest
    simp only [writeItems, List.length_append]
    omega

theorem length_le_writeFields : ∀ (fields : Fields) (level : Nat) (separator rest : List Char),
    rest.length ≤ (writeFields layout form level separator fields rest).length
  | [], _, _, _ => by simp [writeFields]
  | (_, v) :: fields, level, separator, rest => by
    have hhead := length_le_write v level (writeFields layout form level [','] fields rest)
    have htail := length_le_writeFields fields level [','] rest
    simp only [writeFields, List.length_append]
    omega

end

theorem readValue_of_atom {c : Char} (hquote : c ≠ '"') (hbracket : c ≠ '[') (hbrace : c ≠ '\x7b')
    (room : Room) (fuel : Nat) (cs : List Char) :
    readValue room (fuel + 1) (c :: cs) = readAtom (c :: cs) := by
  rw [readValue]
  all_goals
    intro rest heq
    obtain ⟨heq, -⟩ := List.cons.inj heq
    contradiction

theorem readValue_ofInt {n : Int} {rest : List Char} {room : Room} {fuel : Nat}
    (hlimit : (Numeral.ofNat n.natAbs).length ≤ Numeral.digitLimit) (hrest : EndsNumber rest) :
    readValue room (fuel + 1) (Numeral.ofInt n ++ rest) = .ok (.int n, rest) := by
  have hatom := readAtom_ofInt hlimit hrest
  obtain ⟨c, cs, heq, hc⟩ := Numeral.exists_ofNat_eq_cons n.natAbs
  cases n with
  | ofNat n =>
    have htext : Numeral.ofInt (.ofNat n) ++ rest = c :: (cs ++ rest) :=
      congrArg (· ++ rest) heq
    rw [htext] at hatom ⊢
    rw [readValue_of_atom, hatom]
    all_goals
      rintro rfl
      cases hc
  | negSucc n =>
    exact hatom

mutual

/-- A value for which there is room is read back if what follows it does not go on with a
number. -/
theorem readValue_write : ∀ (v : Json) (level : Nat) {rest : List Char} {room : Room} {fuel : Nat},
    v.Readable → room.Holds v.nesting → EndsNumber rest →
    2 * (v.write layout form level rest).length + 1 ≤ fuel →
    readValue room fuel (v.write layout form level rest) = .ok (v, rest)
  | .null, _, _, _, fuel + 1, _, _, _, _ => rfl
  | .bool true, _, _, _, fuel + 1, _, _, _, _ => rfl
  | .bool false, _, _, _, fuel + 1, _, _, _, _ => rfl
  | .int _, _, _, _, fuel + 1, hv, _, hrest, _ => readValue_ofInt hv hrest
  | .str s, _, rest, _, fuel + 1, _, _, _, hfuel => by
    simp only [write, quote, List.cons_append, List.append_assoc, List.nil_append,
      List.length_cons] at hfuel ⊢
    rw [readValue, readChars_toList _ s rest (by omega)]
    rfl
  | .arr [], _, _, room, fuel + 1, _, hroom, _, _ => by
    obtain ⟨inner, hinner, -⟩ := hroom.within?
    simp [write, writeItems, readValue, Layout.closing, skipGap, isGap, hinner]
  | .arr (v :: vs), level, rest, room, fuel + 1, hv, hroom, _, hfuel => by
    obtain ⟨inner, hinner, hholds⟩ := hroom.within?
    simp only [write, List.isEmpty_cons, closing_false, List.length_cons] at hfuel ⊢
    have hread := readItems_writeItems (v :: vs) (level + 1) []
      hv hholds (by simp) (skipGap_lineBreak_cons layout level rfl rest)
      (endsNumber_lineBreak layout level (endsNumber_cons (by decide) _))
      (show _ ≤ fuel by omega)
    obtain ⟨c, cs, heq, -, hbracket, -⟩ := write_opens layout form hv.1
      (level + 1) (writeItems layout form (level + 1) [','] vs
        (layout.lineBreak level ++ ']' :: rest))
    have hstart : skipGap (writeItems layout form (level + 1) [] (v :: vs)
        (layout.lineBreak level ++ ']' :: rest)) = c :: cs :=
      (skipGap_lineBreak layout (level + 1) (write_startsTight layout form hv.1 _ _)).trans heq
    rw [hstart] at hread
    simp [readValue, hinner, hstart, hbracket, hread, Except.map]
  | .obj [], _, _, room, fuel + 1, _, hroom, _, _ => by
    obtain ⟨inner, hinner, -⟩ := hroom.within?
    simp [write, writeFields, readValue, Layout.closing, skipGap, isGap, hinner]
  | .obj ((name, v) :: fields), level, rest, room, fuel + 1, hv, hroom, _, hfuel => by
    obtain ⟨inner, hinner, hholds⟩ := hroom.within?
    simp only [write, List.isEmpty_cons, closing_false, List.length_cons] at hfuel ⊢
    have hread := readFields_writeFields ((name, v) :: fields)
      (level + 1) [] hv.2 hholds hv.1 (by simp) (skipGap_lineBreak_cons layout level rfl rest)
      (endsNumber_lineBreak layout level (endsNumber_cons (by decide) _))
      (show _ ≤ fuel by omega)
    have hstart := skipGap_writeFields_cons layout form name v fields
      (level + 1) (layout.lineBreak level ++ '\x7d' :: rest)
    rw [hstart] at hread
    simp [readValue, hinner, hstart, hread, Except.map]

theorem readItems_writeItems : ∀ (items : List Json) (level : Nat) (seen : List Json)
    {close rest : List Char} {room : Room} {fuel : Nat}, ReadableItems items →
    room.Holds (nestingItems items) → items ≠ [] →
    skipGap close = ']' :: rest → EndsNumber close →
    2 * (writeItems layout form level [] items close).length + 2 ≤ fuel →
    readItems room fuel seen (skipGap (writeItems layout form level [] items close)) =
      .ok (seen.reverse ++ items, rest)
  | v :: vs, level, seen, close, rest, room, fuel + 1, hitems, hroom, _, hclose, hends, hfuel => by
    have hstart : skipGap (writeItems layout form level [] (v :: vs) close) =
        v.write layout form level (writeItems layout form level [','] vs close) :=
      skipGap_lineBreak layout level (write_startsTight layout form hitems.1 _ _)
    have hlen := length_le_write layout form v level
      (writeItems layout form level [','] vs close)
    simp only [writeItems, List.nil_append, List.length_append] at hfuel
    have hhead := readValue_write v level hitems.1 (hroom.mono (Nat.le_max_left _ _))
      (endsNumber_writeItems layout form vs level hends)
      (show _ ≤ fuel by omega)
    rw [hstart, readItems, hhead]
    by_cases hvs : vs = []
    · subst hvs
      simp [writeItems, hclose]
    · rw [writeItems_comma layout form hvs, List.length_cons] at hlen
      rw [writeItems_comma layout form hvs] at hfuel ⊢
      have htail := readItems_writeItems vs level
        (v :: seen) hitems.2 (hroom.mono (Nat.le_max_right _ _)) hvs hclose hends
        (show _ ≤ fuel by omega)
      simp [skipGap_cons (c := ',') rfl, htail]

theorem readFields_writeFields : ∀ (fields : Fields) (level : Nat) (seen : Fields)
    {close rest : List Char} {room : Room} {fuel : Nat}, ReadableFields fields →
    room.Holds (nestingFields fields) → ((seen ++ fields).map Prod.fst).Nodup → fields ≠ [] →
    skipGap close = '\x7d' :: rest → EndsNumber close →
    2 * (writeFields layout form level [] fields close).length + 2 ≤ fuel →
    readFields room fuel seen (skipGap (writeFields layout form level [] fields close)) =
      .ok (seen ++ fields, rest)
  | (name, v) :: fields, level, seen, close, rest, room, fuel + 1, hfields, hroom, hnames, _,
      hclose, hends, hfuel => by
    obtain ⟨after, hcolon, hafter⟩ := skipGap_colon layout
      (write_startsTight layout form hfields.1 level
        (writeFields layout form level [','] fields close))
    have hlen := length_le_write layout form v level
      (writeFields layout form level [','] fields close)
    have hput : seen.put name v = seen ++ [(name, v)] := by
      apply Fields.put_of_not_mem
      intro hmem
      rw [List.map_append, List.nodup_append] at hnames
      exact hnames.2.2 name hmem name (by simp) rfl
    have hcolonLen := congrArg List.length hcolon
    rw [List.length_append, List.length_cons] at hcolonLen
    simp only [writeFields, quote, List.nil_append, List.length_append, List.length_cons,
      List.length_nil] at hfuel
    have hname := readChars_toList ('"' :: (name.toList.flatMap escape ++ '"' :: ':' :: after)) name
      (':' :: after)
      (show _ ≤ fuel by simp only [List.length_append, List.length_cons]; omega)
    have hhead := readValue_write v level hfields.1 (hroom.mono (Nat.le_max_left _ _))
      (endsNumber_writeFields layout form fields level hends)
      (show _ ≤ fuel by omega)
    rw [skipGap_writeFields_cons, hcolon, readFields, hname]
    simp only [skipGap_cons (c := ':') rfl, hafter, hhead, hput]
    by_cases hrest : fields = []
    · subst hrest
      simp [writeFields, hclose]
    · rw [writeFields_comma layout form hrest, List.length_cons] at hlen
      rw [writeFields_comma layout form hrest] at hfuel ⊢
      have htail := readFields_writeFields fields level
        (seen ++ [(name, v)]) hfields.2 (hroom.mono (Nat.le_max_right _ _)) (by simpa using hnames)
        hrest hclose hends (show _ ≤ fuel by omega)
      simp [skipGap_cons (c := ',') rfl, htail]

end

variable {layout form}

theorem readAll_render {room : Room} {v : Json} (h : v.Readable) (hroom : room.Holds v.nesting) :
    readAll room (v.render layout form) = .ok v := by
  have htight := skipGap_of_startsTight
    (write_startsTight layout form h 0 [])
  have hread := readValue_write layout form v 0 h hroom endsNumber_nil
    (Nat.le_succ _)
  rw [readAll, render, htight, hread]
  rfl

/-- The text of a value denotes the value. -/
theorem parseWithin_render {room : Room} {v : Json} (h : v.Readable)
    (hroom : room.Holds v.nesting) :
    parseWithin room (String.ofList (v.render layout form)) = .ok v := by
  obtain ⟨c, cs, heq, -, -, hmark⟩ := write_opens layout form h 0 []
  have hhead : (v.render layout form).head? ≠ some Text.byteOrderMark := by
    rw [render, heq]
    simpa using hmark
  simp [parseWithin, parseChars, hhead, readAll_render h hroom]

theorem parse_render {v : Json} (h : v.Readable) (hdeep : v.nesting ≤ nestingLimit) :
    parse (String.ofList (v.render layout form)) = .ok v :=
  parseWithin_render h (Room.holds_some.mpr hdeep)

theorem parse_compactText {v : Json} (h : v.Readable) (hdeep : v.nesting ≤ nestingLimit) :
    parse v.compactText = .ok v :=
  parse_render h hdeep

theorem parse_terseText {v : Json} (h : v.Readable) (hdeep : v.nesting ≤ nestingLimit) :
    parse v.terseText = .ok v :=
  parse_render h hdeep

theorem indentedText_inj {v w : Json} (hv : v.Readable) (hw : w.Readable) :
    v.indentedText = w.indentedText ↔ v = w := by
  constructor
  · intro h
    have hread : parseWithin none v.indentedText = .ok v :=
      parseWithin_render hv (Room.holds_none _)
    rw [h, indentedText, parseWithin_render hw (Room.holds_none _)] at hread
    exact (Except.ok.inj hread).symm
  · rintro rfl
    rfl

mutual

theorem Readable.limited : ∀ {v : Json}, v.Readable → v.Limited
  | .null, _ | .bool _, _ | .str _, _ => trivial
  | .int _, h => h
  | .float _, h => h.elim
  | .arr _, h => ReadableItems.limited h
  | .obj _, h => ReadableFields.limited h.2

theorem ReadableItems.limited : ∀ {items : List Json}, ReadableItems items → LimitedItems items
  | [], _ => trivial
  | _ :: _, h => ⟨h.1.limited, ReadableItems.limited h.2⟩

theorem ReadableFields.limited : ∀ {fields : Fields}, ReadableFields fields → LimitedFields fields
  | [], _ => trivial
  | (_, _) :: _, h => ⟨h.1.limited, ReadableFields.limited h.2⟩

end

theorem indentedWithin_of_readable {v : Json} (h : v.Readable) (room : Nat) :
    v.indentedWithin room =
      if v.nesting ≤ room then .ok v.indentedText else .error .tooDeep := by
  rw [indentedWithin, writeFault?_of_limited v room h.limited]
  by_cases hv : v.nesting ≤ room
  · rw [if_pos hv, if_pos hv]
  · rw [if_neg hv, if_neg hv]

theorem indented_of_readable {v : Json} (h : v.Readable) (hdeep : v.nesting ≤ nestingLimit) :
    v.indented = .ok v.indentedText := by
  rw [indented, indentedWithin_of_readable h, if_pos hdeep]

theorem readable_nest {v : Json} (h : v.Readable) (n : Nat) : (nest n v).Readable := by
  induction n with
  | zero => exact h
  | succ n ih => exact ⟨ih, trivial⟩

end Json
end UsagePolicy
