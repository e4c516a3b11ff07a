import UsagePolicy.Proofs.Json.RoundTrip

/-!
# Bodies that are read in full

A body denotes a value as a JSON text whatever its length, but a client cannot count on its being
taken for that value. A body that is nested deeper than the reader goes is turned down, and half of
a surrogate pair is a character of no text, so that nothing that shows it can be encoded. A body
submits a value if it denotes the value and neither is the case.
-/
namespace UsagePolicy

namespace Json

/-- The outcome of bounded reading is that of unbounded reading, unless reading has run out of
room. -/
def AgreesUpToDepth {α : Type} (bounded free : Except Stop α) : Prop :=
  bounded = free ∨ ∃ container suffix, bounded = .error ⟨.tooDeep container, suffix⟩

theorem AgreesUpToDepth.map {α β : Type} {bounded free : Except Stop α} (f : α → β)
    (h : AgreesUpToDepth bounded free) : AgreesUpToDepth (bounded.map f) (free.map f) := by
  rcases h with rfl | ⟨container, suffix, rfl⟩
  · exact Or.inl rfl
  · exact Or.inr ⟨container, suffix, rfl⟩

/-- With this fuel, whatever room there is makes no difference but for depth. -/
structure ReadsAlike (fuel : Nat) : Prop where
  value : ∀ room cs, AgreesUpToDepth (readValue room fuel cs) (readValue none fuel cs)
  items : ∀ room seen cs,
    AgreesUpToDepth (readItems room fuel seen cs) (readItems none fuel seen cs)
  fields : ∀ room seen cs,
    AgreesUpToDepth (readFields room fuel seen cs) (readFields none fuel seen cs)

section Steps

variable {fuel : Nat} (room : Room) (cs : List Char)

theorem ReadsAlike.value_succ (ih : ReadsAlike fuel) :
    AgreesUpToDepth (readValue room (fuel + 1) cs) (readValue none (fuel + 1) cs) := by
  unfold readValue
  split
  · exact Or.inl rfl
  · cases hroom : room.within? with
    | none => exact Or.inr ⟨_, _, rfl⟩
    | some inner =>
      simp only [Room.within?_none]
      split
      · contradiction
      · next heq =>
        rw [heq]
        exact Or.inl rfl
      · next h _ =>
        cases h
        exact (ih.items _ _ _).map _
  · cases hroom : room.within? with
    | none => exact Or.inr ⟨_, _, rfl⟩
    | some inner =>
      simp only [Room.within?_none]
      split
      · contradiction
      · next heq =>
        rw [heq]
        exact Or.inl rfl
      · next h _ =>
        cases h
        exact (ih.fields _ _ _).map _
  · exact Or.inl rfl

theorem ReadsAlike.items_succ (ih : ReadsAlike fuel) (seen : List Json) :
    AgreesUpToDepth (readItems room (fuel + 1) seen cs) (readItems none (fuel + 1) seen cs) := by
  rw [readItems, readItems]
  rcases ih.value room cs with heq | ⟨container, suffix, heq⟩
  · rw [heq]
    split
    · exact Or.inl rfl
    · split
      · exact Or.inl rfl
      · exact ih.items _ _ _
      · exact Or.inl rfl
  · rw [heq]
    exact Or.inr ⟨container, suffix, rfl⟩

theorem ReadsAlike.fields_succ (ih : ReadsAlike fuel) (seen : Fields) :
    AgreesUpToDepth (readFields room (fuel + 1) seen cs) (readFields none (fuel + 1) seen cs) := by
  unfold readFields
  split
  · split
    · exact Or.inl rfl
    · split
      · next rest _ =>
        rcases ih.value room (skipGap rest) with heq | ⟨container, suffix, heq⟩
        · rw [heq]
          split
          · exact Or.inl rfl
          · split
            · exact Or.inl rfl
            · exact ih.fields _ _ _
            · exact Or.inl rfl
        · rw [heq]
          exact Or.inr ⟨container, suffix, rfl⟩
      · exact Or.inl rfl
  · exact Or.inl rfl

end Steps

theorem readsAlike (fuel : Nat) : ReadsAlike fuel := by
  induction fuel with
  | zero => constructor <;> intros <;> exact Or.inl rfl
  | succ fuel ih =>
    exact ⟨fun room cs => ih.value_succ room cs, fun room seen cs => ih.items_succ room cs seen,
      fun room seen cs => ih.fields_succ room cs seen⟩

def Shallow (room : Room) (cs : List Char) : Prop :=
  ∀ e container, parseChars room cs = .error e → e.fault ≠ .tooDeep container

theorem parseChars_cases (room : Room) (cs : List Char) :
    parseChars room cs = parseChars none cs ∨ ¬ Shallow room cs := by
  rcases (readsAlike (2 * cs.length + 2)).value room (skipGap cs) with
    heq | ⟨container, suffix, heq⟩
  · refine Or.inl ?_
    unfold parseChars readAll
    rw [heq]
  · refine Or.inr fun h => h ⟨.tooDeep container, cs.length - suffix.length⟩ container ?_ rfl
    unfold parseChars readAll
    rw [heq]

theorem parseChars_of_shallow {room : Room} {cs : List Char} (h : Shallow room cs) :
    parseChars room cs = parseChars none cs :=
  (parseChars_cases room cs).resolve_right (not_not_intro h)

theorem shallow_of_parseChars {room : Room} {cs : List Char} {v : Json}
    (h : parseChars room cs = .ok v) : Shallow room cs := by
  intro e container herror
  rw [h] at herror
  cases herror

/-- A text that denotes a value is nested too deep where there is no room for the value. -/
theorem not_shallow_of_nesting {n : Nat} {cs : List Char} {v : Json}
    (h : parseChars none cs = .ok v) (hdeep : n < v.nesting) : ¬ Shallow (some n) cs := by
  intro hshallow
  have hfits := fits_of_parseChars ((parseChars_of_shallow hshallow).trans h)
  exact absurd (Room.holds_some.mp hfits.2) (Nat.not_le.mpr hdeep)

/-- Every escape for half of a surrogate pair is followed by one for the other half. -/
def pairsEscapes : List Char → Bool
  | '\\' :: 'u' :: a :: b :: c :: d :: rest =>
    match Text.readHex? [a, b, c, d] with
    | none => pairsEscapes rest
    | some unit =>
      if Text.isHighSurrogate unit then
        match rest with
        | '\\' :: 'u' :: e :: f :: g :: h :: after =>
          (Text.readHex? [e, f, g, h]).any Text.isLowSurrogate && pairsEscapes after
        | _ => false
      else !Text.isLowSurrogate unit && pairsEscapes rest
  | '\\' :: _ :: rest => pairsEscapes rest
  | _ :: rest => pairsEscapes rest
  | [] => true

theorem pairsEscapes_of_not_mem {cs : List Char} (h : '\\' ∉ cs) : pairsEscapes cs = true := by
  induction cs with
  | nil => rfl
  | cons c cs ih =>
    have hc : c ≠ '\\' := fun heq => h (heq ▸ List.mem_cons_self)
    rw [pairsEscapes]
    · exact ih fun hmem => h (List.mem_cons_of_mem c hmem)
    · exact fun _ _ _ _ _ heq _ => hc heq
    · exact fun _ _ heq _ => hc heq

theorem not_mem_write_nest {v : Json}
    (h : ∀ level rest, '\\' ∉ rest → '\\' ∉ v.write .compact .standard level rest) (n : Nat) :
    ∀ level rest, '\\' ∉ rest → '\\' ∉ (nest n v).write .compact .standard level rest := by
  induction n with
  | zero => exact h
  | succ n ih =>
    intro level rest hrest
    have hinner := ih (level + 1) (']' :: rest) (by simpa using hrest)
    simpa [nest, write, writeItems, Layout.lineBreak, Layout.closing] using hinner

end Json

namespace Text

/-- Every half of a surrogate pair among units of sixteen bits is beside the other half. -/
def pairsUnits : List Nat → Bool
  | [] => true
  | [unit] => !(isHighSurrogate unit || isLowSurrogate unit)
  | first :: second :: rest =>
    if isHighSurrogate first then isLowSurrogate second && pairsUnits rest
    else !isLowSurrogate first && pairsUnits (second :: rest)

/-- The encoding that the bytes of a text suggest gives no half of a surrogate pair alone. -/
def pairsSurrogates (text : String) : Bool :=
  let bytes := text.toUTF8.data.toList
  match Encoding.detect bytes with
  | .utf8 => true
  | .utf16 order => (units16? order bytes).all pairsUnits
  | .utf32 order =>
    (units32? order bytes).all (·.all fun unit => !(isHighSurrogate unit || isLowSurrogate unit))

theorem Encoding.detect_of_ne {a b : UInt8} (ha : a ≠ 0) (hb : b ≠ 0) (bytes : List UInt8) :
    Encoding.detect (a :: b :: bytes) = .utf8 := by
  match bytes with
  | [] | [_] | _ :: _ :: _ => simp [Encoding.detect, ha, hb]

theorem toUTF8_ofList (cs : List Char) :
    (String.ofList cs).toUTF8.data.toList = cs.flatMap String.utf8EncodeChar := by
  simp [String.toUTF8, List.utf8Encode]

theorem render_obj_starts (fields : Fields) :
    ∃ c tail, (Json.obj fields).render .compact .standard = '\x7b' :: c :: tail ∧
      (c = '"' ∨ c = '\x7d') := by
  cases fields with
  | nil => exact ⟨'\x7d', [], rfl, Or.inr rfl⟩
  | cons field rest => exact ⟨'"', _, rfl, Or.inl rfl⟩

theorem detect_compactText (fields : Fields) :
    Encoding.detect (Json.obj fields).compactText.toUTF8.data.toList = .utf8 := by
  obtain ⟨c, tail, htext, hc⟩ := render_obj_starts fields
  have hbrace : String.utf8EncodeChar '\x7b' = [0x7b] := by decide
  have hsecond : ∃ byte, String.utf8EncodeChar c = [byte] ∧ byte ≠ 0 := by
    rcases hc with rfl | rfl
    · exact ⟨0x22, by decide, by decide⟩
    · exact ⟨0x7d, by decide, by decide⟩
  obtain ⟨byte, hbyte, hne⟩ := hsecond
  rw [Json.compactText, htext, toUTF8_ofList, List.flatMap_cons, List.flatMap_cons, hbrace, hbyte]
  exact Encoding.detect_of_ne (by decide) hne _

theorem decode?_compactText (fields : Fields) :
    decode? (Json.obj fields).compactText =
      some ((Json.obj fields).render .compact .standard) := by
  obtain ⟨c, tail, htext, -⟩ := render_obj_starts fields
  have hchars : (Json.obj fields).compactText.toList =
      (Json.obj fields).render .compact .standard := String.toList_ofList
  unfold decode?
  simp only [detect_compactText, hchars]
  rw [htext]
  rfl

end Text

namespace Http

variable {request : Request} {v : Json}

/-- The body is a JSON text that denotes the value, however deep it is nested. -/
structure Request.Denotes (request : Request) (v : Json) : Prop where
  nonempty : request.body ≠ ""
  json : request.isJson = true
  text : ∃ cs, Text.decode? request.body = some cs ∧ Json.parseChars none cs = .ok v

def Request.IsShallow (request : Request) : Prop :=
  ∀ cs ∈ Text.decode? request.body, Json.Shallow (some bodyNestingLimit) cs

/-- The body holds no half of a surrogate pair alone, neither by its encoding nor by an escape. -/
def Request.PairsSurrogates (request : Request) : Prop :=
  Text.pairsSurrogates request.body = true ∧
    ∀ cs ∈ Text.decode? request.body, Json.pairsEscapes cs = true

instance (request : Request) : Decidable request.PairsSurrogates :=
  inferInstanceAs (Decidable (_ ∧ _))

/-- The body denotes the value, and nothing keeps it from being read as that or shown again. -/
structure Request.Submits (request : Request) (v : Json) : Prop where
  denotes : request.Denotes v
  shallow : request.IsShallow
  paired : request.PairsSurrogates

theorem Request.Denotes.content (h : request.Denotes v) (hshallow : request.IsShallow) :
    request.content = .value (some v) := by
  obtain ⟨cs, hcs, hv⟩ := h.text
  have hread : Json.parseChars (some bodyNestingLimit) cs = .ok v := by
    rw [Json.parseChars_of_shallow (hshallow cs hcs), hv]
  simp only [Request.content, h.nonempty, if_false, h.json, if_true, hcs, hread]

theorem Request.Submits.content (h : request.Submits v) : request.content = .value (some v) :=
  h.denotes.content h.shallow

theorem Request.Submits.limited (h : request.Submits v) : v.Limited :=
  limited_content h.content

theorem Request.submits_of_content (hbody : request.body ≠ "") (hjson : request.isJson = true)
    (hcontent : request.content = .value (some v)) (hpaired : request.PairsSurrogates) :
    request.Submits v := by
  simp only [Request.content, hbody, if_false, hjson, if_true] at hcontent
  split at hcontent
  · cases hcontent
  · next cs hcs =>
    split at hcontent
    · next w hread =>
      cases hcontent
      refine ⟨⟨hbody, hjson, cs, hcs, ?_⟩, ?_, hpaired⟩
      · rwa [← Json.parseChars_of_shallow (Json.shallow_of_parseChars hread)]
      · intro other hother
        obtain rfl := Option.some_inj.mp (hcs.symm.trans hother)
        exact Json.shallow_of_parseChars hread
    · cases hcontent

/-- A body that is nested deeper than it is read is turned down. -/
theorem Request.content_of_not_shallow (hbody : request.body ≠ "") (hjson : request.isJson = true)
    (h : ¬ request.IsShallow) :
    ∃ e, request.content = .malformed e ∧ e.fault.exceedsLimit = true := by
  simp only [IsShallow, Json.Shallow, not_forall, not_not] at h
  obtain ⟨cs, hcs, e, container, herror, hfault⟩ := h
  refine ⟨e, ?_, by rw [hfault]; rfl⟩
  simp only [Request.content, hbody, if_false, hjson, if_true, Option.mem_def.mp hcs, herror]

theorem Request.denotes_compactText {fields : Fields}
    (hbody : request.body = (Json.obj fields).compactText) (hjson : request.isJson = true)
    (hread : (Json.obj fields).Readable) : request.Denotes (.obj fields) := by
  have hparse : Json.parseChars none ((Json.obj fields).render .compact .standard) =
      .ok (.obj fields) := by
    rw [Json.parseChars, Json.readAll_render hread (Json.Room.holds_none _)]
  refine ⟨?_, hjson, _, hbody ▸ Text.decode?_compactText fields, hparse⟩
  rw [hbody, Json.compactText, Json.render, Json.write]
  simp

/-- It is read exactly if the object is nested no deeper than a body may be. -/
theorem Request.isShallow_compactText_iff {fields : Fields}
    (hbody : request.body = (Json.obj fields).compactText) (hread : (Json.obj fields).Readable) :
    request.IsShallow ↔ (Json.obj fields).nesting ≤ bodyNestingLimit := by
  have hdecode : Text.decode? request.body =
      some ((Json.obj fields).render .compact .standard) := hbody ▸ Text.decode?_compactText fields
  have hparse : ∀ room : Json.Room, room.Holds (Json.obj fields).nesting →
      Json.parseChars room ((Json.obj fields).render .compact .standard) = .ok (.obj fields) := by
    intro room hroom
    rw [Json.parseChars, Json.readAll_render hread hroom]
  constructor
  · intro h
    by_contra hdeep
    exact Json.not_shallow_of_nesting (hparse none (Json.Room.holds_none _))
      (Nat.lt_of_not_le hdeep) (h _ hdecode)
  · intro hroom cs hcs
    obtain rfl := Option.some_inj.mp (hdecode.symm.trans hcs)
    exact Json.shallow_of_parseChars (hparse _ (Json.Room.holds_some.mpr hroom))

/-- A client that writes an object compactly submits it, if it is not nested too deep and nothing in
its text is escaped. -/
theorem Request.submits_compactText {fields : Fields}
    (hbody : request.body = (Json.obj fields).compactText) (hjson : request.isJson = true)
    (hread : (Json.obj fields).Readable) (hdepth : (Json.obj fields).nesting ≤ bodyNestingLimit)
    (hplain : '\\' ∉ (Json.obj fields).render .compact .standard) :
    request.Submits (.obj fields) where
  denotes := denotes_compactText hbody hjson hread
  shallow := (isShallow_compactText_iff hbody hread).mpr hdepth
  paired := by
    refine ⟨?_, fun cs hcs => ?_⟩
    · rw [hbody, Text.pairsSurrogates]
      simp only [Text.detect_compactText]
    · rw [hbody, Text.decode?_compactText] at hcs
      obtain rfl := Option.some_inj.mp hcs
      exact Json.pairsEscapes_of_not_mem hplain

end Http
end UsagePolicy
