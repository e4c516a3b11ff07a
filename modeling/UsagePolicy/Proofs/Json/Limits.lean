import Mathlib.Data.List.TakeWhile
import UsagePolicy.Http.Body
import UsagePolicy.Proofs.Number.Magnitude

/-!
# What a text can hold

However long a text is, a value that is read from it has no number beyond the limits, and is nested
no deeper than admitted: its integers have no more digits than are read, and its floating-point
numbers fit their format. This holds of whatever the body of a request is read as.
-/
namespace UsagePolicy
namespace Json

mutual

/-- The integers of the value are short enough to be read, and its floating-point numbers fit their
format. -/
def Limited : Json → Prop
  | .int n => (Numeral.ofNat n.natAbs).length ≤ Numeral.digitLimit
  | .float x => x.InRange
  | .arr items => LimitedItems items
  | .obj fields => LimitedFields fields
  | _ => True

def LimitedItems : List Json → Prop
  | [] => True
  | v :: rest => Limited v ∧ LimitedItems rest

def LimitedFields : Fields → Prop
  | [] => True
  | (_, v) :: rest => Limited v ∧ LimitedFields rest

end

theorem limitedItems_iff {items : List Json} : LimitedItems items ↔ ∀ v ∈ items, v.Limited := by
  induction items with
  | nil => simp [LimitedItems]
  | cons v rest ih => simp [LimitedItems, ih]

theorem LimitedFields.get? {fields : Fields} (h : LimitedFields fields) {name : String} {v : Json}
    (hv : fields.get? name = some v) : v.Limited := by
  induction fields with
  | nil => cases hv
  | cons field rest ih =>
    obtain ⟨key, old⟩ := field
    rw [Fields.get?, List.lookup_cons] at hv
    split at hv
    · cases hv
      exact h.1
    · exact ih h.2 hv

theorem limitedFields_iff {fields : Fields} :
    LimitedFields fields ↔ ∀ field ∈ fields, field.2.Limited := by
  induction fields with
  | nil => simp [LimitedFields]
  | cons field rest ih =>
    obtain ⟨name, v⟩ := field
    simp [LimitedFields, ih]

/-- The value keeps to the limits, and there is room for it. -/
def Fits (room : Room) (v : Json) : Prop :=
  v.Limited ∧ room.Holds v.nesting

theorem Fits.arr {room inner : Room} {items : List Json} (hroom : room.within? = some inner)
    (h : ∀ v ∈ items, v.Fits inner) : (Json.arr items).Fits room := by
  refine ⟨limitedItems_iff.mpr fun v hv => (h v hv).1, Room.holds_succ hroom fun n hn => ?_⟩
  exact nestingItems_le_iff.mpr fun v hv => (h v hv).2 n hn

theorem Fits.obj {room inner : Room} {fields : Fields} (hroom : room.within? = some inner)
    (h : ∀ field ∈ fields, field.2.Fits inner) : (Json.obj fields).Fits room := by
  refine ⟨limitedFields_iff.mpr fun f hf => (h f hf).1, Room.holds_succ hroom fun n hn => ?_⟩
  exact nestingFields_le_iff.mpr fun f hf => (h f hf).2 n hn

theorem isDigit_of_mem_readWhole? {cs whole rest : List Char}
    (h : readWhole? cs = some (whole, rest)) : ∀ c ∈ whole, c.isDigit = true := by
  unfold readWhole? at h
  split at h
  · cases h
    simp
  · split at h
    · cases h
      exact fun c => List.mem_takeWhile_imp
    · cases h
  · cases h

theorem limited_readUnsigned {negative : Bool} {start cs after : List Char} {v : Json}
    (h : readUnsigned negative start cs = .ok (v, after)) : v.Limited := by
  unfold readUnsigned at h
  split at h
  · cases h
  · next whole rest hwhole =>
    simp only at h
    split at h
    · split at h
      · next hle =>
        cases h
        exact Numeral.length_ofNat_signed_le (isDigit_of_mem_readWhole? hwhole) (by decide) hle
      · cases h
    · cases h
      exact Binary64.inRange_ofDecimal _ _ _

theorem limited_readWord? {cs after : List Char} {v : Json}
    (h : readWord? cs = some (v, after)) : v.Limited := by
  obtain ⟨⟨word, value⟩, hmem, heq⟩ := List.exists_of_findSome?_eq_some h
  obtain ⟨rest, -, heq⟩ := Option.map_eq_some_iff.mp heq
  cases heq
  simp only [words, List.mem_cons, Prod.mk.injEq, List.not_mem_nil, or_false] at hmem
  rcases hmem with ⟨-, rfl⟩ | ⟨-, rfl⟩ | ⟨-, rfl⟩ | ⟨-, rfl⟩ | ⟨-, rfl⟩ | ⟨-, rfl⟩ <;> trivial

theorem limited_readAtom {cs after : List Char} {v : Json} (h : readAtom cs = .ok (v, after)) :
    v.Limited := by
  unfold readAtom at h
  split at h
  · next result hword =>
    cases h
    exact limited_readWord? hword
  · split at h <;> exact limited_readUnsigned h

theorem map_eq_ok {α β : Type} {f : α → β} {reading : Except Stop α} {b : β}
    (h : reading.map f = .ok b) : ∃ a, reading = .ok a ∧ f a = b := by
  cases reading with
  | error e => cases h
  | ok a => exact ⟨a, rfl, Except.ok.inj h⟩

/-- With this fuel, what is read fits if what was read before fits. -/
structure ReadsFitting (fuel : Nat) : Prop where
  value : ∀ {room cs v after}, readValue room fuel cs = .ok (v, after) → v.Fits room
  items : ∀ {room seen cs items after}, (∀ v ∈ seen, Fits room v) →
    readItems room fuel seen cs = .ok (items, after) → ∀ v ∈ items, v.Fits room
  fields : ∀ {room seen cs fields after}, (∀ field ∈ seen, Fits room field.2) →
    readFields room fuel seen cs = .ok (fields, after) → ∀ field ∈ fields, field.2.Fits room

section Steps

variable {fuel : Nat} {room : Room} {cs after : List Char}

theorem nesting_readAtom {v : Json} (h : readAtom cs = .ok (v, after)) : v.nesting = 0 := by
  have hunsigned : ∀ {negative start cs}, readUnsigned negative start cs = .ok (v, after) →
      v.nesting = 0 := by
    intro negative start cs h
    unfold readUnsigned at h
    split at h
    · cases h
    · simp only at h
      split at h
      · split at h
        · cases h
          rfl
        · cases h
      · cases h
        rfl
  unfold readAtom at h
  split at h
  · next hword =>
    cases h
    obtain ⟨⟨word, value⟩, hmem, heq⟩ := List.exists_of_findSome?_eq_some hword
    obtain ⟨rest, -, heq⟩ := Option.map_eq_some_iff.mp heq
    cases heq
    have hall : ∀ entry ∈ words, entry.2.nesting = 0 := by simp [words, nesting]
    exact hall _ hmem
  · split at h <;> exact hunsigned h

theorem fits_of_nesting_eq_zero {v : Json} (hv : v.Limited) (h : v.nesting = 0) : v.Fits room := by
  refine ⟨hv, fun n _ => ?_⟩
  rw [h]
  exact Nat.zero_le n

theorem ReadsFitting.value_succ (ih : ReadsFitting fuel) {v : Json}
    (h : readValue room (fuel + 1) cs = .ok (v, after)) : v.Fits room := by
  unfold readValue at h
  simp only at h
  split at h
  · obtain ⟨_, -, heq⟩ := map_eq_ok h
    cases heq
    exact fits_of_nesting_eq_zero trivial rfl
  · split at h
    · cases h
    · next hroom _ =>
      cases h
      exact Fits.arr hroom (by simp)
    · next hroom _ =>
      obtain ⟨_, hitems, heq⟩ := map_eq_ok h
      cases heq
      exact Fits.arr hroom (ih.items (by simp) hitems)
  · split at h
    · cases h
    · next hroom _ =>
      cases h
      exact Fits.obj hroom (by simp)
    · next hroom _ =>
      obtain ⟨_, hfields, heq⟩ := map_eq_ok h
      cases heq
      exact Fits.obj hroom (ih.fields (by simp) hfields)
  · exact fits_of_nesting_eq_zero (limited_readAtom h) (nesting_readAtom h)

theorem ReadsFitting.items_succ (ih : ReadsFitting fuel) {seen items : List Json}
    (hseen : ∀ v ∈ seen, Fits room v)
    (h : readItems room (fuel + 1) seen cs = .ok (items, after)) : ∀ v ∈ items, v.Fits room := by
  rw [readItems] at h
  split at h
  · cases h
  · next v rest hv =>
    have hall : ∀ w ∈ v :: seen, Fits room w := by
      simpa using ⟨ih.value hv, hseen⟩
    split at h
    · cases h
      exact fun w hw => hall w (List.mem_reverse.mp hw)
    · exact ih.items hall h
    · cases h

theorem ReadsFitting.fields_succ (ih : ReadsFitting fuel) {seen fields : Fields}
    (hseen : ∀ field ∈ seen, Fits room field.2)
    (h : readFields room (fuel + 1) seen cs = .ok (fields, after)) :
    ∀ field ∈ fields, field.2.Fits room := by
  unfold readFields at h
  split at h
  · split at h
    · cases h
    · next name _ _ =>
      split at h
      · split at h
        · cases h
        · next v _ hv =>
          have hput : ∀ field ∈ seen.put name v, Fits room field.2 := by
            intro field hfield
            rcases Fields.mem_put hfield with hold | rfl
            · exact hseen field hold
            · exact ih.value hv
          split at h
          · cases h
            exact hput
          · exact ih.fields hput h
          · cases h
      · cases h
  · cases h

end Steps

theorem readsFitting (fuel : Nat) : ReadsFitting fuel := by
  induction fuel with
  | zero => constructor <;> intros <;> simp_all [readValue, readItems, readFields, stop]
  | succ fuel ih => exact ⟨ih.value_succ, ih.items_succ, ih.fields_succ⟩

/-- Whatever is read keeps to the limits, and is nested no deeper than admitted. -/
theorem fits_of_parseChars {room : Room} {cs : List Char} {v : Json}
    (h : parseChars room cs = .ok v) : v.Fits room := by
  unfold parseChars at h
  split at h
  · next w hall =>
    cases h
    unfold readAll at hall
    split at hall
    · cases hall
    · next w after hread =>
      split at hall
      · cases hall
        exact (readsFitting _).value hread
      · cases hall
  · cases h

theorem fits_of_parse {text : String} {v : Json} (h : parse text = .ok v) :
    v.Fits (some nestingLimit) := by
  unfold parse parseWithin at h
  simp only at h
  split at h
  · cases h
  · exact fits_of_parseChars h

theorem limited_of_parse {text : String} {v : Json} (h : parse text = .ok v) : v.Limited :=
  (fits_of_parse h).1

mutual

/-- A value within the limits is written exactly if there is room for it. -/
theorem writeFault?_of_limited : ∀ (v : Json) (room : Nat), v.Limited →
    v.writeFault? room = if v.nesting ≤ room then none else some .tooDeep
  | .null, _, _ | .bool _, _, _ | .float _, _, _ | .str _, _, _ => by simp [writeFault?, nesting]
  | .int n, _, h => by
    have hshort : (Numeral.ofNat n.natAbs).length ≤ Numeral.digitLimit := h
    simp [writeFault?, nesting, hshort]
  | .arr items, 0, _ => by simp [writeFault?, nesting]
  | .arr items, room + 1, h => by
    simpa [writeFault?, nesting] using writeFaultItems?_of_limited items room h
  | .obj fields, 0, _ => by simp [writeFault?, nesting]
  | .obj fields, room + 1, h => by
    simpa [writeFault?, nesting] using writeFaultFields?_of_limited fields room h

theorem writeFaultItems?_of_limited : ∀ (items : List Json) (room : Nat), LimitedItems items →
    writeFaultItems? room items = if nestingItems items ≤ room then none else some .tooDeep
  | [], _, _ => by simp [writeFaultItems?, nestingItems]
  | v :: rest, room, h => by
    rw [writeFaultItems?, nestingItems, writeFault?_of_limited v room h.1,
      writeFaultItems?_of_limited rest room h.2]
    by_cases hv : v.nesting ≤ room
    · simp only [Nat.max_le, hv, true_and, if_true]
      rfl
    · simp only [Nat.max_le, hv, false_and, if_false]
      rfl

theorem writeFaultFields?_of_limited : ∀ (fields : Fields) (room : Nat), LimitedFields fields →
    writeFaultFields? room fields = if nestingFields fields ≤ room then none else some .tooDeep
  | [], _, _ => by simp [writeFaultFields?, nestingFields]
  | (_, v) :: rest, room, h => by
    rw [writeFaultFields?, nestingFields, writeFault?_of_limited v room h.1,
      writeFaultFields?_of_limited rest room h.2]
    by_cases hv : v.nesting ≤ room
    · simp only [Nat.max_le, hv, true_and, if_true]
      rfl
    · simp only [Nat.max_le, hv, false_and, if_false]
      rfl

end

/-- Arrays inside one another around a value. -/
def nest : Nat → Json → Json
  | 0, v => v
  | n + 1, v => .arr [nest n v]

theorem nesting_nest (n : Nat) (v : Json) : (nest n v).nesting = n + v.nesting := by
  induction n with
  | zero => simp [nest]
  | succ n ih =>
    simp only [nest, nesting, nestingItems, ih]
    omega

theorem limited_nest {v : Json} (h : v.Limited) (n : Nat) : (nest n v).Limited := by
  induction n with
  | zero => exact h
  | succ n ih => exact ⟨ih, trivial⟩

end Json

theorem Http.Request.limited_content {request : Request} {v : Json}
    (h : request.content = .value (some v)) : v.Limited := by
  unfold content at h
  split at h
  · cases h
  · split at h
    · split at h
      · cases h
      · split at h
        · next hread =>
          cases h
          exact (Json.fits_of_parseChars hread).1
        · cases h
    · cases h
      trivial

end UsagePolicy
