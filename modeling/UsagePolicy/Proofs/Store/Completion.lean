import Mathlib.Data.List.Forall2
import UsagePolicy.Store.Catalog

/-!
# Completing the catalog

A catalog is completed by giving identifiers to records that have none. Records keep their order,
their ids and all other fields, and an identifier once given stays. So the record that an id stands
for remains the same record.
-/
namespace UsagePolicy

/-- Whatever is not the empty text may be given as an identifier. -/
def Proper (uuid : String) : Prop := uuid ≠ ""

theorem not_proper_empty : ¬ Proper "" := fun h => h rfl

theorem exists_left_of_forall₂ {α β : Type} {R : α → β → Prop} {as : List α} {bs : List β}
    (h : List.Forall₂ R as bs) {b : β} (hb : b ∈ bs) : ∃ a ∈ as, R a b := by
  induction h with
  | nil => cases hb
  | cons hhead _ ih =>
    rcases List.mem_cons.mp hb with rfl | hb
    · exact ⟨_, by simp, hhead⟩
    · obtain ⟨a, ha, hR⟩ := ih hb
      exact ⟨a, by simp [ha], hR⟩

namespace Record

/-- The record afterwards is the one before, except that one of those given may have taken the place
of an identifier that passed for blank. -/
def Completed (arrays : Bool) (given : String → Prop) (before after : Record) : Prop :=
  after = before ∨
    before.isOpen arrays = true ∧ ∃ uuid, given uuid ∧ after = before.setUuid (.str uuid)

variable {arrays : Bool} {given : String → Prop} {r r' r'' : Record}

theorem completed_refl (r : Record) : Completed arrays given r r :=
  Or.inl rfl

theorem isOpen_of_str {uuid : String} (h : r.uuid = .str uuid) :
    r.isOpen arrays = false ↔ uuid ≠ "" := by
  simp [isOpen, h, Json.meets, Json.isBlank]

theorem isOpen_of_isBlank (h : r.uuid.isBlank = true) : r.isOpen arrays = true := by
  simp [isOpen, Json.meets, h]

/-- There is no array in the record that a filter could enter. -/
structure IsFlat (r : Record) : Prop where
  hasId : ∀ arrays id, r.hasId arrays id = (r.get "id").equalsInt id
  isOpen : ∀ arrays, r.isOpen arrays = r.uuid.isBlank

theorem Completed.eq_of_not_open (h : Completed arrays given r r')
    (hr : r.isOpen arrays = false) : r' = r := by
  rcases h with h | ⟨hblank, _⟩
  · exact h
  · rw [hr] at hblank
    cases hblank

theorem Completed.trans (hgiven : ¬ given "") (h : Completed arrays given r r')
    (h' : Completed arrays given r' r'') : Completed arrays given r r'' := by
  rcases h with rfl | ⟨hblank, uuid, huuid, rfl⟩
  · exact h'
  · have hne : uuid ≠ "" := fun heq => hgiven (heq ▸ huuid)
    rw [h'.eq_of_not_open ((isOpen_of_str (uuid_setUuid r _)).mpr hne)]
    exact Or.inr ⟨hblank, uuid, huuid, rfl⟩

theorem Completed.hasId (h : Completed arrays given r r') (id : Int) :
    r'.hasId arrays id = r.hasId arrays id := by
  rcases h with rfl | ⟨_, _, _, rfl⟩
  · rfl
  · exact hasId_setUuid arrays r _ id

/-- Unless a filter enters an array in it, a record that is completed has had a blank identifier. -/
theorem Completed.of_blank (h : Completed arrays given r r')
    (hr : r.isOpen arrays = true → r.uuid.isBlank = true) : Completed false given r r' := by
  rcases h with h | ⟨hopen, hset⟩
  · exact Or.inl h
  · exact Or.inr ⟨(isOpen_false r).trans (hr hopen), hset⟩

theorem Completed.blank_of_isOpen (h : Completed arrays given r r')
    (hr : r.isOpen arrays = true → r.uuid.isBlank = true) (hopen : r'.isOpen arrays = true) :
    r'.uuid.isBlank = true := by
  rcases h with rfl | ⟨-, uuid, -, rfl⟩
  · exact hr hopen
  · rw [isOpen, uuid_setUuid] at hopen
    rw [uuid_setUuid]
    simpa [Json.meets] using hopen

theorem Completed.get? (h : Completed arrays given r r') {name : String} (hname : name ≠ "uuid") :
    Fields.get? r' name = Fields.get? r name := by
  rcases h with rfl | ⟨_, _, _, rfl⟩
  · rfl
  · exact Fields.get?_put_of_ne r _ hname

/-- The identifier of the record is missing, null or a text. -/
def HasPlainUuid (r : Record) : Prop :=
  r.uuid = .null ∨ ∃ uuid, r.uuid = .str uuid

theorem HasPlainUuid.isVacant_eq (h : r.HasPlainUuid) : r.uuid.isVacant = r.isOpen arrays := by
  rcases h with h | ⟨uuid, h⟩ <;> simp [isOpen, h, Json.meets, Json.isVacant, Json.isBlank]

theorem HasPlainUuid.text_of_not_open (h : r.HasPlainUuid) (hr : r.isOpen arrays = false) :
    ∃ uuid, r.uuid = .str uuid ∧ uuid ≠ "" := by
  rcases h with h | ⟨uuid, h⟩
  · simp [isOpen, h, Json.meets, Json.isBlank] at hr
  · exact ⟨uuid, h, (isOpen_of_str h).mp hr⟩

theorem Completed.hasPlainUuid (h : Completed arrays given r r') (hr : r.HasPlainUuid) :
    r'.HasPlainUuid := by
  rcases h with rfl | ⟨_, uuid, _, rfl⟩
  · exact hr
  · exact Or.inr ⟨uuid, uuid_setUuid r _⟩

end Record

namespace Catalog

/-- Record by record, the catalog afterwards completes the one before. -/
def Completed (arrays : Bool) (given : String → Prop) (before after : Catalog) : Prop :=
  List.Forall₂ (Record.Completed arrays given) before after

variable {arrays : Bool} {given : String → Prop} {c c' c'' : Catalog} {id : Int}

theorem completed_refl (c : Catalog) : Completed arrays given c c :=
  List.forall₂_same.mpr fun r _ => r.completed_refl

theorem Completed.trans (hgiven : ¬ given "") (h : Completed arrays given c c')
    (h' : Completed arrays given c' c'') : Completed arrays given c c'' := by
  induction h generalizing c'' with
  | nil => exact h'
  | cons hr _ ih =>
    cases h' with
    | cons hr' hrest => exact List.Forall₂.cons (hr.trans hgiven hr') (ih hrest)

def OpenOnlyIfBlank (arrays : Bool) (c : Catalog) : Prop :=
  ∀ r ∈ c, r.isOpen arrays = true → r.uuid.isBlank = true

theorem Completed.of_openOnlyIfBlank (h : Completed arrays given c c')
    (hc : c.OpenOnlyIfBlank arrays) :
    Completed false given c c' ∧ c'.OpenOnlyIfBlank arrays := by
  induction h with
  | nil => exact ⟨List.Forall₂.nil, nofun⟩
  | @cons r r' _ _ hr _ ih =>
    obtain ⟨hcompleted, hrest⟩ := ih fun x hx => hc x (List.mem_cons_of_mem _ hx)
    have hhead := hc r List.mem_cons_self
    refine ⟨List.Forall₂.cons (hr.of_blank hhead) hcompleted, ?_⟩
    intro x hx
    rcases List.mem_cons.mp hx with rfl | hx
    · exact hr.blank_of_isOpen hhead
    · exact hrest x hx

/-- The record that an id stands for is completed, if at all, where it stands. -/
theorem Completed.findId? (h : Completed arrays given c c') {r : Record}
    (hr : c.findId? arrays id = some r) :
    ∃ r', c'.findId? arrays id = some r' ∧ Record.Completed arrays given r r' := by
  induction h with
  | nil => cases hr
  | cons hhead _ ih =>
    simp only [Catalog.findId?, List.find?_cons, hhead.hasId id] at hr ih ⊢
    split at hr
    · cases hr
      exact ⟨_, rfl, hhead⟩
    · exact ih hr

theorem findId?_hasId {r : Record} (h : c.findId? arrays id = some r) :
    r.hasId arrays id = true := by
  simpa using List.find?_some h

theorem modifyFirst_cases (test : Record → Bool) (change : Record → Record) (c : Catalog) :
    (∀ r ∈ c, test r = false) ∧ c.modifyFirst test change = (c, false) ∨
      ∃ front r back, c = front ++ r :: back ∧ (∀ r ∈ front, test r = false) ∧ test r = true ∧
        c.modifyFirst test change = (front ++ change r :: back, true) := by
  induction c with
  | nil => exact Or.inl ⟨by simp, rfl⟩
  | cons r rest ih =>
    by_cases hr : test r = true
    · exact Or.inr ⟨[], r, rest, rfl, by simp, hr, by simp [modifyFirst, hr]⟩
    · rw [Bool.not_eq_true] at hr
      rcases ih with ⟨hnone, heq⟩ | ⟨front, found, back, rfl, hfront, hfound, heq⟩
      · exact Or.inl ⟨by simpa [hr] using hnone, by simp [modifyFirst, hr, heq]⟩
      · exact Or.inr ⟨r :: front, found, back, rfl, by simpa [hr] using hfront, hfound,
          by simp [modifyFirst, hr, heq]⟩

/-- An assignment changes nothing unless a record with the id passes for one without an identifier;
otherwise it gives the identifier to the first such record. -/
theorem assign_cases (arrays : Bool) (c : Catalog) (id : Int) (uuid : String) :
    (∀ r ∈ c, r.hasId arrays id = true → r.isOpen arrays = false) ∧
        c.assign arrays id uuid = (c, false) ∨
      ∃ front r back, c = front ++ r :: back ∧
        (∀ r ∈ front, r.hasId arrays id = true → r.isOpen arrays = false) ∧
        r.hasId arrays id = true ∧ r.isOpen arrays = true ∧
        c.assign arrays id uuid = (front ++ r.setUuid (.str uuid) :: back, true) := by
  rcases c.modifyFirst_cases (fun r => r.hasId arrays id && r.isOpen arrays)
    (·.setUuid (.str uuid)) with
    ⟨hnone, heq⟩ | ⟨front, r, back, rfl, hfront, hr, heq⟩
  · refine Or.inl ⟨?_, heq⟩
    intro r hr hid
    simpa [hid] using hnone r hr
  · rw [Bool.and_eq_true] at hr
    refine Or.inr ⟨front, r, back, rfl, ?_, hr.1, hr.2, heq⟩
    intro r hr hid
    simpa [hid] using hfront r hr

theorem completed_assign (c : Catalog) {uuid : String} (h : given uuid) :
    Completed arrays given c (c.assign arrays id uuid).1 := by
  rcases c.assign_cases arrays id uuid with ⟨_, heq⟩ | ⟨front, r, back, rfl, _, _, hblank, heq⟩
  · rw [heq]
    exact completed_refl c
  · rw [heq]
    refine List.rel_append (completed_refl front) (List.Forall₂.cons ?_ (completed_refl back))
    exact Or.inr ⟨hblank, uuid, h, rfl⟩

theorem assign_of_findId? {r : Record} (hr : c.findId? arrays id = some r)
    (hblank : r.isOpen arrays = true) (uuid : String) :
    (c.assign arrays id uuid).2 = true ∧
      (c.assign arrays id uuid).1.findId? arrays id = some (r.setUuid (.str uuid)) := by
  rcases c.assign_cases arrays id uuid with
    ⟨hnone, _⟩ | ⟨front, found, back, rfl, hfront, hid, _, heq⟩
  · rw [hnone r (List.mem_of_find?_eq_some hr) (findId?_hasId hr)] at hblank
    cases hblank
  · -- A record of the same id further in front would itself be what the id stands for.
    have hskip : front.find? (·.hasId arrays id) = none := by
      rw [List.find?_eq_none]
      intro r' hr' hid'
      have hsome : front.find? (·.hasId arrays id) = some r := by
        have hexists : (front.find? (·.hasId arrays id)).isSome = true := by
          rw [List.find?_isSome]
          exact ⟨r', hr', hid'⟩
        obtain ⟨x, hx⟩ := Option.isSome_iff_exists.mp hexists
        simpa [Catalog.findId?, List.find?_append, hx] using hr
      rw [hfront r (List.mem_of_find?_eq_some hsome) (findId?_hasId hr)] at hblank
      cases hblank
    have hfound : found = r := by simpa [Catalog.findId?, List.find?_append, hskip, hid] using hr
    rw [heq, hfound]
    refine ⟨rfl, ?_⟩
    simp [Catalog.findId?, List.find?_append, hskip, findId?_hasId hr]

/-- Every record has an integer id, and no two records have the same. -/
def DistinctIds (c : Catalog) : Prop :=
  ∃ ids : List Int, c.map (·.get "id") = ids.map .int ∧ ids.Nodup

theorem DistinctIds.findId?_of_mem (h : c.DistinctIds) {r : Record} (hr : r ∈ c)
    (hid : r.hasId arrays id = true) : c.findId? arrays id = some r := by
  obtain ⟨ids, hids, hnodup⟩ := h
  induction c generalizing ids with
  | nil => cases hr
  | cons head rest ih =>
    cases ids with
    | nil => cases hids
    | cons headId restIds =>
      simp only [List.map_cons, List.cons.injEq] at hids
      rw [List.nodup_cons] at hnodup
      rcases List.mem_cons.mp hr with rfl | hr
      · simp [Catalog.findId?, hid]
      · -- The id is among those of the rest, so the head has another one.
        have hmem : id ∈ restIds := by
          have hget : r.get "id" ∈ restIds.map Json.int := by
            rw [← hids.2]
            exact List.mem_map_of_mem hr
          obtain ⟨n, hn, hget⟩ := List.mem_map.mp hget
          have : n = id := by simpa [Record.hasId, ← hget, Json.meets, Json.equalsInt] using hid
          exact this ▸ hn
        have hne : headId ≠ id := fun heq => hnodup.1 (heq ▸ hmem)
        have hhead : head.hasId arrays id = false := by
          simpa [Record.hasId, hids.1, Json.meets, Json.equalsInt] using hne
        have htail := ih hr restIds hids.2 hnodup.2
        simpa [Catalog.findId?, hhead] using htail

theorem Completed.distinctIds (h : Completed arrays given c c') (hc : c.DistinctIds) :
    c'.DistinctIds := by
  obtain ⟨ids, hids, hnodup⟩ := hc
  refine ⟨ids, ?_, hnodup⟩
  rw [← hids]
  clear hids
  induction h with
  | nil => rfl
  | @cons r r' _ _ hr _ ih =>
    have hid : r'.get "id" = r.get "id" := by
      rw [Fields.get, Fields.get, hr.get? (by decide : "id" ≠ "uuid")]
    rw [List.map_cons, List.map_cons, hid, ih]

theorem DistinctIds.get_id (h : c.DistinctIds) {r : Record} (hr : r ∈ c) :
    ∃ id, r.get "id" = .int id := by
  obtain ⟨ids, hids, -⟩ := h
  have hget : r.get "id" ∈ ids.map Json.int := by
    rw [← hids]
    exact List.mem_map_of_mem hr
  obtain ⟨id, -, hid⟩ := List.mem_map.mp hget
  exact ⟨id, hid.symm⟩

/-- Where ids are distinct, an assignment that finds a blank record has settled the record that the
id stands for. -/
theorem DistinctIds.findId?_assign (h : c.DistinctIds) {uuid : String}
    (hassigned : (c.assign arrays id uuid).2 = true) :
    ∃ r, (c.assign arrays id uuid).1.findId? arrays id = some r ∧ r.uuid = .str uuid := by
  rcases c.assign_cases arrays id uuid with ⟨_, heq⟩ | ⟨front, r, back, rfl, _, hid, hblank, _⟩
  · rw [heq] at hassigned
    cases hassigned
  · have hr := h.findId?_of_mem (List.mem_append_right front (List.mem_cons_self)) hid
    exact ⟨_, (assign_of_findId? hr hblank uuid).2, Record.uuid_setUuid r _⟩

/-- Every identifier in the catalog is missing, null or a text. -/
def PlainUuids (c : Catalog) : Prop :=
  ∀ r ∈ c, r.HasPlainUuid

theorem Completed.plainUuids (h : Completed arrays given c c') (hc : c.PlainUuids) :
    c'.PlainUuids := by
  intro r' hr'
  obtain ⟨r, hr, hcompleted⟩ := exists_left_of_forall₂ h hr'
  exact hcompleted.hasPlainUuid (hc r hr)

/-- The record that the id stands for has this identifier, which is not the empty text. -/
def Holds (arrays : Bool) (c : Catalog) (id : Int) (uuid : String) : Prop :=
  uuid ≠ "" ∧ ∃ r, c.findId? arrays id = some r ∧ r.uuid = .str uuid

/-- An identifier that the catalog holds is never replaced. -/
theorem Holds.completed {uuid : String} (h : c.Holds arrays id uuid)
    (hc : Completed arrays given c c') :
    c'.Holds arrays id uuid := by
  obtain ⟨hne, r, hr, huuid⟩ := h
  obtain ⟨r', hr', hcompleted⟩ := hc.findId? hr
  have hsame := hcompleted.eq_of_not_open ((Record.isOpen_of_str huuid).mpr hne)
  exact ⟨hne, r', hr', hsame ▸ huuid⟩

theorem Holds.unique {uuid other : String} (h : c.Holds arrays id uuid)
    (h' : c.Holds arrays id other) :
    uuid = other := by
  obtain ⟨_, r, hr, huuid⟩ := h
  obtain ⟨_, r', hr', huuid'⟩ := h'
  rw [hr, Option.some.injEq] at hr'
  rw [hr', huuid', Json.str.injEq] at huuid
  exact huuid.symm

end Catalog
end UsagePolicy
