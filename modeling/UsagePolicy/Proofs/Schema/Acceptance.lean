import UsagePolicy.Schema.Models

/-!
# What the checks accept

A check that combines others accepts a value exactly if each of them accepts its part. The rules
here turn acceptance by a model into conditions on the fields of the value, and with them the form
of a dataset or of a policy is seen to pass its own check.
-/
namespace UsagePolicy

namespace Checked

variable {α β : Type}

def value? : Checked α → Option α
  | accepted a => some a
  | refused _ => none

@[simp] theorem value?_eq_some {c : Checked α} {a : α} : c.value? = some a ↔ c = .accepted a := by
  cases c <;> simp [value?]

@[simp] theorem map_eq_accepted {f : α → β} {c : Checked α} {b : β} :
    f <$> c = .accepted b ↔ ∃ a, c = .accepted a ∧ f a = b := by
  cases c with
  | accepted a => simp [Functor.map, Checked.map]
  | refused issues => simp [Functor.map, Checked.map]

@[simp] theorem seq_eq_accepted {f : Checked (α → β)} {c : Checked α} {b : β} :
    f <*> c = .accepted b ↔ ∃ g a, f = .accepted g ∧ c = .accepted a ∧ g a = b := by
  cases f <;> cases c <;> simp [Seq.seq, Checked.both, Checked.map]

theorem both_eq_accepted {c : Checked α} {c' : Checked β} {p : α × β} :
    c.both c' = .accepted p ↔ c = .accepted p.1 ∧ c' = .accepted p.2 := by
  obtain ⟨a, b⟩ := p
  cases c <;> cases c' <;> simp [both]

@[simp] theorem within_eq_accepted {locus : Locus} {c : Checked α} {a : α} :
    c.within locus = .accepted a ↔ c = .accepted a := by
  cases c <;> simp [within]

@[simp] theorem refuse_ne_accepted {complaint : Complaint} {v : Json} {a : α} :
    (refuse complaint v : Checked α) ≠ .accepted a := by
  simp [refuse]

end Checked

namespace Schema

variable {α : Type} {fields : Fields} {name : String} {check : Json → Checked α} {a : α}

@[simp] theorem required_eq_accepted :
    required fields name check = .accepted a ↔
      ∃ v, fields.get? name = some v ∧ check v = .accepted a := by
  unfold required
  cases h : fields.get? name <;> simp

theorem withDefault_eq_accepted {value : α} :
    withDefault fields name value check = .accepted a ↔
      (∃ v, fields.get? name = some v ∧ check v = .accepted a) ∨
        fields.get? name = none ∧ value = a := by
  unfold withDefault
  cases h : fields.get? name <;> simp

theorem model_eq_accepted {check : Fields → Checked α} {source : Source} {v : Json} :
    model name check source v = .accepted a ↔
      ∃ fields, v = .obj fields ∧ check fields = .accepted a := by
  cases v with
  | obj fields => simp [model]
  | null | bool b | int n | float x | str s | arr items => cases source <;> simp [model]

theorem check_of_optional {check : Json → Checked α} {v : Json}
    (h : optional check v = .accepted (some a)) : check v = .accepted a := by
  unfold optional at h
  split at h
  · cases h
  · obtain ⟨b, hb, heq⟩ := Checked.map_eq_accepted.mp h
    cases heq
    exact hb

@[simp] theorem text_eq_accepted {v : Json} {s : String} :
    text v = .accepted s ↔ v = .str s := by
  cases v <;> simp [text]

@[simp] theorem integer_int (n : Int) : integer (.int n) = .accepted n := rfl

theorem truncate_of_integerNumber {x : Binary64} {n : Int} (h : integerNumber x = .ok n) :
    x.truncate = n := by
  unfold integerNumber at h
  split at h
  · cases h
  split at h
  · cases h
  split at h
  · cases h
    rfl
  · cases h

theorem truncate_of_equalsInt {x : Binary64} {n : Int} (h : x.equalsInt n = true) :
    x.truncate = n := by
  have hden : x.toRatio.2 ≠ 0 := by
    cases x <;> simp [Binary64.toRatio, Binary64.scale]
  have hvalue : x.toRatio.1 = n * x.toRatio.2 := by
    simp only [Binary64.equalsInt, Bool.and_eq_true, beq_iff_eq] at h
    exact h.2
  rw [Binary64.truncate, hvalue]
  exact Int.mul_tdiv_cancel n (Int.natCast_ne_zero.mpr hden)

/-- What is accepted as an integer is no array that a filter could enter. -/
theorem meets_of_integer {v : Json} {m : Int} (h : integer v = .accepted m) (arrays : Bool)
    (test : Json → Bool) : v.meets arrays test = test v := by
  cases v with
  | arr items => cases h
  | null | bool b | int n | float x | str s | obj fields => simp [Json.meets]

theorem integer_of_equalsInt {v : Json} {m n : Int} (h : integer v = .accepted m)
    (heq : v.equalsInt n = true) : m = n := by
  cases v with
  | int k =>
    cases h
    simpa [Json.equalsInt] using heq
  | float x =>
    have hm : x.truncate = m := by
      simp only [integer] at h
      split at h
      · next hnumber =>
        cases h
        exact truncate_of_integerNumber hnumber
      · cases h
    rw [← hm]
    exact truncate_of_equalsInt heq
  | null | bool b | str s | arr items | obj fields => simp [Json.equalsInt] at heq

theorem integer_eq_accepted_of_equalsInt {v : Json} {n : Int} (heq : v.equalsInt n = true)
    (hlow : -0x8000000000000000 < n) (hhigh : n < 0x8000000000000000) :
    integer v = .accepted n := by
  cases v with
  | int k =>
    obtain rfl : k = n := by simpa [Json.equalsInt] using heq
    rfl
  | float x =>
    have hx : x.equalsInt n = true := heq
    have htruncate := truncate_of_equalsInt hx
    simp only [Binary64.equalsInt, Bool.and_eq_true, beq_iff_eq] at hx
    have hintegral : x.isIntegral = true := by
      simp [Binary64.isIntegral, hx.1, hx.2]
    simp [integer, integerNumber, hx.1, hintegral, htruncate, hlow, hhigh]
  | null | bool b | str s | arr items | obj fields => simp [Json.equalsInt] at heq

theorem items_str (texts : List String) (index : Nat) :
    items text index (texts.map .str) = .accepted texts := by
  induction texts generalizing index with
  | nil => rfl
  | cons s rest ih =>
    simp [items, text, ih, Checked.within, Checked.both, Checked.map]

@[simp] theorem list_texts (texts : List String) : list text (.texts texts) = .accepted texts :=
  items_str texts 0

@[simp] theorem policyType_tag (t : PolicyType) : policyType (.str t.tag) = .accepted t := by
  simp [policyType, PolicyType.ofTag?_tag]

@[simp] theorem optional_integer (count : Option Int) :
    optional integer (count.elim .null .int) = .accepted count := by
  cases count <;> rfl

theorem usageCount_eq_accepted {v : Json} {count : Option Int} :
    usageCount v = .accepted count ↔ ∃ n, UsageCount.ofJson v = .ok n ∧ count = some n := by
  cases h : UsageCount.ofJson v with
  | ok n => simp [usageCount, h, eq_comm]
  | error fault => simp [usageCount, h]

end Schema

open Schema

namespace Dataset

/-- A dataset is accepted from fields exactly if they hold its parts, the description being empty
if there is none. -/
theorem check_obj_eq_accepted {fields : Fields} {d : Dataset} :
    check .values (.obj fields) = .accepted d ↔
      (∃ id, fields.get? "id" = some id ∧ integer id = .accepted d.id) ∧
        fields.get? "name" = some (.str d.name) ∧
        (fields.get? "description").getD (.str "") = .str d.description ∧
        fields.get? "uuid" = some (.str d.uuid) := by
  obtain ⟨id, name, description, uuid⟩ := d
  simp only [check, model, ofFields, Checked.seq_eq_accepted, Checked.map_eq_accepted,
    required_eq_accepted, withDefault_eq_accepted, text_eq_accepted]
  constructor
  · rintro ⟨_, _, ⟨_, _, ⟨_, _, ⟨_, hid, rfl⟩, ⟨_, hname, rfl⟩, rfl⟩, hdesc, rfl⟩,
      ⟨_, huuid, rfl⟩, h⟩
    cases h
    refine ⟨hid, hname, ?_, huuid⟩
    rcases hdesc with ⟨_, hdesc, rfl⟩ | ⟨hdesc, rfl⟩ <;> simp [hdesc]
  · rintro ⟨hid, hname, hdesc, huuid⟩
    refine ⟨_, _, ⟨_, _, ⟨_, _, ⟨_, hid, rfl⟩, ⟨_, hname, rfl⟩, rfl⟩, ?_, rfl⟩,
      ⟨_, huuid, rfl⟩, rfl⟩
    cases h : fields.get? "description" with
    | none => exact Or.inr ⟨rfl, by simpa [h] using hdesc⟩
    | some v => exact Or.inl ⟨v, rfl, by simpa [h] using hdesc⟩

/-- The form of a dataset passes its check. -/
@[simp] theorem check_toJson (d : Dataset) : check .values d.toJson = .accepted d := by
  simp [toJson, toFields, check_obj_eq_accepted, Fields.get?, List.lookup_cons]

end Dataset

/-- The count that the fields of a form submit, which is one if there is none among them. -/
def UsageCount.submitted (fields : Fields) : Except Fault Int :=
  match fields.get? "maxUsageCount" with
  | some v => ofJson v
  | none => .ok 1

namespace PolicyConfig

variable {source : Source} {v : Json} {config : PolicyConfig} {fields : Fields}

/-- The form of a policy passes its check. -/
@[simp] theorem check_toJson (c : PolicyConfig) : check .values c.toJson = .accepted c := by
  simp [check, toJson, toFields, model, ofFieldsWith, withDefault_eq_accepted, Fields.get?,
    List.lookup_cons]

theorem exists_fields_of_checkForm (h : checkForm source v = .accepted config) :
    ∃ fields, v = .obj fields := by
  obtain ⟨fields, rfl, -⟩ := model_eq_accepted.mp h
  exact ⟨fields, rfl⟩

/-- What is accepted does not depend on where it comes from. -/
theorem checkForm_source (h : checkForm source v = .accepted config) (other : Source) :
    checkForm other v = .accepted config := by
  obtain ⟨fields, rfl⟩ := exists_fields_of_checkForm h
  exact h

/-- An accepted form has the restriction that it selects and the count that it submits, which is
positive. -/
theorem parts_of_checkForm (h : checkForm source (.obj fields) = .accepted config) :
    (∀ tag, fields.get? "type" = some tag → policyType tag = .accepted config.type) ∧
      ∃ n, 1 ≤ n ∧ config.maxUsageCount = some n ∧ UsageCount.submitted fields = .ok n := by
  simp only [checkForm, model, ofFieldsWith, Checked.seq_eq_accepted,
    Checked.map_eq_accepted] at h
  obtain ⟨_, _, ⟨_, _, ⟨_, _, ⟨_, _, ⟨_, _, ⟨_, htype, rfl⟩, _, rfl⟩, _, rfl⟩, _, rfl⟩, _, rfl⟩,
    hcount, rfl⟩ := h
  constructor
  · intro tag htag
    rcases withDefault_eq_accepted.mp htype with ⟨v, hv, hchecked⟩ | ⟨hnone, -⟩
    · obtain rfl : v = tag := Option.some_inj.mp (hv.symm.trans htag)
      exact hchecked
    · rw [hnone] at htag
      cases htag
  · rcases withDefault_eq_accepted.mp hcount with ⟨v, hv, hchecked⟩ | ⟨hnone, rfl⟩
    · obtain ⟨n, hn, rfl⟩ := usageCount_eq_accepted.mp hchecked
      exact ⟨n, UsageCount.one_le_of_ofJson hn, rfl, by rw [UsageCount.submitted, hv]; exact hn⟩
    · exact ⟨1, Int.le_refl 1, rfl, by rw [UsageCount.submitted, hnone]⟩

theorem maxUsageCount_of_checkForm (h : checkForm source v = .accepted config) :
    ∃ count, 1 ≤ count ∧ config.maxUsageCount = some count := by
  obtain ⟨fields, rfl⟩ := exists_fields_of_checkForm h
  obtain ⟨-, n, hn, hcount, -⟩ := parts_of_checkForm h
  exact ⟨n, hn, hcount⟩

end PolicyConfig

/-- A request for documents is accepted from fields if they hold its dataset and its policy; it is
issued now if they hold no time of issue, or null. -/
theorem GenerateRequest.check_obj_of_not_issued {source : Source} {fields : Fields}
    {dataset v : Json} {d : Dataset} {config : PolicyConfig}
    (hdataset : fields.get? "dataset" = some dataset)
    (hd : Dataset.check source dataset = .accepted d) (hv : fields.get? "config" = some v)
    (hconfig : PolicyConfig.checkForm source v = .accepted config)
    (hissued : fields.get "issued" = .null) :
    check source (.obj fields) = .accepted ⟨d, config, none⟩ := by
  have hnow : withDefault fields "issued" none (optional timestamp) = .accepted none := by
    rw [withDefault_eq_accepted]
    cases h : fields.get? "issued" with
    | none => exact Or.inr ⟨rfl, rfl⟩
    | some issued =>
      obtain rfl : issued = .null := by simpa [Fields.get, h] using hissued
      exact Or.inl ⟨.null, rfl, rfl⟩
  simp only [check, model, Checked.seq_eq_accepted, Checked.map_eq_accepted, required_eq_accepted]
  exact ⟨_, _, ⟨_, _, ⟨_, ⟨dataset, hdataset, hd⟩, rfl⟩, ⟨v, hv, hconfig⟩, rfl⟩, hnow, rfl⟩

theorem SaveRequest.check_obj_of_parts {source : Source} {fields : Fields} {id v : Json} {n : Int}
    {config : PolicyConfig} (hid : fields.get? "dataset_id" = some id)
    (hn : integer id = .accepted n) (hv : fields.get? "config" = some v)
    (hconfig : PolicyConfig.checkForm source v = .accepted config) :
    check source (.obj fields) = .accepted ⟨n, config⟩ := by
  simp only [check, model, Checked.seq_eq_accepted, Checked.map_eq_accepted, required_eq_accepted]
  exact ⟨_, _, ⟨_, ⟨id, hid, hn⟩, rfl⟩, ⟨v, hv, hconfig⟩, rfl⟩

theorem GenerateRequest.parts_of_check {source : Source} {v : Json} {g : GenerateRequest}
    (h : check source v = .accepted g) : ∃ (fields : Fields) (dataset config : Json),
      v = .obj fields ∧ fields.get? "dataset" = some dataset ∧
      Dataset.check source dataset = .accepted g.dataset ∧ fields.get? "config" = some config ∧
      PolicyConfig.checkForm source config = .accepted g.config ∧
      withDefault fields "issued" none (optional timestamp) = .accepted g.issued := by
  obtain ⟨fields, rfl, hfields⟩ := model_eq_accepted.mp h
  simp only [Checked.seq_eq_accepted, Checked.map_eq_accepted, required_eq_accepted] at hfields
  obtain ⟨_, _, ⟨_, _, ⟨_, ⟨dataset, hdataset, hd⟩, rfl⟩, ⟨config, hconfig, hc⟩, rfl⟩, hissued,
    rfl⟩ := hfields
  exact ⟨fields, dataset, config, rfl, hdataset, hd, hconfig, hc, hissued⟩

theorem GenerateRequest.config_of_check {source : Source} {v : Json} {g : GenerateRequest}
    (h : check source v = .accepted g) : ∃ (fields : Fields) (config : Json), v = .obj fields ∧
      fields.get? "config" = some config ∧
      PolicyConfig.checkForm source config = .accepted g.config := by
  obtain ⟨fields, _, config, rfl, -, -, hconfig, hc, -⟩ := parts_of_check h
  exact ⟨fields, config, rfl, hconfig, hc⟩

theorem SaveRequest.parts_of_check {source : Source} {v : Json} {r : SaveRequest}
    (h : check source v = .accepted r) : ∃ (fields : Fields) (id config : Json),
      v = .obj fields ∧ fields.get? "dataset_id" = some id ∧ integer id = .accepted r.datasetId ∧
      fields.get? "config" = some config ∧
      PolicyConfig.checkForm source config = .accepted r.config := by
  obtain ⟨fields, rfl, hfields⟩ := model_eq_accepted.mp h
  simp only [Checked.seq_eq_accepted, Checked.map_eq_accepted, required_eq_accepted] at hfields
  obtain ⟨_, _, ⟨_, ⟨id, hid, hinteger⟩, rfl⟩, ⟨config, hconfig, hc⟩, rfl⟩ := hfields
  exact ⟨fields, id, config, rfl, hid, hinteger, hconfig, hc⟩

theorem SaveRequest.config_of_check {source : Source} {v : Json} {r : SaveRequest}
    (h : check source v = .accepted r) : ∃ (fields : Fields) (config : Json), v = .obj fields ∧
      fields.get? "config" = some config ∧
      PolicyConfig.checkForm source config = .accepted r.config := by
  obtain ⟨fields, _, config, rfl, -, -, hconfig, hc⟩ := parts_of_check h
  exact ⟨fields, config, rfl, hconfig, hc⟩

theorem SaveRequest.maxUsageCount_of_check {source : Source} {v : Json} {r : SaveRequest}
    (h : check source v = .accepted r) :
    ∃ count, 1 ≤ count ∧ r.config.maxUsageCount = some count := by
  obtain ⟨_, _, -, -, hconfig⟩ := config_of_check h
  exact PolicyConfig.maxUsageCount_of_checkForm hconfig

end UsagePolicy
