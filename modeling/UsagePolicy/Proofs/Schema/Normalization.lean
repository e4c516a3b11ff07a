import UsagePolicy.Proofs.Calendar.ReadOffsets
import UsagePolicy.Proofs.Policies.Submissions

/-!
# Forms that stay

Inputs come in many spellings, but a value that a model has accepted has one form in JSON. The text
of this form is read, accepted and written again without a change: the integers of an accepted value
are short enough to be read, the count of a policy from a form is positive, and its timestamps have
offsets of whole minutes. A policy that a form submits is accepted as a stored policy in the same
form.
-/
namespace UsagePolicy

open Schema

namespace Schema

theorem readable_of_plainInteger {cs : List Char} {n : Int} (h : plainInteger cs = .ok n) :
    (Json.int n).Readable := by
  unfold plainInteger at h
  split at h
  next negative rest _ =>
    simp only at h
    split at h
    · split at h
      · cases h
        exact Json.readable_int rfl
      · cases h
    split at h
    · cases h
    · next hle =>
      split at h
      · cases h
      · cases h
        exact Numeral.length_ofNat_signed_le (fun _ => List.mem_takeWhile_imp) (by decide)
          (Nat.not_lt.mp hle)

theorem readable_of_integerText {s : String} {n : Int} (h : integerText s = .ok n) :
    (Json.int n).Readable := by
  unfold integerText at h
  split at h
  · split at h
    · next htidy =>
      cases h
      obtain ⟨cs, -, hplain⟩ := Option.map_eq_some_iff.mp htidy
      exact readable_of_plainInteger hplain
    · cases h
  · exact readable_of_plainInteger h

theorem readable_of_integerNumber {x : Binary64} {n : Int} (h : integerNumber x = .ok n) :
    (Json.int n).Readable := by
  unfold integerNumber at h
  split at h
  · cases h
  split at h
  · cases h
  split at h
  · next hrange =>
    cases h
    apply Json.readable_int
    simp only [Bool.and_eq_true, decide_eq_true_eq] at hrange
    simp only [tooWide, Bool.or_eq_false_iff, decide_eq_false_iff_not]
    omega
  · cases h

theorem readable_of_integer {v : Json} {n : Int} (hv : v.Limited)
    (h : integer v = .accepted n) : (Json.int n).Readable := by
  cases v with
  | int k =>
    cases h
    exact hv
  | bool b =>
    cases h
    cases b <;> exact Json.readable_int rfl
  | float x =>
    simp only [integer] at h
    split at h
    · next hnumber =>
      cases h
      exact readable_of_integerNumber hnumber
    · cases h
  | str s =>
    simp only [integer] at h
    split at h
    · next htext =>
      cases h
      exact readable_of_integerText htext
    · cases h
  | null | arr items | obj fields => cases h

theorem onWholeMinutes_of_timestamp {v : Json} {t : Timestamp} (h : timestamp v = .accepted t) :
    t.OnWholeMinutes := by
  unfold timestamp at h
  split at h
  · split at h
    · next hread =>
      cases h
      exact Timestamp.onWholeMinutes_of_readText hread
    · simp at h
  · split at h
    · next hcount =>
      cases h
      exact Timestamp.onWholeMinutes_of_ofCount hcount
    · split at h <;> simp at h
  · split at h
    · next hnumber =>
      cases h
      exact Timestamp.onWholeMinutes_of_ofNumber hnumber
    · simp at h
  · simp at h

end Schema

def PolicyConfig.CountIsPositive (config : PolicyConfig) : Prop :=
  ∃ n, 1 ≤ n ∧ config.maxUsageCount = some n

theorem PolicyConfig.checkForm_toJson {c : PolicyConfig} (h : c.CountIsPositive) :
    checkForm .values c.toJson = .accepted c := by
  obtain ⟨type, consumers, connectors, startTime, endTime, maxUsageCount⟩ := c
  obtain ⟨n, hn, rfl⟩ := h
  have hread : usageCount (.int n) = .accepted (some n) := by
    rw [usageCount_eq_accepted]
    refine ⟨n, ?_, rfl⟩
    rw [UsageCount.ofJson, UsageCount.atLeastOne, if_pos (by omega)]
  simp [checkForm, toJson, toFields, model, ofFieldsWith, withDefault_eq_accepted, Fields.get?,
    List.lookup_cons, hread]

theorem Schema.optional_timestamp {time : Option Timestamp} (h : ∀ t ∈ time, t.OnWholeMinutes) :
    optional timestamp (time.elim .null Timestamp.toJson) = .accepted time := by
  cases time with
  | none => rfl
  | some t =>
    have hread := timestamp_toJson (h t rfl)
    simp only [Option.elim, Timestamp.toJson] at hread ⊢
    simp [optional, hread, Checked.map]

theorem GenerateRequest.check_toJson {r : GenerateRequest} (hcount : r.config.CountIsPositive)
    (htime : ∀ t ∈ r.issued, t.OnWholeMinutes) : check .values r.toJson = .accepted r := by
  simp [check, toJson, model, withDefault_eq_accepted, Fields.get?, List.lookup_cons,
    PolicyConfig.checkForm_toJson hcount, optional_timestamp htime]

theorem SaveRequest.check_toJson {r : SaveRequest} (hcount : r.config.CountIsPositive) :
    check .values r.toJson = .accepted r :=
  check_obj_of_parts rfl (integer_int _) rfl (PolicyConfig.checkForm_toJson hcount)

theorem Dataset.readable_of_check {source : Source} {v : Json} {d : Dataset} (hv : v.Limited)
    (h : check source v = .accepted d) : d.toJson.Readable := by
  obtain ⟨fields, rfl, hfields⟩ := model_eq_accepted.mp h
  have hchecked : check .values (.obj fields) = .accepted d := hfields
  obtain ⟨⟨id, hid, hinteger⟩, -⟩ := check_obj_eq_accepted.mp hchecked
  exact readable_of_id (readable_of_integer (hv.get? hid) hinteger)

namespace PolicyConfig

variable {source : Source} {v : Json} {c : PolicyConfig}

theorem readable_of_check (hv : v.Limited) (h : check source v = .accepted c) :
    c.toJson.Readable := by
  obtain ⟨fields, rfl, hfields⟩ := model_eq_accepted.mp h
  simp only [ofFieldsWith, Checked.seq_eq_accepted, Checked.map_eq_accepted] at hfields
  obtain ⟨_, _, ⟨_, _, ⟨_, _, ⟨_, _, ⟨_, _, ⟨_, -, rfl⟩, -, rfl⟩, -, rfl⟩, -, rfl⟩, -, rfl⟩,
    hcount, rfl⟩ := hfields
  refine readable_of_count ?_
  rintro n ⟨⟩
  rcases withDefault_eq_accepted.mp hcount with ⟨count, hget, hchecked⟩ | ⟨-, hdefault⟩
  · exact readable_of_integer (hv.get? hget) (check_of_optional hchecked)
  · cases hdefault
    exact Json.readable_int rfl

theorem readable_of_checkForm (hv : v.Limited) (h : checkForm source v = .accepted c) :
    c.toJson.Readable :=
  readable_of_count (countIsShort_of_checkForm hv h)

end PolicyConfig

namespace SavedPolicy

variable {source : Source} {fields : Fields} {p : SavedPolicy}

theorem onWholeMinutes_of_ofFields (h : ofFields source fields = .accepted p) :
    p.createdAt.OnWholeMinutes := by
  obtain ⟨v, -, htime⟩ := createdAt_of_ofFields h
  exact onWholeMinutes_of_timestamp htime

theorem readable_of_ofFields (hv : Json.LimitedFields fields)
    (h : ofFields source fields = .accepted p) : Json.ReadableFields p.toFields := by
  simp only [ofFields, Checked.seq_eq_accepted, Checked.map_eq_accepted,
    required_eq_accepted] at h
  obtain ⟨_, _, ⟨_, _, ⟨_, _, ⟨_, _, ⟨_, ⟨dataset, hdataset, hd⟩, rfl⟩, ⟨config, hconfig, hc⟩, rfl⟩,
    -, rfl⟩, -, rfl⟩, -, rfl⟩ := h
  exact readable_toFields (Dataset.readable_of_check (hv.get? hdataset) hd)
    (PolicyConfig.readable_of_check (hv.get? hconfig) hc)

end SavedPolicy

/-- What the check accepts, it accepts again in the form that it is given, and the text of this form
can be read. -/
structure Schema.Settles {α : Type} (check : Json → Checked α) (toJson : α → Json) : Prop where
  again : ∀ {v a}, check v = .accepted a → check (toJson a) = .accepted a
  readable : ∀ {v a}, v.Limited → check v = .accepted a → (toJson a).Readable
  shallow : ∀ a, (toJson a).nesting ≤ Json.nestingLimit

theorem Dataset.settles : Settles (check .values) toJson where
  again _ := check_toJson _
  readable := readable_of_check
  shallow _ := by simp [Json.nestingLimit]

theorem PolicyConfig.settles : Settles (check .values) toJson where
  again _ := check_toJson _
  readable := readable_of_check
  shallow _ := by simp [Json.nestingLimit]

theorem PolicyConfig.form_settles : Settles (checkForm .values) toJson where
  again h := checkForm_toJson (maxUsageCount_of_checkForm h)
  readable := readable_of_checkForm
  shallow _ := by simp [Json.nestingLimit]

theorem GenerateRequest.settles : Settles (check .values) toJson where
  again h := by
    obtain ⟨fields, _, config, rfl, -, -, -, hc, hissued⟩ := parts_of_check h
    refine check_toJson (PolicyConfig.maxUsageCount_of_checkForm hc) fun t ht => ?_
    rw [Option.mem_def.mp ht] at hissued
    rcases withDefault_eq_accepted.mp hissued with ⟨time, -, htime⟩ | ⟨-, hnone⟩
    · exact onWholeMinutes_of_timestamp (check_of_optional htime)
    · cases hnone
  readable := by
    intro v r hv h
    obtain ⟨fields, dataset, config, rfl, hdataset, hd, hconfig, hc, -⟩ := parts_of_check h
    have hdataset' := Dataset.readable_of_check (hv.get? hdataset) hd
    have hconfig' := PolicyConfig.readable_of_checkForm (hv.get? hconfig) hc
    have hissued : (r.issued.elim Json.null Timestamp.toJson).Readable := by
      cases r.issued <;> trivial
    simp [toJson, Json.Readable, Json.ReadableFields, hdataset', hconfig', hissued]
  shallow r := by
    have hissued : (r.issued.elim Json.null Timestamp.toJson).nesting = 0 := by
      cases r.issued <;> rfl
    simp [toJson, Json.nesting, Json.nestingFields, Json.nestingLimit, hissued]

theorem Documents.settles : Settles (check .values) toJson where
  again _ := by simp [check, toJson, model, Fields.get?, List.lookup_cons]
  readable _ _ := readable_toJson _
  shallow _ := by simp [Json.nestingLimit]

theorem SaveRequest.settles : Settles (check .values) toJson where
  again h := by
    obtain ⟨_, _, _, -, -, -, -, hc⟩ := parts_of_check h
    exact check_toJson (PolicyConfig.maxUsageCount_of_checkForm hc)
  readable := by
    intro v r hv h
    obtain ⟨fields, id, config, rfl, hid, hinteger, hconfig, hc⟩ := parts_of_check h
    have hid' := readable_of_integer (hv.get? hid) hinteger
    have hconfig' := PolicyConfig.readable_of_checkForm (hv.get? hconfig) hc
    rw [Json.Readable] at hid'
    simp [toJson, Json.Readable, Json.ReadableFields, hid', hconfig']
  shallow _ := by simp [toJson, Json.nesting, Json.nestingFields, Json.nestingLimit]

theorem SavedPolicy.settles : Settles (check .values) toJson where
  again h := by
    obtain ⟨fields, rfl, hfields⟩ := model_eq_accepted.mp h
    exact check_toFields (onWholeMinutes_of_ofFields hfields)
  readable := by
    intro v p hv h
    obtain ⟨fields, rfl, hfields⟩ := model_eq_accepted.mp h
    exact ⟨by simp [toFields, fieldsFor], readable_of_ofFields hv hfields⟩
  shallow _ := by simp [toJson, Json.nesting, Json.nestingLimit]

theorem PolicyEntry.settles : Settles (check .values) toJson where
  again h := by
    obtain ⟨fields, rfl, hfields⟩ := model_eq_accepted.mp h
    simp only [ofFields, Checked.seq_eq_accepted, Checked.map_eq_accepted] at hfields
    obtain ⟨_, p, ⟨_, -, rfl⟩, hp, rfl⟩ := hfields
    exact check_toJson (SavedPolicy.onWholeMinutes_of_ofFields hp)
  readable := by
    intro v e hv h
    obtain ⟨fields, rfl, hfields⟩ := model_eq_accepted.mp h
    simp only [ofFields, Checked.seq_eq_accepted, Checked.map_eq_accepted] at hfields
    obtain ⟨_, p, ⟨_, -, rfl⟩, hp, rfl⟩ := hfields
    exact readable_of_fields (SavedPolicy.readable_of_ofFields hv hp)
  shallow _ := by simp [Json.nestingLimit]

theorem PolicyTypeOption.settles : Settles (check .values) toJson where
  again _ := by simp [check, toJson, model, Fields.get?, List.lookup_cons]
  readable _ _ := by simp [toJson, Json.Readable, Json.ReadableFields]
  shallow _ := by simp [toJson, Json.nesting, Json.nestingFields, Json.nestingLimit]

namespace Model

theorem settles_of_mem {m : Model} (hm : m ∈ all) : Settles (m.check .values) m.toJson := by
  revert m
  simp only [all, List.forall_mem_cons]
  exact ⟨Dataset.settles, PolicyConfig.settles, PolicyConfig.form_settles, GenerateRequest.settles,
    Documents.settles, SaveRequest.settles, SavedPolicy.settles, PolicyEntry.settles,
    PolicyTypeOption.settles, by simp⟩

/-- The text that the model with the name writes for what it accepts from a text. -/
def dump? (name text : String) : Option String :=
  (find? name).bind fun m => (Json.parse text).toOption.bind fun v =>
    (m.normalize v).value?.map Json.compactText

theorem dump?_eq_some {name text dump : String} :
    dump? name text = some dump ↔ ∃ m v a, find? name = some m ∧ Json.parse text = .ok v ∧
      m.check .values v = .accepted a ∧ (m.toJson a).compactText = dump := by
  have hparse : ∀ v, (Json.parse text).toOption = some v ↔ Json.parse text = .ok v := by
    intro v
    cases Json.parse text <;> simp [Except.toOption]
  have hnormalize : ∀ (m : Model) v w,
      m.normalize v = .accepted w ↔ ∃ a, m.check .values v = .accepted a ∧ m.toJson a = w :=
    fun m v w => Checked.map_eq_accepted
  simp only [dump?, Option.bind_eq_some_iff, Option.map_eq_some_iff, Checked.value?_eq_some,
    hparse, hnormalize]
  constructor
  · rintro ⟨m, hm, v, hv, _, ⟨a, ha, rfl⟩, hdump⟩
    exact ⟨m, v, a, hm, hv, ha, hdump⟩
  · rintro ⟨m, v, a, hm, hv, ha, hdump⟩
    exact ⟨m, hm, v, hv, _, ⟨a, ha, rfl⟩, hdump⟩

/-- What a model has written it accepts again and writes without a change, and a policy that a form
has submitted is accepted and written like this as a stored policy as well. -/
theorem dump_settles {name text dump : String} (h : dump? name text = some dump) :
    dump? name dump = some dump ∧
      (name = "PolicyConfigRequest" → dump? "PolicyConfig" dump = some dump) := by
  obtain ⟨m, v, a, hm, hv, ha, rfl⟩ := dump?_eq_some.mp h
  have hsettles := settles_of_mem (List.mem_of_find?_eq_some hm)
  have hread := Json.parse_compactText (hsettles.readable (Json.limited_of_parse hv) ha)
    (hsettles.shallow a)
  constructor
  · exact dump?_eq_some.mpr ⟨m, _, a, hm, hread, hsettles.again ha, rfl⟩
  · rintro rfl
    cases hm
    let config : Model := ⟨"PolicyConfig", _, PolicyConfig.check, PolicyConfig.toJson⟩
    exact dump?_eq_some.mpr ⟨config, _, a, rfl, hread, PolicyConfig.check_toJson a, rfl⟩

/-- A request with an id in a text and a time of issue in milliseconds, and a form with a fraction
for its count. -/
theorem dump_settles_spellings :
    let request := "\x7b\"dataset\": \x7b\"uuid\":\"u\",\"name\":\"a\",\"id\":\" -0_1.0\"\x7d, " ++
      "\"config\": \x7b\"maxUsageCount\":\" +07 times\"\x7d, \"issued\": 1709251215123.5\x7d"
    let dump :=
      "\x7b\"dataset\":\x7b\"id\":-1,\"name\":\"a\",\"description\":\"\",\"uuid\":\"u\"\x7d," ++
      "\"config\":\x7b\"type\":\"restrict_consumer\",\"consumers\":[],\"connectors\":[]," ++
      "\"startTime\":\"\",\"endTime\":\"\",\"maxUsageCount\":7\x7d," ++
      "\"issued\":\"2024-03-01T00:00:15.123500Z\"\x7d"
    let form := "\x7b\"maxUsageCount\":2.75,\"type\":\"usage_count\"\x7d"
    let config := "\x7b\"type\":\"usage_count\",\"consumers\":[],\"connectors\":[]," ++
      "\"startTime\":\"\",\"endTime\":\"\",\"maxUsageCount\":2\x7d"
    dump? "GeneratePolicyRequest" request = some dump ∧
      dump? "GeneratePolicyRequest" dump = some dump ∧
      dump? "PolicyConfigRequest" form = some config ∧
      dump? "PolicyConfig" config = some config := by
  intro request dump form config
  have hrequest : dump? "GeneratePolicyRequest" request = some dump := by decide +kernel
  have hform : dump? "PolicyConfigRequest" form = some config := by decide +kernel
  exact ⟨hrequest, (dump_settles hrequest).1, hform, (dump_settles hform).2 rfl⟩

end Model
end UsagePolicy
