import UsagePolicy.Proofs.Json.RoundTrip
import UsagePolicy.Proofs.Service.Tasks

/-!
# What a client reads

The body of a response is the text of a value, and a client that reads it has the value that the
task has returned. Whatever the database can hold is short enough to be read.
-/
namespace UsagePolicy

theorem Documents.readable_toJson (documents : Documents) : documents.toJson.Readable := by
  simp [toJson, Json.Readable, Json.ReadableFields]

theorem Json.readable_int {n : Int} (h : tooWide n = false) : (Json.int n).Readable := by
  have hlt : n.natAbs < 10 ^ 20 := by
    simp only [tooWide, Bool.or_eq_false_iff, decide_eq_false_iff_not] at h
    omega
  have hlength := Numeral.length_ofNat_le (by decide) hlt
  exact Nat.le_trans hlength (by decide)

theorem Dataset.readable_of_id {d : Dataset} (hid : (Json.int d.id).Readable) :
    d.toJson.Readable := by
  rw [Json.Readable] at hid
  simp [toJson, toFields, Json.Readable, Json.ReadableFields, hid]

theorem Dataset.readable_toJson {d : Dataset} (h : tooWide d.id = false) : d.toJson.Readable :=
  readable_of_id (Json.readable_int h)

theorem PolicyConfig.readable_of_count {c : PolicyConfig}
    (h : ∀ n ∈ c.maxUsageCount, (Json.int n).Readable) : c.toJson.Readable := by
  have hcount : (c.maxUsageCount.elim Json.null Json.int).Readable := by
    cases hn : c.maxUsageCount with
    | none => trivial
    | some n => exact h n hn
  simp [toJson, toFields, Json.Readable, Json.ReadableFields, Json.readable_texts, hcount]

theorem PolicyConfig.readable_toJson {c : PolicyConfig}
    (h : ∀ n ∈ c.maxUsageCount, tooWide n = false) : c.toJson.Readable :=
  readable_of_count fun n hn => Json.readable_int (h n hn)

theorem SavedPolicy.readable_toFields {p : SavedPolicy} (hdataset : p.dataset.toJson.Readable)
    (hconfig : p.config.toJson.Readable) : Json.ReadableFields p.toFields := by
  simp [toFields, fieldsFor, Timestamp.toJson, Json.Readable, Json.ReadableFields, hdataset,
    hconfig]

theorem SavedPolicy.narrow_of_storageFault? {p : SavedPolicy}
    (h : (Json.obj p.toFields).storageFault? = none) :
    tooWide p.dataset.id = false ∧ ∀ n ∈ p.config.maxUsageCount, tooWide n = false := by
  simp [toFields, fieldsFor, Dataset.toJson, Dataset.toFields, PolicyConfig.toJson,
    PolicyConfig.toFields, Json.storageFault?, Json.storageFaultFields?] at h
  obtain ⟨hid, ⟨-, -, hcount⟩, -⟩ := h
  refine ⟨hid, fun n hn => ?_⟩
  rw [Option.mem_def.mp hn] at hcount
  simpa [Json.storageFault?] using hcount

theorem PolicyEntry.readable_of_fields {e : PolicyEntry}
    (h : Json.ReadableFields e.policy.toFields) : e.toJson.Readable := by
  refine ⟨by simp [SavedPolicy.toFields, SavedPolicy.fieldsFor], ?_⟩
  exact ⟨trivial, h⟩

theorem PolicyEntry.readable_toJson {e : PolicyEntry}
    (h : (Json.obj e.policy.toFields).storageFault? = none) : e.toJson.Readable := by
  obtain ⟨hid, hcount⟩ := SavedPolicy.narrow_of_storageFault? h
  have hdataset := Dataset.readable_toJson hid
  have hconfig := PolicyConfig.readable_toJson hcount
  exact readable_of_fields (SavedPolicy.readable_toFields hdataset hconfig)

@[simp] theorem Documents.nesting_toJson (documents : Documents) :
    documents.toJson.nesting = 1 := rfl

@[simp] theorem Dataset.nesting_toJson (d : Dataset) : d.toJson.nesting = 1 := rfl

@[simp] theorem PolicyConfig.nesting_toJson (c : PolicyConfig) : c.toJson.nesting = 2 := by
  have hcount : (c.maxUsageCount.elim Json.null Json.int).nesting = 0 := by
    cases c.maxUsageCount <;> rfl
  simp [toJson, toFields, Json.nesting, Json.nestingFields, hcount]

@[simp] theorem SavedPolicy.nesting_toFields (p : SavedPolicy) :
    Json.nestingFields p.toFields = 2 := by
  simp [toFields, fieldsFor, Timestamp.toJson, Json.nesting, Json.nestingFields]

@[simp] theorem PolicyEntry.nesting_toJson (e : PolicyEntry) : e.toJson.nesting = 3 := by
  simp [toJson, Json.nesting, Json.nestingFields]

namespace Http

/-- The exchange ended as the service meant it to, and its body is read as the value. -/
structure Exchange.Carries (exchange : Exchange) (status : Nat) (v : Json) : Prop where
  raised : exchange.raised = none
  status : exchange.response.status = status
  body : Json.parse exchange.response.body = .ok v

variable {origins : List String} {request : Request}

theorem carries_documents (documents : Documents) :
    (exchange origins request (.ok (.documents documents))).Carries 200 documents.toJson := by
  refine ⟨rfl, status_decorate _ _ _, ?_⟩
  rw [exchange, body_decorate]
  exact Json.parse_compactText documents.readable_toJson (by simp [Json.nestingLimit])

theorem carries_dataset {d : Dataset} (h : tooWide d.id = false) :
    (exchange origins request (.ok (.dataset d.toJson))).Carries 200 d.toJson := by
  refine ⟨rfl, status_decorate _ _ _, ?_⟩
  rw [exchange, body_decorate]
  exact Json.parse_terseText (d.readable_toJson h) (by simp [Json.nestingLimit])

theorem carries_saved (id : PolicyId) :
    (exchange origins request (.ok (.saved id))).Carries 201
      (.obj [("message", .str "Policy saved"), ("id", .str id.text)]) := by
  refine ⟨rfl, status_decorate _ _ _, ?_⟩
  rw [exchange, body_decorate]
  apply Json.parse_compactText
  · simp [Json.Readable, Json.ReadableFields]
  · simp [Json.nesting, Json.nestingFields, Json.nestingLimit]

theorem carries_refusal (refusal : Refusal) :
    (exchange origins request (.error (.refused refusal))).Carries refusal.status
      (.obj [("detail", .str refusal.detail)]) := by
  refine ⟨rfl, status_decorate _ _ _, ?_⟩
  rw [exchange, body_decorate]
  apply Json.parse_compactText
  · simp [Json.Readable, Json.ReadableFields]
  · simp [Json.nesting, Json.nestingFields, Json.nestingLimit]

theorem carries_policies {entries : List PolicyEntry}
    (h : ∀ e ∈ entries, (Json.obj e.policy.toFields).storageFault? = none) :
    (exchange origins request (.ok (.policies entries))).Carries 200
      (.arr (entries.map PolicyEntry.toJson)) := by
  refine ⟨rfl, status_decorate _ _ _, ?_⟩
  rw [exchange, body_decorate]
  apply Json.parse_compactText
  · rw [Json.Readable, Json.readableItems_iff, List.forall_mem_map]
    exact fun e he => e.readable_toJson (h e he)
  · have hentries : Json.nestingItems (entries.map PolicyEntry.toJson) ≤ 3 := by
      simp [Json.nestingItems_le_iff]
    simp only [Json.nesting, Json.nestingLimit]
    omega

end Http
end UsagePolicy
