import UsagePolicy.Proofs.Calendar.ReadBack
import UsagePolicy.Proofs.Program.Runs
import UsagePolicy.Proofs.Schema.Acceptance
import UsagePolicy.Service.Policies

/-!
# Stored policies read back

A policy is stored as the fields of its form, and these pass the checks of a saved policy and of a
listed one, which give the policy back. The time of creation comes back as long as its offset is
one of whole minutes, as the one of the clock is.
-/
namespace UsagePolicy

open Schema

theorem Schema.timestamp_toJson {t : Timestamp} (h : ∀ o ∈ t.offset, o.IsWholeMinutes) :
    timestamp t.toJson = .accepted t := by
  simp [timestamp, Timestamp.toJson, Timestamp.readText_interchangeText h]

namespace SavedPolicy

theorem ofFields_eq_accepted {fields : Fields} {p : SavedPolicy}
    (htime : ∀ o ∈ p.createdAt.offset, o.IsWholeMinutes)
    (h : ∀ name v, p.toFields.get? name = some v → fields.get? name = some v) :
    ofFields .values fields = .accepted p := by
  have hdataset := h "dataset" p.dataset.toJson rfl
  have hconfig := h "config" p.config.toJson rfl
  have hids := h "idsPolicy" (.str p.documents.idsPolicy) rfl
  have hodrl := h "odrlPolicy" (.str p.documents.odrlPolicy) rfl
  have hcreated := h "created_at" p.createdAt.toJson rfl
  simp [ofFields, hdataset, hconfig, hids, hodrl, hcreated, timestamp_toJson htime]

theorem check_toFields {p : SavedPolicy} (htime : ∀ o ∈ p.createdAt.offset, o.IsWholeMinutes) :
    check .values (.obj p.toFields) = .accepted p :=
  ofFields_eq_accepted htime fun _ _ h => h

theorem createdAt_of_ofFields {source : Source} {fields : Fields} {p : SavedPolicy}
    (h : ofFields source fields = .accepted p) :
    ∃ v, fields.get? "created_at" = some v ∧ timestamp v = .accepted p.createdAt := by
  simp only [ofFields, Checked.seq_eq_accepted, Checked.map_eq_accepted,
    required_eq_accepted] at h
  obtain ⟨_, _, ⟨_, _, ⟨_, _, ⟨_, _, ⟨_, -, rfl⟩, -, rfl⟩, -, rfl⟩, -, rfl⟩, hcreated, rfl⟩ := h
  exact hcreated

end SavedPolicy

theorem PolicyEntry.check_toJson {e : PolicyEntry}
    (htime : ∀ o ∈ e.policy.createdAt.offset, o.IsWholeMinutes) :
    check .values e.toJson = .accepted e := by
  have hpolicy : SavedPolicy.ofFields .values (("id", .str e.id) :: e.policy.toFields) =
      .accepted e.policy := by
    refine SavedPolicy.ofFields_eq_accepted htime fun name v h => ?_
    have hne : (name == "id") = false := by
      rw [beq_eq_false_iff_ne]
      rintro rfl
      cases h
    simpa [Fields.get?, List.lookup_cons, hne] using h
  simp [check, toJson, model, ofFields, hpolicy, Fields.get?]

namespace StoredPolicy

def policy? (stored : StoredPolicy) : Option SavedPolicy :=
  (SavedPolicy.check .values (.obj stored.document)).value?

def createdAt? (stored : StoredPolicy) : Option Timestamp :=
  (stored.document.get? "created_at").bind fun v => (timestamp v).value?

/-- The document is the form of a policy that was created by the clock. -/
def Keeps (stored : StoredPolicy) (p : SavedPolicy) : Prop :=
  stored.document = p.toFields ∧ ∃ time : UniversalTime, p.createdAt = time.toTimestamp

variable {stored : StoredPolicy} {p : SavedPolicy}

theorem Keeps.isWholeMinutes (h : stored.Keeps p) :
    ∀ o ∈ p.createdAt.offset, o.IsWholeMinutes := by
  obtain ⟨-, time, htime⟩ := h
  rw [htime]
  exact time.isWholeMinutes

theorem Keeps.check (h : stored.Keeps p) :
    SavedPolicy.check .values (.obj stored.document) = .accepted p := by
  rw [h.1]
  exact SavedPolicy.check_toFields h.isWholeMinutes

theorem Keeps.policy? (h : stored.Keeps p) : stored.policy? = some p :=
  Checked.value?_eq_some.mpr h.check

theorem Keeps.concerns (h : stored.Keeps p) (arrays : Bool) (datasetId : Int) :
    stored.concerns arrays datasetId = (p.dataset.id == datasetId) := by
  have hdataset : stored.document.get "dataset" = .obj p.dataset.toFields := by
    rw [h.1]
    rfl
  have hid : Fields.get p.dataset.toFields "id" = .int p.dataset.id := rfl
  simp [StoredPolicy.concerns, StoredPolicy.refersTo, hdataset, hid, Json.meets, Json.equalsInt]

end StoredPolicy

namespace Policies

variable {env : Environment} {s : Session}

/-- A stored policy is listed as the policy it was stored from, under its id. -/
theorem run_entry {stored : StoredPolicy} {p : SavedPolicy} (hkeeps : stored.Keeps p) :
    (entry stored).run env s = (.ok ⟨stored.id.text, p⟩, s) := by
  obtain ⟨id, document⟩ := stored
  obtain rfl : document = p.toFields := hkeeps.1
  have hchecked : PolicyEntry.check .values (.obj (("id", .str id.text) :: p.toFields)) =
      .accepted ⟨id.text, p⟩ :=
    PolicyEntry.check_toJson (e := ⟨id.text, p⟩) hkeeps.isWholeMinutes
  have hfields : (Program.forEach (fun name => (Datasets.fieldOf p.toFields name).bind
      fun v => pure (name, v)) entryFields).run env s = (.ok p.toFields, s) := rfl
  rw [entry, Program.run_seq, hfields]
  exact Program.run_ofChecked_eq_ok.mpr ⟨hchecked, rfl⟩

theorem run_fieldOf_eq_ok {record : Record} {name : String} {v : Json} {t : Session} :
    (Datasets.fieldOf record name).run env s = (.ok v, t) ↔ record.get? name = some v ∧ s = t := by
  unfold Datasets.fieldOf
  cases record.get? name <;> simp

theorem get?_of_taken {document fields : Fields} {names : List String}
    (h : List.Forall₂ (fun name field => field.1 = name ∧ document.get? name = some field.2)
      names fields) : ∀ name ∈ names, fields.get? name = document.get? name := by
  induction h with
  | nil => simp
  | @cons _ field names fields hfield _ ih =>
    obtain ⟨first, v⟩ := field
    obtain ⟨rfl, hfirst⟩ := hfield
    intro name hname
    by_cases hne : name = first
    · rw [hne, hfirst]
      simp [Fields.get?]
    · have hbeq : (name == first) = false := by simpa using hne
      have hrest := ih name ((List.mem_cons.mp hname).resolve_left hne)
      simpa [Fields.get?, List.lookup_cons, hbeq] using hrest

theorem run_entry_eq_ok {stored : StoredPolicy} {e : PolicyEntry} {t : Session}
    (h : (entry stored).run env s = (.ok e, t)) :
    (e.id, some e.policy.createdAt) = (stored.id.text, stored.createdAt?) := by
  obtain ⟨fields, u, hfields, h⟩ := Program.run_seq_eq_ok.mp h
  obtain ⟨hchecked, -⟩ := Program.run_ofChecked_eq_ok.mp h
  have htaken : List.Forall₂ (fun name field => field.1 = name ∧
      stored.document.get? name = some field.2) entryFields fields := by
    refine (Program.run_forEach_eq_ok hfields).imp ?_
    rintro name field ⟨u, w, hrun⟩
    obtain ⟨v, x, hfield, hpure⟩ := Program.run_seq_eq_ok.mp hrun
    cases hpure
    exact ⟨rfl, (run_fieldOf_eq_ok.mp hfield).1⟩
  have hcreated := get?_of_taken htaken "created_at" (by decide)
  obtain ⟨_, p, hid, hpolicy, rfl⟩ := Checked.seq_eq_accepted.mp hchecked
  obtain ⟨id, hrequired, rfl⟩ := Checked.map_eq_accepted.mp hid
  obtain ⟨w, hw, htext⟩ := required_eq_accepted.mp hrequired
  obtain ⟨v, hv, hcreatedAt⟩ := SavedPolicy.createdAt_of_ofFields hpolicy
  cases hw
  cases text_eq_accepted.mp htext
  have hget : Fields.get? fields "created_at" = some v := hv
  have htime := Checked.value?_eq_some.mpr hcreatedAt
  rw [StoredPolicy.createdAt?, ← hcreated, hget, Option.bind_some, htime]

end Policies
end UsagePolicy
