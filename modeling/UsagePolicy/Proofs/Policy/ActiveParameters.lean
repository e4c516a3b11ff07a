import Mathlib.Tactic.Tauto
import UsagePolicy.Proofs.Policy.AgreementTexts

/-!
# What the documents depend on

Of a policy only the restriction that it imposes shows in the documents, and all of it shows: two
documents are the same text exactly if they are about the same identifier and impose the same
restriction, and an agreement with a time of issue also shows the name of the dataset and that time.
A restriction without its parameters imposes nothing, and neither does one to the party that is
named anyway.
-/
namespace UsagePolicy

/-- What a policy imposes on the use of a dataset. -/
inductive Restriction where
  | consumer (name : String)
  | connector (name : String)
  | window (start finish : String)
  | count (n : Int)
  | none
  deriving DecidableEq, Repr

/-- What the policy imposes where the default party is named without a restriction. -/
def PolicyConfig.restriction (config : PolicyConfig) (default : String) : Restriction :=
  match config.type with
  | .restrictConsumer =>
    match config.consumers with
    | [] => .none
    | first :: _ => if first = default then .none else .consumer first
  | .restrictConnector =>
    match config.connectors with
    | [] => .none
    | first :: _ => .connector first
  | .timeLimit =>
    if config.startTime ≠ "" ∧ config.endTime ≠ "" then .window config.startTime config.endTime
    else .none
  | .usageCount =>
    match config.maxUsageCount with
    | .none => .none
    | some n => if n = 0 then .none else .count n

namespace Restriction

def party (default : String) : Restriction → String
  | consumer name => name
  | _ => default

def idsConstraints : Restriction → List Ids.Constraint
  | connector name => [⟨"idsc:CONNECTOR", "idsc:EQUALS", name, "xsd:string"⟩]
  | window start finish =>
    [⟨"idsc:POLICY_EVALUATION_TIME", "idsc:AFTER", start, "xsd:dateTimeStamp"⟩,
      ⟨"idsc:POLICY_EVALUATION_TIME", "idsc:BEFORE", finish, "xsd:dateTimeStamp"⟩]
  | count n => [⟨"idsc:COUNT", "idsc:LTEQ", String.ofList (Numeral.ofInt n), "xsd:double"⟩]
  | _ => []

def odrlConstraints : Restriction → List Odrl.Constraint
  | connector name => [⟨"connector", "eq", .text name⟩]
  | window start finish =>
    [⟨"dateTime", "gteq", .dateTime start⟩, ⟨"dateTime", "lteq", .dateTime finish⟩]
  | count n => [⟨"count", "lteq", .count n⟩]
  | _ => []

end Restriction

namespace PolicyConfig

variable (config : PolicyConfig) (default : String)

/-- A policy that names the default party does not restrict consumers to it. -/
theorem restriction_ne_default : config.restriction default ≠ .consumer default := by
  unfold restriction
  split
  · split
    · nofun
    · split_ifs with h
      · nofun
      · simpa using h
  · split <;> nofun
  · split_ifs <;> nofun
  · split
    · nofun
    · split_ifs <;> nofun

theorem constraints_restriction :
    (config.restriction default).idsConstraints = Ids.constraints config ∧
      (config.restriction default).odrlConstraints = Odrl.constraints config := by
  unfold restriction Ids.constraints Odrl.constraints
  cases config.type with
  | restrictConsumer =>
    cases config.consumers with
    | nil => exact ⟨rfl, rfl⟩
    | cons first _ =>
      simp only
      split_ifs <;> exact ⟨rfl, rfl⟩
  | restrictConnector => cases config.connectors <;> exact ⟨rfl, rfl⟩
  | timeLimit =>
    simp only
    split_ifs <;> exact ⟨rfl, rfl⟩
  | usageCount =>
    cases config.maxUsageCount with
    | none => exact ⟨rfl, rfl⟩
    | some n =>
      simp only
      split_ifs <;> exact ⟨rfl, rfl⟩

theorem party_restriction : (config.restriction default).party default =
    match config.type, config.consumers with
    | .restrictConsumer, first :: _ => first
    | _, _ => default := by
  unfold restriction
  cases config.type with
  | restrictConsumer =>
    cases config.consumers with
    | nil => rfl
    | cons first _ =>
      simp only
      split_ifs with h
      · exact h.symm
      · rfl
  | restrictConnector => cases config.connectors <;> rfl
  | timeLimit =>
    simp only
    split_ifs <;> rfl
  | usageCount =>
    cases config.maxUsageCount with
    | none => rfl
    | some n =>
      simp only
      split_ifs <;> rfl

theorem consumer_eq_party :
    Ids.consumer config = (config.restriction Ids.defaultConsumer).party Ids.defaultConsumer :=
  (config.party_restriction Ids.defaultConsumer).symm

theorem assignee_eq_party :
    Odrl.assignee config = (config.restriction Odrl.defaultAssignee).party Odrl.defaultAssignee :=
  (config.party_restriction Odrl.defaultAssignee).symm

end PolicyConfig

namespace Restriction

variable {default : String} {r r' : Restriction}

theorem eq_of_idsConstraints (hr : r ≠ consumer default) (hr' : r' ≠ consumer default)
    (hparty : r.party default = r'.party default)
    (h : r.idsConstraints = r'.idsConstraints) : r = r' := by
  cases r <;> cases r' <;>
    simp_all [party, idsConstraints, String.ofList_inj, Numeral.ofInt_inj]

theorem eq_of_odrlConstraints (hr : r ≠ consumer default) (hr' : r' ≠ consumer default)
    (hparty : r.party default = r'.party default)
    (h : r.odrlConstraints = r'.odrlConstraints) : r = r' := by
  cases r <;> cases r' <;> simp_all [party, odrlConstraints]

end Restriction

namespace PolicyConfig

variable {c c' : PolicyConfig}

theorem restriction_eq_iff_ids :
    c.restriction Ids.defaultConsumer = c'.restriction Ids.defaultConsumer ↔
      Ids.consumer c = Ids.consumer c' ∧ Ids.constraints c = Ids.constraints c' := by
  rw [consumer_eq_party, consumer_eq_party, ← (c.constraints_restriction Ids.defaultConsumer).1,
    ← (c'.constraints_restriction Ids.defaultConsumer).1]
  constructor
  · intro h
    rw [h]
    exact ⟨rfl, rfl⟩
  · rintro ⟨hparty, h⟩
    exact Restriction.eq_of_idsConstraints (restriction_ne_default c _)
      (restriction_ne_default c' _) hparty h

theorem restriction_eq_iff_odrl :
    c.restriction Odrl.defaultAssignee = c'.restriction Odrl.defaultAssignee ↔
      Odrl.assignee c = Odrl.assignee c' ∧ Odrl.constraints c = Odrl.constraints c' := by
  rw [assignee_eq_party, assignee_eq_party, ← (c.constraints_restriction Odrl.defaultAssignee).2,
    ← (c'.constraints_restriction Odrl.defaultAssignee).2]
  constructor
  · intro h
    rw [h]
    exact ⟨rfl, rfl⟩
  · rintro ⟨hparty, h⟩
    exact Restriction.eq_of_odrlConstraints (restriction_ne_default c _)
      (restriction_ne_default c' _) hparty h

end PolicyConfig

theorem Ids.Constraint.toJson_injective : Function.Injective Ids.Constraint.toJson := by
  rintro ⟨operand, operator, value, datatype⟩ ⟨operand', operator', value', datatype'⟩ h
  simpa [toJson, reference] using h

theorem Odrl.RightOperand.toJson_injective : Function.Injective Odrl.RightOperand.toJson := by
  intro operand operand' h
  cases operand <;> cases operand' <;> simp_all [toJson]

theorem Odrl.Constraint.toJson_injective : Function.Injective Odrl.Constraint.toJson := by
  rintro ⟨left, operator, right⟩ ⟨left', operator', right'⟩ h
  simpa [toJson, RightOperand.toJson_injective.eq_iff] using h

section Agreements

variable {d d' : Dataset} {c c' : PolicyConfig}

theorem Ids.permission_eq_iff : Ids.permission d c = Ids.permission d' c' ↔
    d.uuid = d'.uuid ∧ Ids.constraints c = Ids.constraints c' := by
  have hmap := List.map_injective_iff.mpr Constraint.toJson_injective
  unfold permission
  generalize Ids.constraints c = list
  generalize Ids.constraints c' = list'
  cases list <;> cases list' <;> simp [reference, Constraint.toJson_injective.eq_iff, hmap.eq_iff]

theorem Ids.compile_eq_iff : Ids.compile d c = Ids.compile d' c' ↔
    d.uuid = d'.uuid ∧ Ids.consumer c = Ids.consumer c' ∧
      Ids.constraints c = Ids.constraints c' := by
  simp only [compile, List.cons.injEq, Prod.mk.injEq, Json.str.injEq, String.append_right_inj,
    true_and, and_true, Json.arr.injEq, Json.obj.injEq, permission_eq_iff]
  tauto

theorem Odrl.permission_eq_iff : Odrl.permission d c = Odrl.permission d' c' ↔
    d.uuid = d'.uuid ∧ Odrl.assignee c = Odrl.assignee c' ∧
      Odrl.constraints c = Odrl.constraints c' := by
  have hmap := List.map_injective_iff.mpr Constraint.toJson_injective
  unfold permission
  generalize Odrl.constraints c = list
  generalize Odrl.constraints c' = list'
  cases list <;> cases list' <;> simp [Constraint.toJson_injective.eq_iff, hmap.eq_iff]

theorem Odrl.agreement_eq_iff {text text' : String} :
    Odrl.agreement d c text = Odrl.agreement d' c' text' ↔
      d.uuid = d'.uuid ∧ d.name = d'.name ∧ text = text' ∧ Odrl.assignee c = Odrl.assignee c' ∧
        Odrl.constraints c = Odrl.constraints c' := by
  simp only [agreement, List.cons.injEq, Prod.mk.injEq, Json.str.injEq, String.append_right_inj,
    true_and, and_true, Json.arr.injEq, Json.obj.injEq, permission_eq_iff]
  tauto

end Agreements

/-- A contract agreement shows the identifier of the dataset and the restriction, and nothing
else. An agreement with a time of issue also shows the dataset's name and that time. -/
theorem texts_eq_iff {c c' : PolicyConfig} (hcount : c.CountIsShort) (hcount' : c'.CountIsShort)
    (d d' : Dataset) :
    ((Json.obj (Ids.compile d c)).indentedText = (Json.obj (Ids.compile d' c')).indentedText ↔
      d.uuid = d'.uuid ∧
        c.restriction Ids.defaultConsumer = c'.restriction Ids.defaultConsumer) ∧
    ∀ t t' text text', Timestamp.issuedText t = .ok text → Timestamp.issuedText t' = .ok text' →
      ∃ documents documents', Documents.generate d c t = .ok documents ∧
        Documents.generate d' c' t' = .ok documents' ∧
        documents.idsPolicy = (Json.obj (Ids.compile d c)).indentedText ∧
        documents'.idsPolicy = (Json.obj (Ids.compile d' c')).indentedText ∧
        (documents.odrlPolicy = documents'.odrlPolicy ↔
          d.uuid = d'.uuid ∧ d.name = d'.name ∧
            c.restriction Odrl.defaultAssignee = c'.restriction Odrl.defaultAssignee ∧
            text = text') := by
  constructor
  · rw [Json.indentedText_inj (Ids.readable_compile d c) (Ids.readable_compile d' c'),
      Json.obj.injEq, Ids.compile_eq_iff, PolicyConfig.restriction_eq_iff_ids]
  · intro t t' text text' htext htext'
    have hcompile : Odrl.compile d c t = .ok (Odrl.agreement d c text) := by
      rw [Odrl.compile, htext]
      rfl
    have hcompile' : Odrl.compile d' c' t' = .ok (Odrl.agreement d' c' text') := by
      rw [Odrl.compile, htext']
      rfl
    refine ⟨_, _, Documents.generate_eq_ok.mpr ⟨hcount.countFault?, _, hcompile, rfl⟩,
      Documents.generate_eq_ok.mpr ⟨hcount'.countFault?, _, hcompile', rfl⟩, rfl, rfl, ?_⟩
    rw [Json.indentedText_inj (Odrl.readable_agreement d hcount.countFault? text)
      (Odrl.readable_agreement d' hcount'.countFault? text'), Json.obj.injEq, Odrl.agreement_eq_iff,
      PolicyConfig.restriction_eq_iff_odrl]
    tauto

/-- Parameters that were left behind, the dataset's id and its description do not show, and neither
does the offset of the time of issue. The count shows. -/
theorem texts_eq_iff_left_behind :
    let d : Dataset := ⟨1, "a", "", "u"⟩
    let d' : Dataset := ⟨2, "a", "b", "u"⟩
    let c : PolicyConfig := ⟨.usageCount, ["x"], [], "start", "", some 3⟩
    let c' : PolicyConfig := ⟨.usageCount, [], ["y", "z"], "", "end", some 3⟩
    let other : PolicyConfig := ⟨.usageCount, [], ["y", "z"], "", "end", some 4⟩
    let t : Timestamp := ⟨⟨2024, 3, 1, by decide, by decide⟩, .midnight, none⟩
    let t' : Timestamp := ⟨⟨2024, 3, 1, by decide, by decide⟩,
      { TimeOfDay.midnight with hour := ⟨1, by decide⟩ }, some ⟨3600, by decide⟩⟩
    c.CountIsShort ∧ c'.CountIsShort ∧ other.CountIsShort ∧
      (Json.obj (Ids.compile d c)).indentedText = (Json.obj (Ids.compile d' c')).indentedText ∧
      (Json.obj (Ids.compile d c)).indentedText ≠ (Json.obj (Ids.compile d' other)).indentedText ∧
      ∃ documents documents', Documents.generate d c t = .ok documents ∧
        Documents.generate d' c' t' = .ok documents' ∧
        documents.odrlPolicy = documents'.odrlPolicy := by
  intro d d' c c' other t t'
  have hshort : (Numeral.ofNat 3).length ≤ Numeral.digitLimit ∧
      (Numeral.ofNat 4).length ≤ Numeral.digitLimit := by decide +kernel
  have hcount : c.CountIsShort := by
    rintro _ ⟨⟩
    exact hshort.1
  have hcount' : c'.CountIsShort := by
    rintro _ ⟨⟩
    exact hshort.1
  have hother : other.CountIsShort := by
    rintro _ ⟨⟩
    exact hshort.2
  have htext : t.issuedText = .ok "2024-03-01T00:00:00.000Z" := by decide +kernel
  have htext' : t'.issuedText = .ok "2024-03-01T00:00:00.000Z" := by decide +kernel
  obtain ⟨hids, hodrl⟩ := texts_eq_iff hcount hcount' d d'
  obtain ⟨documents, documents', hgenerate, hgenerate', -, -, hiff⟩ := hodrl t t' _ _ htext htext'
  refine ⟨hcount, hcount', hother, hids.mpr ⟨rfl, rfl⟩, ?_, documents, documents', hgenerate,
    hgenerate', hiff.mpr ⟨rfl, rfl, rfl, rfl⟩⟩
  intro h
  exact absurd ((texts_eq_iff hcount hother d d').1.mp h).2 (by decide)

end UsagePolicy
