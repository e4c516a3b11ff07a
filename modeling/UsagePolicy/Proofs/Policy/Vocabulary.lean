import Mathlib.Data.List.Forall2
import UsagePolicy.Policy.Ids
import UsagePolicy.Policy.Odrl
import UsagePolicy.Schema.Issue

/-!
# One restriction in two vocabularies

Both agreements on a dataset encode the restriction that its policy selects. Either both permissions
have constraints or neither has, and the constraints correspond one by one: each pair of them stands
in one vocabulary, with right operands that denote the same value. A restriction to a consumer names
the same party in both. What the other restrictions left behind in the policy shows in neither.
-/
namespace UsagePolicy

def Json.follow : Json → List Locus → Option Json
  | v, [] => some v
  | .obj fields, .field name :: rest => (Fields.get? fields name).bind fun v => v.follow rest
  | .arr items, .index i :: rest => items[i]?.bind fun v => v.follow rest
  | _, _ :: _ => none

theorem Numeral.ofList_ofInt (n : Int) : String.ofList (Numeral.ofInt n) = toString n := by
  cases n with
  | ofNat n => rfl
  | negSucc n =>
    change String.ofList ('-' :: Numeral.ofNat (n + 1)) = _
    rw [String.ofList_cons]
    rfl

/-- How a right operand is written: as a text, as a typed point in time, or as a number. -/
inductive OperandForm where
  | text
  | dateTime
  | count

/-- In this form the operand denotes the value that the text stands for. -/
def OperandForm.Denotes (operand : Json) (value : String) : OperandForm → Prop
  | text => operand = .str value
  | dateTime => operand = .obj [("@value", .str value), ("@type", .str "xsd:dateTime")]
  | count => ∃ n : Int, operand = .int n ∧ value = toString n

/-- The words for one kind of constraint in either agreement. -/
structure Wording where
  idsOperand : String
  idsOperator : String
  idsDatatype : String
  odrlOperand : String
  odrlOperator : String
  odrlForm : OperandForm

namespace Wording

def connector : Wording :=
  ⟨"idsc:CONNECTOR", "idsc:EQUALS", "xsd:string", "connector", "eq", .text⟩

def notBefore : Wording :=
  ⟨"idsc:POLICY_EVALUATION_TIME", "idsc:AFTER", "xsd:dateTimeStamp", "dateTime", "gteq", .dateTime⟩

def notAfter : Wording :=
  ⟨"idsc:POLICY_EVALUATION_TIME", "idsc:BEFORE", "xsd:dateTimeStamp", "dateTime", "lteq", .dateTime⟩

def count : Wording :=
  ⟨"idsc:COUNT", "idsc:LTEQ", "xsd:double", "count", "lteq", .count⟩

def vocabulary : List Wording :=
  [connector, notBefore, notAfter, count]

/-- Both constraints are worded so, and their right operands denote the same value. -/
structure Matches (w : Wording) (ids odrl : Json) : Prop where
  idsOperand : ids.follow [.field "ids:leftOperand", .field "@id"] = some (.str w.idsOperand)
  idsOperator : ids.follow [.field "ids:operator", .field "@id"] = some (.str w.idsOperator)
  odrlOperand : odrl.follow [.field "leftOperand"] = some (.str w.odrlOperand)
  odrlOperator : odrl.follow [.field "operator"] = some (.str w.odrlOperator)
  value : ∃ typed value operand,
    ids.follow [.field "ids:rightOperand"] = some (.arr [typed]) ∧
    typed.follow [.field "@type"] = some (.str w.idsDatatype) ∧
    typed.follow [.field "@value"] = some (.str value) ∧
    odrl.follow [.field "rightOperand"] = some operand ∧ w.odrlForm.Denotes operand value

theorem matches_toJson (w : Wording) (value : String) (operand : Odrl.RightOperand)
    (h : w.odrlForm.Denotes operand.toJson value) :
    w.Matches (Ids.Constraint.toJson ⟨w.idsOperand, w.idsOperator, value, w.idsDatatype⟩)
      (Odrl.Constraint.toJson ⟨w.odrlOperand, w.odrlOperator, operand⟩) :=
  ⟨rfl, rfl, rfl, rfl, _, value, operand.toJson, rfl, rfl, rfl, rfl, h⟩

end Wording

def Alike (ids odrl : Json) : Prop :=
  ∃ w ∈ Wording.vocabulary, w.Matches ids odrl

theorem forall₂_alike (config : PolicyConfig) :
    List.Forall₂ Alike ((Ids.constraints config).map Ids.Constraint.toJson)
      ((Odrl.constraints config).map Odrl.Constraint.toJson) := by
  obtain ⟨type, consumers, connectors, startTime, endTime, maxUsageCount⟩ := config
  cases type with
  | restrictConsumer => exact List.Forall₂.nil
  | restrictConnector =>
    cases connectors with
    | nil => exact List.Forall₂.nil
    | cons connector _ =>
      have halike : Alike _ _ := ⟨.connector, by simp [Wording.vocabulary],
        Wording.connector.matches_toJson connector (.text connector) rfl⟩
      exact List.Forall₂.cons halike List.Forall₂.nil
  | timeLimit =>
    by_cases hwindow : startTime ≠ "" ∧ endTime ≠ ""
    · have hstart : Alike _ _ := ⟨.notBefore, by simp [Wording.vocabulary],
        Wording.notBefore.matches_toJson startTime (.dateTime startTime) rfl⟩
      have hend : Alike _ _ := ⟨.notAfter, by simp [Wording.vocabulary],
        Wording.notAfter.matches_toJson endTime (.dateTime endTime) rfl⟩
      simp only [Ids.constraints, Odrl.constraints, if_pos hwindow]
      exact List.Forall₂.cons hstart (List.Forall₂.cons hend List.Forall₂.nil)
    · simp only [Ids.constraints, Odrl.constraints, if_neg hwindow]
      exact List.Forall₂.nil
  | usageCount =>
    cases maxUsageCount with
    | none => exact List.Forall₂.nil
    | some count =>
      by_cases hzero : count = 0
      · simp only [Ids.constraints, Odrl.constraints, if_pos hzero]
        exact List.Forall₂.nil
      · have halike : Alike _ _ := ⟨.count, by simp [Wording.vocabulary],
          Wording.count.matches_toJson _ (.count count) ⟨count, rfl, Numeral.ofList_ofInt count⟩⟩
        simp only [Ids.constraints, Odrl.constraints, if_neg hzero]
        exact List.Forall₂.cons halike List.Forall₂.nil

/-- Both permissions have constraints, worded alike and in the same order, or neither has any. -/
def SameConstraints (ids odrl : Fields) : Prop :=
  (ids.get? "ids:constraint" = none ∧ odrl.get? "constraint" = none) ∨
    ∃ first rest others, ids.get? "ids:constraint" = some (.arr (first :: rest)) ∧
      odrl.get? "constraint" = some (.arr others) ∧ List.Forall₂ Alike (first :: rest) others

theorem sameConstraints_permission (d : Dataset) (config : PolicyConfig) :
    SameConstraints (Ids.permission d config) (Odrl.permission d config) := by
  have halike := forall₂_alike config
  unfold SameConstraints Ids.permission Odrl.permission
  generalize Ids.constraints config = ids at halike ⊢
  generalize Odrl.constraints config = odrl at halike ⊢
  cases ids with
  | nil =>
    cases odrl with
    | nil => exact Or.inl ⟨rfl, rfl⟩
    | cons _ _ => cases halike
  | cons first rest =>
    cases odrl with
    | nil => cases halike
    | cons _ _ => exact Or.inr ⟨_, _, _, rfl, rfl, halike⟩

/-- Both agreements name the first consumer of a restriction to consumers that has any, and each its
own default party otherwise. -/
def PolicyConfig.Names (config : PolicyConfig) (consumer assignee : String) : Prop :=
  (∃ rest, config.type = .restrictConsumer ∧ config.consumers = consumer :: rest ∧
    assignee = consumer) ∨
  (config.type ≠ .restrictConsumer ∨ config.consumers = []) ∧
    consumer = Ids.defaultConsumer ∧ assignee = Odrl.defaultAssignee

theorem names_parties (config : PolicyConfig) :
    config.Names (Ids.consumer config) (Odrl.assignee config) := by
  obtain ⟨type, consumers, connectors, startTime, endTime, maxUsageCount⟩ := config
  cases type with
  | restrictConsumer =>
    cases consumers with
    | nil => exact Or.inr ⟨Or.inr rfl, rfl, rfl⟩
    | cons first rest => exact Or.inl ⟨rest, rfl, rfl, rfl⟩
  | restrictConnector | timeLimit | usageCount => exact Or.inr ⟨Or.inl nofun, rfl, rfl⟩

/-- Both agreements on a dataset have one permission, with the same constraints, and name the same
party. -/
theorem agreements_match {d : Dataset} {config : PolicyConfig} {issued : Timestamp} {odrl : Fields}
    (h : Odrl.compile d config issued = .ok odrl) :
    ∃ p q consumer assignee,
      (Json.obj (Ids.compile d config)).follow [.field "ids:permission"] =
        some (.arr [.obj p]) ∧
      (Json.obj odrl).follow [.field "permission"] = some (.arr [.obj q]) ∧
      SameConstraints p q ∧
      (Json.obj (Ids.compile d config)).follow [.field "ids:consumer"] = some (.str consumer) ∧
      (Json.obj q).follow [.field "assignee"] = some (.str assignee) ∧
      config.Names consumer assignee := by
  unfold Odrl.compile at h
  cases htext : issued.issuedText with
  | error _ =>
    rw [htext] at h
    cases h
  | ok text =>
    rw [htext] at h
    cases h
    exact ⟨_, _, _, _, rfl, rfl, sameConstraints_permission d config, rfl, rfl,
      names_parties config⟩

/-- A negative count is encoded in both, and what is left of other restrictions in neither. -/
theorem agreements_match_negative_count :
    let d : Dataset := ⟨1, "a", "", "u"⟩
    let config : PolicyConfig := ⟨.usageCount, ["c"], ["k"], "start", "", some (-3)⟩
    let issued : Timestamp := ⟨⟨2024, 3, 1, by decide, by decide⟩, .midnight, none⟩
    let operand : List Locus := [.field "ids:permission", .index 0, .field "ids:constraint",
      .index 0, .field "ids:rightOperand", .index 0, .field "@value"]
    let other : List Locus := [.field "permission", .index 0, .field "constraint", .index 0,
      .field "rightOperand"]
    ∃ odrl p q, Odrl.compile d config issued = .ok odrl ∧
      (Json.obj (Ids.compile d config)).follow operand = some (.str "-3") ∧
      (Json.obj odrl).follow other = some (.int (-3)) ∧
      (Json.obj (Ids.compile d config)).follow [.field "ids:permission"] =
        some (.arr [.obj p]) ∧
      (Json.obj odrl).follow [.field "permission"] = some (.arr [.obj q]) ∧
      SameConstraints p q ∧ config.Names Ids.defaultConsumer Odrl.defaultAssignee := by
  intro d config issued operand other
  have htext : issued.issuedText = .ok "2024-03-01T00:00:00.000Z" := by decide +kernel
  have h : Odrl.compile d config issued =
      .ok (Odrl.agreement d config "2024-03-01T00:00:00.000Z") := by
    rw [Odrl.compile, htext]
    rfl
  obtain ⟨p, q, consumer, assignee, hp, hq, hsame, hconsumer, hassignee, hnames⟩ :=
    agreements_match h
  cases hq
  cases hconsumer
  cases hassignee
  exact ⟨_, p, _, h, rfl, rfl, hp, rfl, hsame, hnames⟩

end UsagePolicy
