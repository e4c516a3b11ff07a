import UsagePolicy.Policy.Documents
import UsagePolicy.Proofs.Json.RoundTrip

/-!
# Agreements as texts

Both agreements hold nothing but texts and a count, and are nested in a few levels. So all that can
keep them from being written is the count of the selected restriction, if it has more digits than a
text may have. Documents are generated exactly if it has not and the time of issue can be stated.
-/
namespace UsagePolicy

def PolicyConfig.CountIsShort (config : PolicyConfig) : Prop :=
  ∀ n ∈ config.maxUsageCount, (Numeral.ofNat n.natAbs).length ≤ Numeral.digitLimit

variable {c : PolicyConfig}

theorem Ids.countFault?_eq_none : countFault? c = none ↔
    c.type = .usageCount → ∀ n ∈ c.maxUsageCount,
      (Numeral.ofNat n.natAbs).length ≤ Numeral.digitLimit := by
  unfold countFault?
  split
  · next count htype hcount => simp [htype, hcount, Json.writeFault?]
  · next hnone =>
    simp only [true_iff]
    exact fun htype n hn => absurd hn (hnone n htype)

theorem PolicyConfig.CountIsShort.countFault? (h : c.CountIsShort) : Ids.countFault? c = none :=
  Ids.countFault?_eq_none.mpr fun _ => h

theorem Ids.readable_compile (d : Dataset) (c : PolicyConfig) :
    (Json.obj (Ids.compile d c)).Readable := by
  have hconstraint : ∀ constraint : Constraint, constraint.toJson.Readable := by
    intro constraint
    simp [Constraint.toJson, reference, Json.Readable, Json.ReadableFields, Json.ReadableItems]
  obtain ⟨hnames, hfields⟩ : (Json.obj (permission d c)).Readable := by
    unfold permission
    cases constraints c <;>
      simp [reference, Json.Readable, Json.ReadableFields, Json.ReadableItems, hconstraint,
        Json.readableItems_iff]
  simp [compile, hnames, hfields, Json.Readable, Json.ReadableFields, Json.ReadableItems]

theorem Odrl.count_of_mem_constraints {constraint : Constraint} {n : Int}
    (h : constraint ∈ constraints c) (hn : constraint.rightOperand = .count n) :
    c.type = .usageCount ∧ n ∈ c.maxUsageCount := by
  unfold constraints at h
  cases htype : c.type with
  | restrictConsumer => simp [htype] at h
  | restrictConnector =>
    cases hconnectors : c.connectors <;> simp [htype, hconnectors] at h
    simp [h] at hn
  | timeLimit =>
    by_cases hwindow : c.startTime ≠ "" ∧ c.endTime ≠ ""
    · simp only [htype, if_pos hwindow, List.mem_cons, List.not_mem_nil, or_false] at h
      rcases h with rfl | rfl <;> cases hn
    · simp [htype, if_neg hwindow] at h
  | usageCount =>
    cases hcount : c.maxUsageCount with
    | none => simp [htype, hcount] at h
    | some count =>
      by_cases hzero : count = 0
      · simp [htype, hcount, hzero] at h
      · simp only [htype, hcount, if_neg hzero, List.mem_singleton] at h
        rw [h] at hn
        exact ⟨rfl, congrArg some (RightOperand.count.inj hn)⟩

theorem Odrl.readable_constraint (hcount : Ids.countFault? c = none)
    {constraint : Constraint} (h : constraint ∈ constraints c) : constraint.toJson.Readable := by
  have hoperand : constraint.rightOperand.toJson.Readable := by
    cases hright : constraint.rightOperand with
    | text value => trivial
    | dateTime value => simp [RightOperand.toJson, Json.Readable, Json.ReadableFields]
    | count n =>
      obtain ⟨htype, hn⟩ := count_of_mem_constraints h hright
      exact Ids.countFault?_eq_none.mp hcount htype n hn
  simp [Constraint.toJson, hoperand, Json.Readable, Json.ReadableFields]

theorem Odrl.readable_agreement (d : Dataset) (hcount : Ids.countFault? c = none)
    (text : String) : (Json.obj (Odrl.agreement d c text)).Readable := by
  obtain ⟨hnames, hfields⟩ : (Json.obj (permission d c)).Readable := by
    have hconstraints : Json.ReadableItems ((constraints c).map Constraint.toJson) := by
      rw [Json.readableItems_iff, List.forall_mem_map]
      exact fun constraint => readable_constraint hcount
    unfold permission
    revert hconstraints
    cases constraints c <;>
      simp +contextual [Json.Readable, Json.ReadableFields, Json.ReadableItems]
  simp [agreement, hnames, hfields, Json.Readable, Json.ReadableFields, Json.ReadableItems]

theorem Ids.nesting_compile (d : Dataset) (c : PolicyConfig) :
    (Json.obj (Ids.compile d c)).nesting ≤ 7 := by
  have hconstraints : Json.nestingItems ((constraints c).map Constraint.toJson) ≤ 3 := by
    rw [Json.nestingItems_le_iff, List.forall_mem_map]
    intro constraint _
    simp [Constraint.toJson, reference, Json.nesting, Json.nestingFields, Json.nestingItems]
  have hpermission : Json.nestingFields (permission d c) ≤ 4 := by
    unfold permission
    revert hconstraints
    cases constraints c <;>
      simp only [reference, List.map_cons, List.append_nil, List.cons_append, List.nil_append,
        Json.nesting, Json.nestingFields, Json.nestingItems] <;> omega
  simp only [compile, Json.nesting, Json.nestingFields, Json.nestingItems]
  omega

theorem Odrl.nesting_agreement (d : Dataset) (c : PolicyConfig) (text : String) :
    (Json.obj (Odrl.agreement d c text)).nesting ≤ 7 := by
  have hconstraints : Json.nestingItems ((constraints c).map Constraint.toJson) ≤ 3 := by
    rw [Json.nestingItems_le_iff, List.forall_mem_map]
    intro constraint _
    cases hright : constraint.rightOperand <;>
      simp [Constraint.toJson, RightOperand.toJson, hright, Json.nesting, Json.nestingFields]
  have hpermission : Json.nestingFields (permission d c) ≤ 4 := by
    unfold permission
    revert hconstraints
    cases constraints c <;>
      simp only [List.map_cons, List.append_nil, List.cons_append, List.nil_append, Json.nesting,
        Json.nestingFields, Json.nestingItems] <;> omega
  simp only [agreement, Json.nesting, Json.nestingFields, Json.nestingItems]
  omega

variable {d : Dataset} {issued : Timestamp} {documents : Documents}

theorem Ids.text_eq (d : Dataset) (c : PolicyConfig) : text d c =
    match countFault? c with
    | some fault => .error fault
    | none => .ok (Json.obj (compile d c)).indentedText := by
  have htext := Json.indented_of_readable (readable_compile d c)
    (Nat.le_trans (nesting_compile d c) (by decide))
  cases hfault : countFault? c <;> simp only [text, hfault, htext]

/-- Documents are generated exactly if the count of the selected restriction and the time of issue
can be written, and hold both agreements. -/
theorem Documents.generate_eq_ok : generate d c issued = .ok documents ↔
    Ids.countFault? c = none ∧ ∃ odrl, Odrl.compile d c issued = .ok odrl ∧
      documents = ⟨(Json.obj (Ids.compile d c)).indentedText, (Json.obj odrl).indentedText⟩ := by
  rw [generate, Ids.text_eq]
  cases hcount : Ids.countFault? c with
  | some fault => simp [Except.mapError, bind, Except.bind]
  | none =>
    rw [Odrl.text]
    unfold Odrl.compile
    cases issued.issuedText with
    | error _ => simp [Except.map, Except.mapError, bind, Except.bind]
    | ok text =>
      have hodrl := Json.indented_of_readable (Odrl.readable_agreement d hcount text)
        (Nat.le_trans (Odrl.nesting_agreement d c text) (by decide))
      simp [Except.map, hodrl, Except.mapError, bind, Except.bind, pure, Except.pure, eq_comm]

end UsagePolicy
