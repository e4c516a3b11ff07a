import UsagePolicy.Proofs.Policies.Submissions
import UsagePolicy.Proofs.Policy.Vocabulary

/-!
# A limit on uses is kept

Both agreements leave a limit on uses out if the policy has no count, or the count zero. A form is
never accepted with such a count, whatever value it submits as its count, and what it is accepted
with reaches the documents on every way that they can be asked for, and the stored ones as well.
-/
namespace UsagePolicy

/-- The agreement has one permission, with one constraint; they stand under these names. -/
def Json.SoleConstraint (agreement : Json) (permissions constraints : String)
    (constraint : Json) : Prop :=
  ∃ permission, agreement.follow [.field permissions] = some (.arr [permission]) ∧
    permission.follow [.field constraints] = some (.arr [constraint])

/-- The documents have one constraint each, which says that the data may be used `n` times at
most. -/
def Documents.AllowUses (documents : Documents) (n : Int) : Prop :=
  (∃ ids : Json, documents.idsPolicy = ids.indentedText ∧
    ids.SoleConstraint "ids:permission" "ids:constraint"
      (Ids.Constraint.toJson ⟨"idsc:COUNT", "idsc:LTEQ", toString n, "xsd:double"⟩)) ∧
  ∃ odrl : Json, documents.odrlPolicy = odrl.indentedText ∧
    odrl.SoleConstraint "permission" "constraint"
      (Odrl.Constraint.toJson ⟨"count", "lteq", .count n⟩)

section Agreements

variable {config : PolicyConfig} {n : Int}

theorem Ids.constraints_of_count (htype : config.type = .usageCount)
    (hcount : config.maxUsageCount = some n) (hn : n ≠ 0) :
    Ids.constraints config = [⟨"idsc:COUNT", "idsc:LTEQ", toString n, "xsd:double"⟩] := by
  simp only [constraints, htype, hcount, if_neg hn, Numeral.ofList_ofInt]

theorem Odrl.constraints_of_count (htype : config.type = .usageCount)
    (hcount : config.maxUsageCount = some n) (hn : n ≠ 0) :
    Odrl.constraints config = [⟨"count", "lteq", .count n⟩] := by
  simp only [constraints, htype, hcount, if_neg hn]

theorem Ids.soleConstraint_compile (d : Dataset) {constraint : Constraint}
    (h : constraints config = [constraint]) :
    (Json.obj (compile d config)).SoleConstraint "ids:permission" "ids:constraint"
      constraint.toJson := by
  refine ⟨.obj (permission d config), rfl, ?_⟩
  rw [permission, h]
  rfl

theorem Odrl.soleConstraint_agreement (d : Dataset) (issued : String) {constraint : Constraint}
    (h : constraints config = [constraint]) :
    (Json.obj (agreement d config issued)).SoleConstraint "permission" "constraint"
      constraint.toJson := by
  refine ⟨.obj (permission d config), rfl, ?_⟩
  rw [permission, h]
  rfl

theorem Documents.allowUses_of_generate (htype : config.type = .usageCount)
    (hcount : config.maxUsageCount = some n) (hn : n ≠ 0) {d : Dataset} {t : Timestamp}
    {documents : Documents} (h : generate d config t = .ok documents) : documents.AllowUses n := by
  obtain ⟨-, odrl, hodrl, rfl⟩ := generate_eq_ok.mp h
  refine ⟨⟨_, rfl, Ids.soleConstraint_compile d (Ids.constraints_of_count htype hcount hn)⟩,
    _, rfl, ?_⟩
  rw [Odrl.compile] at hodrl
  cases htext : t.issuedText with
  | error _ =>
    rw [htext] at hodrl
    cases hodrl
  | ok text =>
    rw [htext] at hodrl
    cases hodrl
    exact Odrl.soleConstraint_agreement d text (Odrl.constraints_of_count htype hcount hn)

end Agreements

/-- If a form that selects a limit on uses is accepted, there is a positive count that it submits,
and all documents that come of it, shown or stored, allow as many uses. -/
theorem limit_kept {source : Schema.Source} {fields : Fields} {config : PolicyConfig}
    (htype : fields.get? "type" = some (.str "usage_count"))
    (hcheck : PolicyConfig.checkForm source (.obj fields) = .accepted config) :
    ∃ n : Int, 1 ≤ n ∧ UsageCount.submitted fields = .ok n ∧
      (∀ d t documents, Documents.generate d config t = .ok documents → documents.AllowUses n) ∧
      ∀ (env : Environment) (s : Session) (event : Event), event.policy? = some (.obj fields) →
        ((s.step env event).1.Fails ∧ (s.step env event).2.policies = s.policies) ∨
        ∃ documents : Documents, documents.AllowUses n ∧ s.Delivers env event documents := by
  obtain ⟨htag, n, hn, hcount, hsubmitted⟩ := PolicyConfig.parts_of_checkForm hcheck
  have husage : config.type = .usageCount := by
    have haccepted := (Schema.policyType_tag .usageCount).symm.trans (htag _ htype)
    exact (Checked.accepted.inj haccepted).symm
  have hallow : ∀ d t documents, Documents.generate d config t = .ok documents →
      documents.AllowUses n :=
    fun d t documents => Documents.allowUses_of_generate husage hcount (by omega)
  refine ⟨n, hn, hsubmitted, hallow, fun env s event hpolicy => ?_⟩
  rcases Session.step_submission hpolicy hcheck env s with
    hfails | ⟨d, t, documents, hdocuments, hdelivers⟩
  · exact Or.inl hfails
  · exact Or.inr ⟨documents, hallow d t documents hdocuments, hdelivers⟩

/-- A count in digits of another script is stored with a save, as the number that it denotes. -/
theorem limit_kept_of_script :
    let fields : Fields := [("type", .str "usage_count"), ("maxUsageCount", .str " +٠٧ times")]
    let save : Event :=
      .call (.savePolicy (.obj [("dataset_id", .int 1), ("config", .obj fields)]))
    (fields.get? "type" = some (.str "usage_count") ∧
      PolicyConfig.checkForm .values (.obj fields) =
        .accepted ⟨.usageCount, [], [], "", "", some 7⟩ ∧
      save.policy? = some (.obj fields)) ∧
    ∃ (documents : Documents) (stored : StoredPolicy), documents.AllowUses 7 ∧
      stored.Holds documents ∧
      ((Sample.session (Sample.noon 0 0)).step Sample.environment save).2.policies = [stored] := by
  intro fields save
  have hcheck : PolicyConfig.checkForm .values (.obj fields) =
      .accepted ⟨.usageCount, [], [], "", "", some 7⟩ := by
    have hvalue : (PolicyConfig.checkForm .values (.obj fields)).value? =
        some ⟨.usageCount, [], [], "", "", some 7⟩ := by decide +kernel
    exact Checked.value?_eq_some.mp hvalue
  have hsaved :
      ((Sample.session (Sample.noon 0 0)).step Sample.environment save).2.policies ≠ [] := by
    decide +kernel
  obtain ⟨n, -, hsubmitted, -, hevents⟩ := limit_kept rfl hcheck
  obtain rfl : n = 7 := by
    have hseven : (UsageCount.submitted fields).toOption = some 7 := by decide +kernel
    rw [hsubmitted] at hseven
    exact Option.some_inj.mp hseven
  refine ⟨⟨rfl, hcheck, rfl⟩, ?_⟩
  rcases hevents Sample.environment (Sample.session (Sample.noon 0 0)) save rfl with
    ⟨-, hsame⟩ | ⟨documents, hallow, ⟨-, hsame⟩ | ⟨stored, hholds, -, hpolicies⟩⟩
  · exact absurd hsame hsaved
  · exact absurd hsame hsaved
  · exact ⟨documents, stored, hallow, hholds, hpolicies⟩

end UsagePolicy
