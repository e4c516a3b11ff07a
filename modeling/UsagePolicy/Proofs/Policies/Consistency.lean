import UsagePolicy.Proofs.Policies.History
import UsagePolicy.Proofs.Policy.AgreementTexts

/-!
# Stored policies and the catalog

A stored policy holds the two documents that its dataset, its configuration and its time of
creation compile to, and its dataset is still the one that the catalog describes: the identifier in
both documents is the one in the catalog. Every event keeps this up, those that fail midway
included, since an identifier in the catalog is never replaced.
-/
namespace UsagePolicy

variable {env : Environment} {s t : Session} {event : Event}

theorem Http.Endpoint.check_of_task? {request : Http.Request} {argument : String}
    {endpoint : Http.Endpoint} {r : SaveRequest}
    (h : endpoint.task? request argument = some (.save r)) :
    ∃ v, SaveRequest.check .requestBody v = .accepted r := by
  cases endpoint with
  | savePolicy =>
    obtain ⟨body, -, hbody⟩ := Content.bind?_eq_some.mp h
    obtain ⟨r', hr', heq⟩ := Option.map_eq_some_iff.mp hbody
    cases heq
    rw [Checked.value?_eq_some] at hr'
    cases body with
    | none => simp [checkBody] at hr'
    | some v => exact ⟨v, by simpa [checkBody] using hr'⟩
  | generate | generateForDataset =>
    obtain ⟨body, -, hbody⟩ := Content.bind?_eq_some.mp h
    simp at hbody
  | listDatasets | getDataset | listPolicyTypes | listPolicies | deletePolicy => simp [task?] at h

theorem Event.maxUsageCount_of_save {request : SaveRequest}
    (h : event.task? = some (.save request)) :
    ∃ count, 1 ≤ count ∧ request.config.maxUsageCount = some count := by
  cases event with
  | request r =>
    simp only [Event.task?, Http.Request.task?] at h
    split at h
    · obtain ⟨v, hv⟩ := Http.Endpoint.check_of_task? h
      exact SaveRequest.maxUsageCount_of_check hv
    · cases h
  | call c =>
    cases c with
    | savePolicy v =>
      obtain ⟨r, hr, heq⟩ := Option.map_eq_some_iff.mp h
      cases heq
      exact SaveRequest.maxUsageCount_of_check (Checked.value?_eq_some.mp hr)
    | generateFor datasetId config => simp [Event.task?, Call.task?] at h
    | start | stop | database | listDatasets | findDataset | listPolicies | deletePolicy => cases h
  | setClock reading | expectFault access message | expectWriter writer => cases h

/-- The stored document is that of a policy whose documents are compiled from it, whose count is
positive, and whose dataset is the one that the catalog describes. -/
structure Session.Consistent (arrays : Bool) (s : Session) (stored : StoredPolicy)
    (p : SavedPolicy) : Prop where
  keeps : stored.Keeps p
  documents : Documents.generate p.dataset p.config p.createdAt = .ok p.documents
  count : ∃ count, 1 ≤ count ∧ p.config.maxUsageCount = some count
  identifier : p.dataset.uuid ≠ ""
  dataset : s.catalog.dataset? arrays p.dataset.id = some p.dataset

def Session.AllConsistent (arrays : Bool) (s : Session) : Prop :=
  ∀ stored ∈ s.policies, ∃ p, s.Consistent arrays stored p

namespace Session

variable {stored : StoredPolicy} {p : SavedPolicy} {given : String → Prop}

theorem Consistent.completed {arrays : Bool} (h : s.Consistent arrays stored p)
    (hs : s.writers = []) (hc : s.Completed arrays given t) : t.Consistent arrays stored p :=
  { h with dataset := (hc hs).2.dataset? h.dataset h.identifier }

theorem Saved.consistent {request : SaveRequest} (h : s.Saved env request p t)
    (hcount : ∃ count, 1 ≤ count ∧ request.config.maxUsageCount = some count) (id : PolicyId) :
    t.Consistent env.server.arrays ⟨id, p.toFields⟩ p := by
  obtain ⟨d, hd, hp⟩ := Option.bind_eq_some_iff.mp h.policyFor
  have hdataset := h.dataset
  obtain ⟨time, documents, -, hdocuments, rfl⟩ := policyOn?_eq_some.mp hp
  refine ⟨⟨rfl, time, rfl⟩, hdocuments, hcount, h.identifier, ?_⟩
  rw [hdataset]
  exact hd

/-- Every event keeps the stored policies consistent. -/
theorem consistent_step (hdraws : ∀ n, Proper (env.identifier n)) (hs : s.Undisturbed)
    (halone : event.Alone) (h : s.AllConsistent env.server.arrays) :
    (s.step env event).2.AllConsistent env.server.arrays := by
  have hcompleted := completed_step not_proper_empty hdraws halone s
  have hold :
      ∀ stored ∈ s.policies, ∃ p, (s.step env event).2.Consistent env.server.arrays stored p := by
    intro stored hstored
    obtain ⟨p, hp⟩ := h stored hstored
    exact ⟨p, hp.completed hs.writers hcompleted⟩
  rcases step_cases not_proper_empty hdraws hs event with
    ⟨-, hpolicies, -⟩ | ⟨request, p, htask, -, hsaved⟩ | ⟨id, -, hdeleted⟩
  · unfold AllConsistent
    rw [hpolicies]
    exact hold
  · unfold AllConsistent
    rw [hsaved.gains.policies]
    intro stored hstored
    rcases List.mem_append.mp hstored with hstored | hstored
    · exact hold stored hstored
    · rw [List.mem_singleton.mp hstored]
      exact ⟨p, hsaved.consistent (Event.maxUsageCount_of_save htask) _⟩
  · unfold AllConsistent
    rw [hdeleted.policies]
    intro stored hstored
    exact hold stored (List.mem_of_mem_eraseP hstored)

theorem consistent_after (hdraws : ∀ n, Proper (env.identifier n)) (hs : s.Undisturbed)
    {events : List Event} (halone : ∀ event ∈ events, event.Alone)
    (h : s.AllConsistent env.server.arrays) :
    (s.after env events).AllConsistent env.server.arrays := by
  refine (after_of_step not_proper_empty hdraws ?_ hs halone h).2
  intro s event hevent hs h
  exact consistent_step hdraws hs (halone event hevent) h

/-- In every session that any events lead to without another writer, a stored policy holds what its
dataset, its configuration and its time of creation compile to, allows at least one use, and names
the identifier that the catalog holds for its dataset. -/
theorem stored_policies_consistent (hdraws : ∀ n, env.identifier n ≠ "")
    (hpolicies : s.policies = []) (hwriters : s.writers = []) (huuids : s.catalog.PlainUuids)
    {events : List Event} (halone : ∀ event ∈ events, event.Alone) :
    ∀ stored ∈ (s.after env events).policies, ∃ p : SavedPolicy,
      stored.document = p.toFields ∧
      SavedPolicy.check .values (.obj stored.document) = .accepted p ∧
      p.documents.idsPolicy = (Json.obj (Ids.compile p.dataset p.config)).indentedText ∧
      (∃ odrl, Odrl.compile p.dataset p.config p.createdAt = .ok odrl ∧
        p.documents.odrlPolicy = (Json.obj odrl).indentedText) ∧
      (∃ count, 1 ≤ count ∧ p.config.maxUsageCount = some count) ∧
      p.dataset.uuid ≠ "" ∧
      ∃ r, (s.after env events).catalog.findId? env.server.arrays p.dataset.id = some r ∧
        r.uuid = .str p.dataset.uuid := by
  have hempty : s.AllConsistent env.server.arrays := by simp [AllConsistent, hpolicies]
  intro stored hstored
  obtain ⟨p, hp⟩ := consistent_after hdraws ⟨hwriters, huuids⟩ halone hempty stored hstored
  obtain ⟨r, hr, haccepted⟩ := Catalog.dataset?_eq_some.mp hp.dataset
  obtain ⟨-, -, -, huuid⟩ := Dataset.check_obj_eq_accepted.mp haccepted
  obtain ⟨-, odrl, hodrl, hdocuments⟩ := Documents.generate_eq_ok.mp hp.documents
  refine ⟨p, hp.keeps.1, hp.keeps.check, ?_, ⟨odrl, hodrl, ?_⟩, hp.count, hp.identifier, r, hr, ?_⟩
  · rw [hdocuments]
  · rw [hdocuments]
  · simp [Record.uuid, Fields.get, huuid]

/-- A policy saved on a record that had no identifier names the one that was drawn for it. -/
theorem stored_policies_consistent_drawn :
    let s := Sample.session (Sample.noon 0 0)
    let events : List Event := [Sample.save 1, .expectFault .insert "down", .call .listDatasets]
    (s.after Sample.environment events).policies.length = 1 ∧
      ∀ stored ∈ (s.after Sample.environment events).policies, ∃ p : SavedPolicy,
        SavedPolicy.check .values (.obj stored.document) = .accepted p ∧
        ∃ r, (s.after Sample.environment events).catalog.findId? true p.dataset.id = some r ∧
          r.uuid = .str p.dataset.uuid := by
  intro s events
  have halone : ∀ event ∈ events, event.Alone := by
    simp [events, Event.Alone, Sample.save]
  refine ⟨by decide +kernel, fun stored hstored => ?_⟩
  obtain ⟨p, -, hcheck, -, -, -, -, hr⟩ := stored_policies_consistent Sample.identifier_ne_empty
    rfl rfl (Sample.undisturbed_session _).plainUuids halone stored hstored
  exact ⟨p, hcheck, hr⟩

end Session
end UsagePolicy
