import UsagePolicy.Proofs.Policies.Submissions

/-!
# Previews and saves

A policy whose documents a client has been shown can be saved for the same dataset, right away or
later, as long as nothing is about to go wrong, but for two limits. Documents show a count of any
size, while the database holds integers of 64 bits, and documents of a bounded size. A policy beyond
either limit is turned down when it is saved, with a reason, and nothing is stored; this is so
whatever restriction it selects, since the parameters of the others are stored as well. The body in
which it comes has its limits, too: it is one level deeper than the one of the preview.
-/
namespace UsagePolicy

variable {env : Environment} {s t : Session} {event : Event} {time : UniversalTime}
  {config : PolicyConfig} {documents : Documents} {d : Dataset} {n : Int}

theorem SavedPolicy.storageFault?_toFields {p : SavedPolicy} (hid : tooWide p.dataset.id = false)
    {count : Int} (hcount : p.config.maxUsageCount = some count) :
    (Json.obj p.toFields).storageFault? =
      if tooWide count then some .integerTooWide else none := by
  have htexts : ∀ items : List String, (Json.texts items).storageFault? = none := by
    intro items
    rw [Json.texts, Json.storageFault?]
    induction items with
    | nil => rfl
    | cons item rest ih => simpa [Json.storageFaultItems?, Json.storageFault?] using ih
  simp [toFields, fieldsFor, Dataset.toJson, Dataset.toFields, PolicyConfig.toJson,
    PolicyConfig.toFields, Timestamp.toJson, Json.storageFault?, Json.storageFaultFields?, hid,
    hcount, htexts]

/-- Beside the count, only the size can keep the policy from being inserted. -/
theorem Server.insertFault?_toFields {p : SavedPolicy} (server : Server)
    (hid : tooWide p.dataset.id = false) {count : Int}
    (hcount : p.config.maxUsageCount = some count) :
    server.insertFault? p.toFields =
      if tooWide count then some .integerTooWide
      else (server.sizeFault? p.toFields).map .tooLarge := by
  rw [insertFault?, SavedPolicy.storageFault?_toFields hid hcount]
  split <;> rfl

theorem Operation.insertPolicy_of_fault {document : Fields} {error : DatabaseError}
    (h : env.server.insertFault? document = some error) (s : Session) :
    (insertPolicy document).perform env s = (.error error, s) := by
  simp only [perform, h]

theorem Operation.insertPolicy_of_no_faults (hfaults : s.faults = []) {document : Fields}
    (h : env.server.insertFault? document = none) :
    (insertPolicy document).perform env s = (.ok (env.server.policyId s.inserted),
      { s with
        policies := s.policies ++ [⟨env.server.policyId s.inserted, document⟩]
        inserted := s.inserted + 1 }) := by
  simp only [perform, h]
  rw [guarded_of_no_fault (by rw [hfaults]; rfl)]

namespace Policies

theorem run_saveOn_of_ready (h : s.Ready time)
    (hdocuments : Documents.generate d config time.toTimestamp = .ok documents) :
    (saveOn (.ofDataset d) config).run env s =
      (store (.ofDataset d) ⟨d, config, documents, time.toTimestamp⟩ >>=
        report d.id config.type).run env s := by
  have hgenerate := @run_generate_of_clock env s d config time documents h.clock hdocuments
  have hnow : now.run env s = (.ok time.toTimestamp, s) := by rw [run_now, h.clock]
  have hconnection : Datasets.requireConnection.run env s = (.ok (), s) :=
    Datasets.run_requireConnection_eq_ok.mpr ⟨h.connected, rfl⟩
  unfold saveOn
  rw [CatalogDataset.dataset_ofDataset, Program.run_seq_of_ok hgenerate, Program.run_seq_of_ok hnow,
    Program.run_seq_of_ok hconnection]
  rfl

theorem run_saveOn_of_storable (h : s.Ready time)
    (hdocuments : Documents.generate d config time.toTimestamp = .ok documents)
    (hstorable : env.server.insertFault? (SavedPolicy.toFields
      ⟨d, config, documents, time.toTimestamp⟩) = none) :
    ∃ t id, (saveOn (.ofDataset d) config).run env s = (.ok id, t) ∧
      t.policies = s.policies ++
        [⟨id, SavedPolicy.toFields ⟨d, config, documents, time.toTimestamp⟩⟩] := by
  have hinsert := Operation.insertPolicy_of_no_faults h.faults hstorable
  have hstore : (store (.ofDataset d) ⟨d, config, documents, time.toTimestamp⟩).run env s =
      (.ok (.ok (env.server.policyId s.inserted)), _) :=
    Program.run_seq_of_ok (Program.run_operation_eq_ok.mpr hinsert) _
  rw [run_saveOn_of_ready h hdocuments, Program.run_seq_of_ok hstore]
  exact ⟨_, _, rfl, rfl⟩

theorem run_saveOn_of_insertFault (h : s.Ready time)
    (hdocuments : Documents.generate d config time.toTimestamp = .ok documents)
    {error : DatabaseError}
    (hfault : env.server.insertFault? (SavedPolicy.toFields
      ⟨d, config, documents, time.toTimestamp⟩) = some error) :
    ∃ t, (saveOn (.ofDataset d) config).run env s =
        (.error (.refused (.saveFailed (.database error))), t) ∧ t.policies = s.policies := by
  have hinsert := Operation.insertPolicy_of_fault hfault s
  have hstore : (store (.ofDataset d) ⟨d, config, documents, time.toTimestamp⟩).run env s =
      (.ok (.error (.database error)), s) :=
    Program.run_seq_of_ok (Program.run_operation_eq_ok.mpr hinsert) _
  rw [run_saveOn_of_ready h hdocuments, Program.run_seq_of_ok hstore]
  exact ⟨_, rfl, rfl⟩

end Policies

namespace Session

theorem Ready.run_find (hdraws : ∀ k, Proper (env.identifier k)) (h : s.Ready time)
    {result : Except Failure CatalogDataset} (hfind : (Datasets.find n).run env s = (result, t)) :
    t.Ready time ∧ t.policies = s.policies := by
  have hreads := Datasets.performs_find hdraws n
  have huntouched := Operation.Reads.untouched_run hreads s
  have hcompleted := Operation.Completes.completed_run not_proper_empty
    (hreads.allow fun _ => Operation.Reads.completes) s
  have hsteady := steady_run env (Datasets.find n) s
  rw [hfind] at huntouched hcompleted hsteady
  refine ⟨?_, huntouched.policies⟩
  exact {
    writers := (hcompleted h.writers).1
    faults := hsteady.faults h.faults
    connected := huntouched.handle ▸ h.connected
    clock := huntouched.clock.trans h.clock }

theorem convertible_of_find (hs : s.writers = []) {c : CatalogDataset}
    (hfind : (Datasets.find n).run env s = (.ok c, t)) :
    ∃ r, s.catalog.findId? env.server.arrays n = some r ∧ r.Convertible n := by
  obtain ⟨r, d, drawn, hr, hconverted, rfl, -, -⟩ :=
    @Datasets.run_find_eq_ok (fun _ => True) env s t (fun _ => trivial) hs _ _ hfind
  exact ⟨r, hr, hconverted.convertible⟩

/-- What a request to save a policy comes to that has this count and is stored in this form. -/
structure SavesIfStorable (env : Environment) (s : Session) (request : Http.Request)
    (count : Int) (p : SavedPolicy) : Prop where
  saved : tooWide count = false → env.server.sizeFault? p.toFields = none →
    (s.reply env request).response.status = 201 ∧
    ∃ id, (s.step env (.request request)).2.policies = s.policies ++ [⟨id, p.toFields⟩]
  refusedCount : tooWide count = true →
    (s.reply env request).Carries 500 (.obj [("detail",
      .str "Failed to save policy: MongoDB can only handle up to 8-byte ints")]) ∧
    (s.step env (.request request)).2.policies = s.policies
  refusedSize : ∀ message, tooWide count = false →
    env.server.sizeFault? p.toFields = some message →
    (s.reply env request).Carries 500 (.obj [("detail",
      .str ("Failed to save policy: " ++ message))]) ∧
    (s.step env (.request request)).2.policies = s.policies

theorem Ready.savesIfStorable (hdraws : ∀ k, Proper (env.identifier k)) (h : s.Ready time)
    (hwide : tooWide n = false) {r : Record}
    (hr : s.catalog.findId? env.server.arrays n = some r) (hconvertible : r.Convertible n)
    {request : Http.Request} (htask : request.task? = some (.save ⟨n, config⟩))
    (hshort : config.CountIsShort) {count : Int} (hcount : config.maxUsageCount = some count) :
    ∃ d p, d.id = n ∧ s.policyOn? d config = some p ∧ s.SavesIfStorable env request count p := by
  have hready : s.cleared.Ready time := ⟨h.writers, h.faults, h.connected, h.clock⟩
  obtain ⟨c, u, hfind⟩ := Datasets.run_find_of_convertible (s := s.cleared) hready.writers
    hready.faults hready.connected hwide hr hconvertible
  obtain ⟨-, d, -, -, -, hid, rfl, -⟩ :=
    @Datasets.run_find_eq_ok (fun _ => True) env s.cleared u (fun _ => trivial) hready.writers _ _
      hfind
  obtain ⟨hu, hpolicies⟩ := hready.run_find hdraws hfind
  rcases Documents.generate_cases hshort d time.toTimestamp with
    ⟨-, documents, hdocuments⟩ | ⟨hout, -⟩
  swap
  · exact absurd time.inCalendar hout
  have hfault := env.server.insertFault?_toFields
    (p := ⟨d, config, documents, time.toTimestamp⟩) (hid ▸ hwide) hcount
  have hsave : ∀ {result : Except Failure PolicyId} {t : Session},
      (Policies.saveOn (.ofDataset d) config).run env u = (result, t) →
      (s.step env (.request request)).2 = t ∧
        s.reply env request = Http.exchange env.origins request (result.map .saved) := by
    intro result t hsaveOn
    exact reply_of_run htask rfl ((Program.run_seq_of_ok hfind _).trans hsaveOn)
  have hrefused : ∀ error, env.server.insertFault? (SavedPolicy.toFields
      ⟨d, config, documents, time.toTimestamp⟩) = some error →
      (s.reply env request).Carries 500 (.obj [("detail",
        .str ("Failed to save policy: " ++ error.message))]) ∧
      (s.step env (.request request)).2.policies = s.policies := by
    intro error herror
    obtain ⟨t, hsaveOn, ht⟩ := Policies.run_saveOn_of_insertFault hu hdocuments herror
    obtain ⟨hstep, hreply⟩ := hsave hsaveOn
    rw [hstep, hreply, ht, hpolicies]
    exact ⟨Http.carries_refusal _, rfl⟩
  refine ⟨d, _, hid, policyOn?_eq_some.mpr ⟨time, documents, h.clock, hdocuments, rfl⟩, ?_, ?_, ?_⟩
  · intro hnarrow hsize
    rw [hnarrow, hsize] at hfault
    obtain ⟨t, id, hsaveOn, ht⟩ := Policies.run_saveOn_of_storable hu hdocuments hfault
    obtain ⟨hstep, hreply⟩ := hsave hsaveOn
    rw [hstep, hreply, ht, hpolicies]
    exact ⟨(Http.carries_saved id).status, id, rfl⟩
  · intro hcountWide
    rw [hcountWide] at hfault
    exact hrefused .integerTooWide hfault
  · intro message hnarrow hsize
    rw [hnarrow, hsize] at hfault
    exact hrefused (.tooLarge message) hfault

theorem accepted_of_preview {request : Http.Request} {v : Json} (hasks : request.AsksPreview n v)
    (hstatus : (s.reply env request).response.status = 200) :
    ∃ config, PolicyConfig.checkForm .requestBody v = .accepted config := by
  obtain ⟨argument, ⟨hpreflight, hdestination⟩, -, hsubmits⟩ := hasks
  have hcontent := hsubmits.content
  have hpolicy : (Event.request request).policy? = some v := Http.Request.policy?_eq_some.mpr
    ⟨_, argument, v, hpreflight, hdestination, hcontent, rfl⟩
  rcases Event.task_of_policy? hpolicy with ⟨task, config, htask, hconfig⟩ | ⟨-, hfails⟩
  · obtain ⟨source, w, hw, hcheck⟩ := Event.policy_of_task? htask hconfig
    obtain rfl : v = w := Option.some_inj.mp (hpolicy.symm.trans hw)
    exact ⟨config, PolicyConfig.checkForm_source hcheck _⟩
  · have hfailed : 400 ≤ (s.reply env request).response.status := hfails env s
    omega

/-- Take a session in which the service is connected, no fault is expected and nobody else writes.
If a preview of a policy on a dataset with an id of 64 bits is answered, its form is accepted with a
count. After any quiet events, such as none or the preview, a request to save the policy, whose body
is not nested too deep and has its surrogates paired, stores it exactly if the count has 64 bits,
too, and the stored document is not too large. -/
theorem previewed_saves_if_storable (hdraws : ∀ k, env.identifier k ≠ "")
    (hconnected : s.handle.isSome = true) (hfaults : s.faults = []) (hwriters : s.writers = [])
    (hwide : tooWide n = false) {v : Json} {preview save : Http.Request}
    (hpreview : preview.AsksPreview n v) (hsave : save.AsksToSave n v)
    (hstatus : (s.reply env preview).response.status = 200) {events : List Event}
    (hquiet : ∀ event ∈ events, event.Quiet) :
    ∃ (fields : Fields) (count : Int) (config : PolicyConfig) (d : Dataset) (p : SavedPolicy),
      v = .obj fields ∧ 1 ≤ count ∧ UsageCount.submitted fields = .ok count ∧
      PolicyConfig.checkForm .requestBody v = .accepted config ∧ d.id = n ∧
      (s.after env events).policyOn? d config = some p ∧
      (s.after env events).SavesIfStorable env save count p := by
  obtain ⟨config, hcheck⟩ := accepted_of_preview hpreview hstatus
  obtain ⟨fields, rfl⟩ := PolicyConfig.exists_fields_of_checkForm hcheck
  obtain ⟨-, count, hpositive, hcount, hsubmitted⟩ := PolicyConfig.parts_of_checkForm hcheck
  have htask := hpreview.task?_eq hcheck
  obtain ⟨c, u, time, -, hfind, hclock, -, -⟩ := reply_generateFor_of_answered htask hstatus
  obtain ⟨r, hr, hconvertible⟩ := convertible_of_find (s := s.cleared) hwriters hfind
  have hready : s.Ready time := ⟨hwriters, hfaults, hconnected, hclock⟩
  have halone : ∀ event ∈ events, event.Alone := fun event he => (hquiet event he).routine.alone
  obtain ⟨r', hr', hcompleted⟩ :=
    (completed_after not_proper_empty hdraws halone s hwriters).2.findId? hr
  obtain ⟨d, p, hid, hpolicy, hsaves⟩ := (hready.after hdraws hquiet).savesIfStorable hdraws hwide
    hr' (hconvertible.completed hcompleted) (hsave.task?_eq hcheck)
    (Http.Request.countIsShort htask rfl) hcount
  exact ⟨fields, count, config, d, p, rfl, hpositive, hsubmitted, hcheck, hid, hpolicy, hsaves⟩

end Session

namespace Sample

/-- Requests for the documents of a policy with a count, and to save it. -/
def countPreview (count : String) : Http.Request :=
  post "/policies/generate/1" ("\x7b\"maxUsageCount\": " ++ count ++ "\x7d")

def countSave (count : String) : Http.Request :=
  post "/policies" ("\x7b\"dataset_id\": 1, \"config\": \x7b\"maxUsageCount\": " ++ count ++
    "\x7d\x7d")

def countForm (count : Int) : Json :=
  .obj [("maxUsageCount", .int count)]

end Sample

namespace Session

/-- The greatest integer of 64 bits can be saved after its preview. -/
theorem previewed_saves_if_storable_greatest :
    let env := Sample.environment
    let s := Sample.session (Sample.noon 0 0)
    let preview := Sample.countPreview "9223372036854775807"
    let save := Sample.countSave "9223372036854775807"
    let form := Sample.countForm 9223372036854775807
    ((∀ k, env.identifier k ≠ "") ∧ s.handle.isSome = true ∧ s.faults = [] ∧ s.writers = [] ∧
      tooWide 1 = false ∧ preview.AsksPreview 1 form ∧ save.AsksToSave 1 form ∧
      (s.reply env preview).response.status = 200) ∧
    ((s.after env [.request preview]).reply env save).response.status = 201 ∧
      ∃ stored, ((s.after env [.request preview]).step env (.request save)).2.policies =
        [stored] := by
  intro env s preview save form
  have hpreview : preview.AsksPreview 1 form :=
    ⟨"1", ⟨rfl, by decide +kernel⟩, rfl,
      Sample.submits_post (by simp) (by decide +kernel) (by decide +kernel)⟩
  have hsave : save.AsksToSave 1 form :=
    ⟨"", [("dataset_id", .int 1), ("config", form)], .int 1, ⟨rfl, by decide +kernel⟩,
      Sample.submits_post (by simp) (by decide +kernel) (by decide +kernel), rfl, rfl, rfl⟩
  have hstatus : (s.reply env preview).response.status = 200 := by decide +kernel
  have hquiet : ∀ event ∈ [Event.request preview], event.Quiet := by simp [Event.Quiet]
  obtain ⟨fields, count, config, d, p, hfields, -, hsubmitted, -, -, -, hsaves⟩ :=
    previewed_saves_if_storable Sample.identifier_ne_empty rfl rfl rfl (by decide) hpreview hsave
      hstatus hquiet
  have hform : form = .obj [("maxUsageCount", .int 9223372036854775807)] := rfl
  obtain rfl : [("maxUsageCount", .int 9223372036854775807)] = fields :=
    Json.obj.inj (hform.symm.trans hfields)
  have hcount : count = 9223372036854775807 := (Except.ok.inj hsubmitted).symm
  subst hcount
  obtain ⟨hsaved, id, hpolicies⟩ := hsaves.saved (by decide) rfl
  have hempty : (s.after env [.request preview]).policies = [] := by decide +kernel
  rw [hempty, List.nil_append] at hpolicies
  exact ⟨⟨Sample.identifier_ne_empty, rfl, rfl, rfl, by decide, hpreview, hsave, hstatus⟩, hsaved,
    _, hpolicies⟩

/-- A count one above that is previewed, but cannot be saved. -/
theorem wide_count_previewed_not_saved :
    let env := Sample.environment
    let s := Sample.session (Sample.noon 0 0)
    let preview := Sample.countPreview "9223372036854775808"
    let save := Sample.countSave "9223372036854775808"
    let form := Sample.countForm 9223372036854775808
    preview.AsksPreview 1 form ∧ save.AsksToSave 1 form ∧ s.handle.isSome = true ∧
      s.faults = [] ∧ s.writers = [] ∧ (s.reply env preview).response.status = 200 ∧
      ((s.after env [.request preview]).reply env save).response.status = 500 ∧
      ((s.after env [.request preview]).step env (.request save)).2.policies = [] := by
  intro env s preview save form
  have hpreview : preview.AsksPreview 1 form :=
    ⟨"1", ⟨rfl, by decide +kernel⟩, rfl,
      Sample.submits_post (by simp) (by decide +kernel) (by decide +kernel)⟩
  have hsave : save.AsksToSave 1 form :=
    ⟨"", [("dataset_id", .int 1), ("config", form)], .int 1, ⟨rfl, by decide +kernel⟩,
      Sample.submits_post (by simp) (by decide +kernel) (by decide +kernel), rfl, rfl, rfl⟩
  have hsaved : ((s.after env [.request preview]).reply env save).response.status = 500 := by
    decide +kernel
  have hpolicies : ((s.after env [.request preview]).step env (.request save)).2.policies = [] := by
    decide +kernel
  exact ⟨hpreview, hsave, rfl, rfl, rfl, by decide +kernel, hsaved, hpolicies⟩

end Session
end UsagePolicy
