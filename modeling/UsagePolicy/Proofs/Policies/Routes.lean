import UsagePolicy.Proofs.Policies.Generation
import UsagePolicy.Proofs.Service.Calm

/-!
# Three ways to the same documents

The documents of a policy on a dataset of the catalog can be asked for by the dataset's id, or with
the dataset itself as the catalog has shown it, or by saving the policy and listing what is stored.
While the clock stands still, all three give the same documents, in whatever order they are asked
for and whatever else is asked for in between: the first of them may be the one that gives the
dataset its identifier, and no later event replaces it.
-/
namespace UsagePolicy

variable {env : Environment} {s t : Session} {event : Event} {n : Int} {config : PolicyConfig}
  {documents : Documents}

namespace Http.Request

variable {request : Request} {endpoint : Endpoint} {argument : String} {v : Json}

/-- The request leads to the endpoint, with this argument in its path. -/
def LeadsTo (request : Request) (endpoint : Endpoint) (argument : String) : Prop :=
  request.preflight? = none ∧
    destination request.method request.path = .endpoint endpoint argument

/-- A request for the documents of a policy on the dataset with the id. -/
def AsksPreview (request : Request) (n : Int) (config : Json) : Prop :=
  ∃ argument, request.LeadsTo .generateForDataset argument ∧
    checkDatasetId argument = .accepted n ∧ request.Submits config

def AsksDataset (request : Request) (n : Int) : Prop :=
  ∃ argument, request.LeadsTo .getDataset argument ∧ checkDatasetId argument = .accepted n

/-- A request for the documents of a policy on the dataset that comes with it, issued now. -/
def AsksDocuments (request : Request) (dataset config : Json) : Prop :=
  ∃ (argument : String) (fields : Fields), request.LeadsTo .generate argument ∧
    request.Submits (.obj fields) ∧ fields.get? "dataset" = some dataset ∧
    fields.get? "config" = some config ∧ fields.get "issued" = .null

def AsksToSave (request : Request) (n : Int) (config : Json) : Prop :=
  ∃ (argument : String) (fields : Fields) (id : Json), request.LeadsTo .savePolicy argument ∧
    request.Submits (.obj fields) ∧ fields.get? "dataset_id" = some id ∧
    Schema.integer id = .accepted n ∧ fields.get? "config" = some config

def AsksListing (request : Request) (n : Int) : Prop :=
  ∃ argument, request.LeadsTo .listPolicies argument ∧ checkDatasetId argument = .accepted n

theorem LeadsTo.task?_eq (h : request.LeadsTo endpoint argument) :
    request.task? = endpoint.task? request argument := by
  simp only [task?, h.1, h.2]

theorem AsksPreview.task?_eq (h : request.AsksPreview n v)
    (hconfig : PolicyConfig.checkForm .requestBody v = .accepted config) :
    request.task? = some (.generateFor n config) := by
  obtain ⟨argument, hleads, hid, hsubmits⟩ := h
  rw [hleads.task?_eq]
  simp [Endpoint.task?, hsubmits.content, Content.bind?, hid, checkBody, hconfig, Checked.within,
    Checked.both, Checked.value?]

theorem AsksDataset.task?_eq (h : request.AsksDataset n) :
    request.task? = some (.findDataset n) := by
  obtain ⟨argument, hleads, hid⟩ := h
  rw [hleads.task?_eq]
  simp [Endpoint.task?, hid, Checked.value?]

theorem AsksDocuments.task?_eq {d : Dataset} (h : request.AsksDocuments d.toJson v)
    (hconfig : PolicyConfig.checkForm .requestBody v = .accepted config) :
    request.task? = some (.generate ⟨d, config, none⟩) := by
  obtain ⟨argument, fields, hleads, hsubmits, hdataset, hv, hissued⟩ := h
  have hcheck : GenerateRequest.check .requestBody (.obj fields) = .accepted ⟨d, config, none⟩ :=
    GenerateRequest.check_obj_of_not_issued hdataset d.check_toJson hv hconfig hissued
  rw [hleads.task?_eq]
  simp [Endpoint.task?, hsubmits.content, Content.bind?, checkBody, hcheck, Checked.within,
    Checked.value?]

theorem AsksToSave.task?_eq (h : request.AsksToSave n v)
    (hconfig : PolicyConfig.checkForm .requestBody v = .accepted config) :
    request.task? = some (.save ⟨n, config⟩) := by
  obtain ⟨argument, fields, id, hleads, hsubmits, hid, hn, hv⟩ := h
  have hcheck : SaveRequest.check .requestBody (.obj fields) = .accepted ⟨n, config⟩ :=
    SaveRequest.check_obj_of_parts hid hn hv hconfig
  rw [hleads.task?_eq]
  simp [Endpoint.task?, hsubmits.content, Content.bind?, checkBody, hcheck, Checked.within,
    Checked.value?]

theorem AsksListing.task?_eq (h : request.AsksListing n) :
    request.task? = some (.listPolicies n) := by
  obtain ⟨argument, hleads, hid⟩ := h
  rw [hleads.task?_eq]
  simp [Endpoint.task?, hid, Checked.value?]

end Http.Request

def Event.AsksToDelete (env : Environment) (event : Event) (id : PolicyId) : Prop :=
  ∃ reference, event.task? = some (.delete reference) ∧ reference.id? env = some id

/-- The catalog describes the dataset under the id, and with an identifier. -/
def Catalog.Describes (arrays : Bool) (c : Catalog) (n : Int) (d : Dataset) : Prop :=
  c.dataset? arrays n = some d ∧ d.uuid ≠ ""

theorem Catalog.Describes.unique {arrays : Bool} {c : Catalog} {d e : Dataset}
    (h : c.Describes arrays n d) (h' : c.Describes arrays n e) : d = e :=
  Option.some_inj.mp (h.1.symm.trans h'.1)

theorem Catalog.Describes.completed {arrays : Bool} {given : String → Prop} {c c' : Catalog}
    {d : Dataset} (h : c.Describes arrays n d) (hc : Catalog.Completed arrays given c c') :
    c'.Describes arrays n d :=
  ⟨hc.dataset? h.1 h.2, h.2⟩

namespace Session

/-- In a run without other writers there is one dataset that the catalog can come to describe under
an id. -/
theorem exists_described (hdraws : ∀ n, Proper (env.identifier n)) (hs : s.writers = [])
    {events : List Event} (halone : ∀ event ∈ events, event.Alone) (n : Int) :
    ∃ d, ∀ front back e, events = front ++ back →
      (s.after env front).catalog.Describes env.server.arrays n e →
      e = d := by
  have hlast : ∀ front back e, events = front ++ back →
      (s.after env front).catalog.Describes env.server.arrays n e →
      (s.after env events).catalog.Describes env.server.arrays n e := by
    rintro front back e rfl h
    have hfront := (completed_after not_proper_empty hdraws
      (fun event he => halone event (List.mem_append_left _ he)) s hs).1
    rw [after_append]
    exact h.completed (completed_after not_proper_empty hdraws
      (fun event he => halone event (List.mem_append_right _ he)) _ hfront).2
  by_cases hdescribed : ∃ d, (s.after env events).catalog.Describes env.server.arrays n d
  · obtain ⟨d, hd⟩ := hdescribed
    exact ⟨d, fun front back e hsplit h => (hlast front back e hsplit h).unique hd⟩
  · exact ⟨⟨n, "", "", ""⟩, fun front back e hsplit h =>
      absurd ⟨e, hlast front back e hsplit h⟩ hdescribed⟩

def reply (env : Environment) (s : Session) (request : Http.Request) : Http.Exchange :=
  (Http.serve env request s.cleared).1

theorem step_reply (env : Environment) (s : Session) (request : Http.Request) :
    (s.step env (.request request)).1 = .exchange (s.reply env request) := rfl

theorem reply_of_task {request : Http.Request} {task : Task} (h : request.task? = some task)
    (env : Environment) (s : Session) :
    s.reply env request = Http.exchange env.origins request (s.outcome env task) := by
  have hstep := step_reply env s request
  rw [step_request h] at hstep
  exact (Answer.exchange.inj hstep).symm

/-- A request does what the program of its task does, and its client learns what that returns. -/
theorem reply_of_run {α : Type} {request : Http.Request} {task : Task} {p : Program α}
    {f : α → TaskResult} {result : Except Failure α} (h : request.task? = some task)
    (hprogram : task.program = p >>= fun a => pure (f a))
    (hrun : p.run env s.cleared = (result, t)) :
    (s.step env (.request request)).2 = t ∧
      s.reply env request = Http.exchange env.origins request (result.map f) := by
  have htask : (Event.request request).task? = some task := h
  obtain ⟨hstep, houtcome⟩ := step_of_run htask hprogram hrun
  refine ⟨hstep, ?_⟩
  rw [reply, Http.serve_task h]
  exact congrArg (Http.exchange env.origins request) houtcome

theorem Listable.storable_of_shown (h : s.Listable env) {entries : List PolicyEntry}
    (hshown : Policies.shown entries = Policies.kept (env.server.policiesFor s.policies n)) :
    ∀ e ∈ entries, (Json.obj e.policy.toFields).storageFault? = none := by
  intro e he
  obtain ⟨stored, hstored, -, hpolicy⟩ := Policies.exists_stored_of_shown hshown he
  obtain ⟨q, hq⟩ := h.keeps stored hstored
  obtain rfl : q = e.policy := Option.some_inj.mp (hq.policy?.symm.trans hpolicy)
  rw [← hq.1]
  exact h.storable stored hstored

namespace Calm

variable {time : UniversalTime} {request : Http.Request} {v : Json}

theorem reply_preview (hdraws : ∀ n, Proper (env.identifier n)) (hwide : tooWide n = false)
    (h : s.Calm env time n) (hasks : request.AsksPreview n v)
    (hconfig : PolicyConfig.checkForm .requestBody v = .accepted config) :
    ∃ d documents, (s.step env (.request request)).2.catalog.Describes env.server.arrays n d ∧
      Documents.generate d config time.toTimestamp = .ok documents ∧
      (s.reply env request).Carries 200 documents.toJson := by
  have htask := hasks.task?_eq hconfig
  obtain ⟨-, -, -, hsubmits⟩ := hasks
  have hcount := PolicyConfig.countIsShort_of_checkForm hsubmits.limited hconfig
  obtain ⟨d, t, hfind, -, hne, hdataset, hclock⟩ := h.cleared.find hdraws hwide
  rcases Documents.generate_cases hcount d time.toTimestamp with
    ⟨-, documents, hdocuments⟩ | ⟨hout, -⟩
  · have hrun : (Policies.generateFor n config).run env s.cleared = (.ok documents, t) := by
      rw [Policies.generateFor, Program.run_seq_of_ok hfind]
      exact Policies.run_generate_of_clock hclock hdocuments
    obtain ⟨hstep, hreply⟩ := reply_of_run htask rfl hrun
    refine ⟨d, documents, ?_, hdocuments, ?_⟩
    · rw [hstep]
      exact ⟨hdataset, hne⟩
    · rw [hreply]
      exact Http.carries_documents documents
  · exact absurd time.inCalendar hout

theorem reply_dataset (hdraws : ∀ n, Proper (env.identifier n)) (hwide : tooWide n = false)
    (h : s.Calm env time n) (hasks : request.AsksDataset n) :
    ∃ d, (s.step env (.request request)).2.catalog.Describes env.server.arrays n d ∧
      (s.reply env request).Carries 200 d.toJson := by
  have htask := hasks.task?_eq
  obtain ⟨d, t, hfind, hid, hne, hdataset, -⟩ := h.cleared.find hdraws hwide
  have hrun : (Datasets.find n >>= Datasets.present).run env s.cleared = (.ok d.toJson, t) := by
    rw [Program.run_seq_of_ok hfind]
    rfl
  have hprogram : (Task.findDataset n).program =
      (Datasets.find n >>= Datasets.present) >>= fun v => pure (.dataset v) := by
    simp [Task.program]
  obtain ⟨hstep, hreply⟩ := reply_of_run htask hprogram hrun
  refine ⟨d, ?_, ?_⟩
  · rw [hstep]
    exact ⟨hdataset, hne⟩
  · rw [hreply]
    exact Http.carries_dataset (hid ▸ hwide)

theorem reply_documents (h : s.Calm env time n) {d : Dataset}
    (hasks : request.AsksDocuments d.toJson v)
    (hconfig : PolicyConfig.checkForm .requestBody v = .accepted config)
    (hdocuments : Documents.generate d config time.toTimestamp = .ok documents) :
    (s.reply env request).Carries 200 documents.toJson := by
  have htask := hasks.task?_eq hconfig
  have hrun := @Policies.run_generate_of_clock env s.cleared d config time documents h.clock
    hdocuments
  obtain ⟨-, hreply⟩ := reply_of_run htask rfl hrun
  rw [hreply]
  exact Http.carries_documents documents

theorem reply_save (hdraws : ∀ n, Proper (env.identifier n)) (h : s.Calm env time n)
    (hasks : request.AsksToSave n v)
    (hconfig : PolicyConfig.checkForm .requestBody v = .accepted config)
    (hstatus : (s.reply env request).response.status = 201) :
    ∃ d documents, (s.step env (.request request)).2.catalog.Describes env.server.arrays n d ∧
      d.id = n ∧
      Documents.generate d config time.toTimestamp = .ok documents ∧
      (s.reply env request).Carries 201 (.obj [("message", .str "Policy saved"),
        ("id", .str (env.server.policyId s.inserted).text)]) ∧
      s.Gains env (SavedPolicy.toFields ⟨d, config, documents, time.toTimestamp⟩)
        (s.step env (.request request)).2 := by
  have htask := hasks.task?_eq hconfig
  have hplain : ∀ record, s.catalog.findId? env.server.arrays
      (SaveRequest.mk n config).datasetId = some record → record.HasPlainUuid :=
    fun _ => h.hasPlainUuid
  rcases Policies.run_save not_proper_empty hdraws (s := s.cleared) h.writers hplain with
    ⟨failure, t, hrun, -⟩ | ⟨p, t, hrun, hgains, hpolicy, hid, hne⟩
  · obtain ⟨-, hreply⟩ := reply_of_run htask rfl hrun
    have hfailed : 400 ≤ (s.reply env request).response.status := by
      rw [hreply]
      exact Http.status_exchange.mpr ⟨failure, rfl⟩
    omega
  · obtain ⟨hstep, hreply⟩ := reply_of_run htask rfl hrun
    obtain ⟨d, hd, hpolicyOn⟩ := Option.bind_eq_some_iff.mp hpolicy
    obtain ⟨time', documents, hclock, hdocuments, rfl⟩ := policyOn?_eq_some.mp hpolicyOn
    obtain rfl : time = time' := Except.ok.inj ((hgains.clock.trans h.clock).symm.trans hclock)
    refine ⟨d, documents, ?_, hid, hdocuments, ?_, ?_⟩
    · rw [hstep]
      exact ⟨hd, hne⟩
    · rw [hreply]
      exact Http.carries_saved _
    · rw [hstep]
      exact ⟨hgains.policies, hgains.inserted, hgains.client, hgains.handle, hgains.clock⟩

theorem reply_listing (h : s.Calm env time n) (hwide : tooWide n = false)
    (hasks : request.AsksListing n) :
    ∃ entries, Policies.shown entries = Policies.kept (env.server.policiesFor s.policies n) ∧
      (s.reply env request).Carries 200 (.arr (entries.map PolicyEntry.toJson)) := by
  have hfault : s.cleared.faults.lookup .find = none := by
    rw [h.cleared.faults]
    rfl
  obtain ⟨entries, hrun, hshown⟩ :=
    @Policies.run_list env s.cleared n h.connected hwide hfault h.keeps
  obtain ⟨-, hreply⟩ := reply_of_run hasks.task?_eq rfl hrun
  refine ⟨entries, hshown, ?_⟩
  rw [hreply]
  exact Http.carries_policies (h.storable_of_shown hshown)

end Calm

/-- What is stored under the id is the policy, and the id is not given out again. -/
structure Reserves (env : Environment) (s : Session) (id : PolicyId) (p : SavedPolicy) : Prop where
  given : ∃ k < s.inserted, env.server.policyId k = id
  keeps : ∀ stored ∈ s.policies, stored.id = id → stored.Keeps p

def Stores (s : Session) (id : PolicyId) : Prop :=
  ∃ stored ∈ s.policies, stored.id = id

variable {id : PolicyId} {p : SavedPolicy}

theorem Gains.stores {document : Fields} (h : s.Gains env document t) :
    t.Stores (env.server.policyId s.inserted) :=
  ⟨⟨env.server.policyId s.inserted, document⟩, by simp [h.policies], rfl⟩

theorem Gains.reserves (hids : s.Unrepeated env) (h : s.Gains env p.toFields t)
    {time : UniversalTime} (htime : p.createdAt = time.toTimestamp) :
    t.Reserves env (env.server.policyId s.inserted) p where
  given := ⟨s.inserted, by rw [h.inserted]; exact Nat.lt_succ_self _, rfl⟩
  keeps := by
    rw [h.policies]
    intro stored hstored hid
    rcases List.mem_append.mp hstored with hstored | hstored
    · exact absurd hid (hids.fresh stored hstored s.inserted (Nat.le_refl _))
    · rw [List.mem_singleton.mp hstored]
      exact ⟨rfl, time, htime⟩

theorem Reserves.step (hfresh : env.server.FreshIds) (h : s.Reserves env id p) (event : Event) :
    (s.step env event).2.Reserves env id p := by
  obtain ⟨⟨k, hk, hid⟩, hkeeps⟩ := h
  rcases step_changes env s event with
    ⟨hpolicies, hinserted⟩ | ⟨-, ⟨document, hgains⟩ | ⟨other, hdeleted⟩⟩
  · exact ⟨⟨k, by rw [hinserted]; exact hk, hid⟩, by rw [hpolicies]; exact hkeeps⟩
  · refine ⟨⟨k, by rw [hgains.inserted]; omega, hid⟩, ?_⟩
    rw [hgains.policies]
    intro stored hstored hstoredId
    rcases List.mem_append.mp hstored with hstored | hstored
    · exact hkeeps stored hstored hstoredId
    · -- The new policy has a later id.
      rw [List.mem_singleton.mp hstored] at hstoredId
      have := hfresh _ _ (hstoredId.trans hid.symm)
      omega
  · refine ⟨⟨k, by rw [hdeleted.inserted]; exact hk, hid⟩, ?_⟩
    rw [hdeleted.policies]
    exact fun stored hstored => hkeeps stored (List.mem_of_mem_eraseP hstored)

theorem Reserves.after (hfresh : env.server.FreshIds) (h : s.Reserves env id p)
    (events : List Event) : (s.after env events).Reserves env id p :=
  invariant_after (P := fun s => s.Reserves env id p) (fun _ event _ h => h.step hfresh event) h

theorem Stores.step (h : s.Stores id) (hkept : ¬ event.AsksToDelete env id) :
    (s.step env event).2.Stores id := by
  obtain ⟨stored, hstored, hid⟩ := h
  rcases step_effect env s event with
    ⟨hpolicies, -⟩ | ⟨_, document, -, -, hgains⟩ | ⟨reference, other, htask, hother, -, hdeleted⟩
  · exact ⟨stored, by rw [hpolicies]; exact hstored, hid⟩
  · exact ⟨stored, by rw [hgains.policies]; exact List.mem_append_left _ hstored, hid⟩
  · have hne : ¬ (stored.id == other) = true := by
      rw [beq_iff_eq, hid]
      rintro rfl
      exact hkept ⟨reference, htask, hother⟩
    refine ⟨stored, ?_, hid⟩
    rw [hdeleted.policies]
    exact (List.mem_eraseP_of_neg (p := fun stored => stored.id == other) hne).mpr hstored

theorem Stores.after (h : s.Stores id) {events : List Event}
    (hkept : ∀ event ∈ events, ¬ event.AsksToDelete env id) : (s.after env events).Stores id :=
  invariant_after (P := fun s => s.Stores id)
    (fun _ event hevent h => h.step (hkept event hevent)) h

theorem Reserves.listed (h : s.Reserves env id p) {entries : List PolicyEntry}
    (hshown : Policies.shown entries = Policies.kept (env.server.policiesFor s.policies n)) :
    ∀ e ∈ entries, e.id = id.text → e.policy = p := by
  intro e he hid
  obtain ⟨stored, hstored, hstoredId, hpolicy⟩ := Policies.exists_stored_of_shown hshown he
  have hkeeps := h.keeps stored hstored (PolicyId.text_injective (hstoredId.trans hid))
  exact Option.some_inj.mp (hpolicy.symm.trans hkeeps.policy?)

theorem Stores.listed (hstores : s.Stores id) (h : s.Reserves env id p)
    (hdataset : p.dataset.id = n)
    {entries : List PolicyEntry}
    (hshown : Policies.shown entries = Policies.kept (env.server.policiesFor s.policies n)) :
    ∃ e ∈ entries, e.id = id.text := by
  obtain ⟨stored, hstored, rfl⟩ := hstores
  have hkeeps := h.keeps stored hstored rfl
  have hconcerns : stored.concerns env.server.arrays n = true := by
    rw [hkeeps.concerns, hdataset]
    exact beq_self_eq_true n
  have hfound : stored ∈ env.server.policiesFor s.policies n :=
    (env.server.order.perm _).mem_iff.mpr (List.mem_filter.mpr ⟨hstored, hconcerns⟩)
  have hmem : (stored.id.text, stored.policy?) ∈ Policies.shown entries := by
    rw [hshown]
    exact List.mem_map_of_mem hfound
  obtain ⟨e, he, heq⟩ := List.mem_map.mp hmem
  exact ⟨e, he, (Prod.mk.inj heq).1⟩

theorem after_append_cons (env : Environment) (s : Session) (front : List Event) (event : Event)
    (back : List Event) : s.after env (front ++ event :: back) =
      (((s.after env front).step env event).2).after env back := by
  rw [after_append]
  rfl

/-- In a run of events, whoever asks for the dataset is shown this one, and whoever asks for the
documents of the policy on it is given these, whichever way is taken. -/
structure RoutesAgree (env : Environment) (s : Session) (events : List Event) (n : Int) (v : Json)
    (d : Dataset) (documents : Documents) : Prop where
  preview : ∀ front request back, events = front ++ .request request :: back →
    request.AsksPreview n v → ((s.after env front).reply env request).Carries 200 documents.toJson
  dataset : ∀ front request back, events = front ++ .request request :: back →
    request.AsksDataset n → ((s.after env front).reply env request).Carries 200 d.toJson
  inline : ∀ front request back, events = front ++ .request request :: back →
    request.AsksDocuments d.toJson v →
    ((s.after env front).reply env request).Carries 200 documents.toJson
  /-- A policy that was saved is listed under the id that its client was told, unless it was asked
  to be deleted. -/
  saved : ∀ front request later listing back,
    events = front ++ .request request :: (later ++ .request listing :: back) →
    request.AsksToSave n v → ((s.after env front).reply env request).response.status = 201 →
    listing.AsksListing n →
    ∃ (id : PolicyId) (entries : List PolicyEntry),
      ((s.after env front).reply env request).Carries 201
        (.obj [("message", .str "Policy saved"), ("id", .str id.text)]) ∧
      ((s.after env (front ++ .request request :: later)).reply env listing).Carries 200
        (.arr (entries.map PolicyEntry.toJson)) ∧
      (∀ e ∈ entries, e.id = id.text → e.policy.documents = documents) ∧
      ((∀ event ∈ later, ¬ event.AsksToDelete env id) → ∃ e ∈ entries, e.id = id.text)

theorem Calm.routesAgree {time : UniversalTime} (hdraws : ∀ n, Proper (env.identifier n))
    (hfresh : env.server.FreshIds) (hwide : tooWide n = false) (h : s.Calm env time n) {v : Json}
    (hv : v.Limited) (hconfig : PolicyConfig.checkForm .requestBody v = .accepted config)
    {events : List Event} (hquiet : ∀ event ∈ events, event.Quiet) :
    ∃ d documents, Documents.generate d config time.toTimestamp = .ok documents ∧
      s.RoutesAgree env events n v d documents := by
  obtain ⟨d, hdescribed⟩ := exists_described hdraws h.writers
    (fun event hevent => (hquiet event hevent).routine.alone) n
  have hcalm : ∀ front back, events = front ++ back → (s.after env front).Calm env time n := by
    rintro front back rfl
    exact h.after hdraws hfresh fun event hevent => hquiet event (List.mem_append_left _ hevent)
  have hsame : ∀ front event back, events = front ++ event :: back → ∀ e,
      ((s.after env front).step env event).2.catalog.Describes env.server.arrays n e → e = d := by
    intro front event back hsplit e he
    refine hdescribed (front ++ [event]) back e (by simp [hsplit]) ?_
    rw [after_append_cons]
    exact he
  rcases Documents.generate_cases (PolicyConfig.countIsShort_of_checkForm hv hconfig) d
    time.toTimestamp with ⟨-, documents, hdocuments⟩ | ⟨hout, -⟩
  swap
  · exact absurd time.inCalendar hout
  have hunique : ∀ other, Documents.generate d config time.toTimestamp = .ok other →
      other = documents := fun other hother => Except.ok.inj (hother.symm.trans hdocuments)
  refine ⟨d, documents, hdocuments, ?_, ?_, ?_, ?_⟩
  · intro front request back hsplit hasks
    obtain ⟨e, other, he, hother, hcarries⟩ :=
      (hcalm front _ hsplit).reply_preview hdraws hwide hasks hconfig
    obtain rfl := hsame front _ back hsplit e he
    obtain rfl := hunique other hother
    exact hcarries
  · intro front request back hsplit hasks
    obtain ⟨e, he, hcarries⟩ := (hcalm front _ hsplit).reply_dataset hdraws hwide hasks
    obtain rfl := hsame front _ back hsplit e he
    exact hcarries
  · intro front request back hsplit hasks
    exact (hcalm front _ hsplit).reply_documents hasks hconfig hdocuments
  · intro front request later listing back hsplit hasks hstatus hlisting
    obtain ⟨e, other, he, hid, hother, hcarries, hgains⟩ :=
      (hcalm front _ hsplit).reply_save hdraws hasks hconfig hstatus
    obtain rfl := hsame front _ _ hsplit e he
    obtain rfl := hunique other hother
    have hlater : (s.after env (front ++ .request request :: later)).Calm env time n :=
      hcalm _ (.request listing :: back) (by simp [hsplit])
    obtain ⟨entries, hshown, hlisted⟩ := hlater.reply_listing hwide hlisting
    have hreserves := (hgains.reserves (hcalm front _ hsplit).unrepeated rfl).after hfresh later
    rw [← after_append_cons] at hreserves
    refine ⟨env.server.policyId (s.after env front).inserted, entries, hcarries, hlisted, ?_, ?_⟩
    · intro entry hentry hentryId
      rw [hreserves.listed hshown entry hentry hentryId]
    · intro hkept
      have hstores := hgains.stores.after hkept
      rw [← after_append_cons] at hstores
      exact hstores.listed hreserves hid hshown

/-- Take any session that is reached from one without stored policies while nobody else writes, in
which the service is connected, no fault is expected and the record of an id is well formed. As long
as the clock stands still and no fault is prepared, the documents of a policy are the same by the id
of the dataset, for the dataset that a client has been shown, and in a listing once the policy has
been saved, in whatever order they are asked for and whatever else happens in between. Each request
has to submit what it asks with: its body is not nested too deep, and its surrogates are paired. -/
theorem routes_agree (hdraws : ∀ k, env.identifier k ≠ "") (hfresh : env.server.FreshIds)
    (hpolicies : s.policies = [])
    (hwriters : s.writers = []) {before : List Event} (hbefore : ∀ event ∈ before, event.Alone)
    (hconnected : (s.after env before).handle.isSome = true)
    (hfaults : (s.after env before).faults = []) {time : UniversalTime}
    (hclock : (s.after env before).clock = .ok time) (hwide : tooWide n = false) {r : Record}
    (hr : (s.after env before).catalog.findId? env.server.arrays n = some r)
    (hwell : r.WellFormed n) {v : Json} (hv : v.Limited)
    (hconfig : PolicyConfig.checkForm .requestBody v = .accepted config) {events : List Event}
    (hquiet : ∀ event ∈ events, event.Quiet) :
    ∃ d documents, Documents.generate d config time.toTimestamp = .ok documents ∧
      (s.after env before).RoutesAgree env events n v d documents := by
  have hcalm : (s.after env before).Calm env time n := {
    toListable := (listable_of_empty hwriters hpolicies).after hdraws hfresh hbefore
    faults := hfaults
    connected := hconnected
    clock := hclock
    record := ⟨r, hr, hwell⟩ }
  exact hcalm.routesAgree hdraws hfresh hwide hv hconfig hquiet

end Session

namespace Sample

def previewRequest : Http.Request :=
  post "/policies/generate/1" "\x7b\x7d"

def saveRequest : Http.Request :=
  post "/policies" "\x7b\"dataset_id\": 1, \"config\": \x7b\x7d\x7d"

def listingRequest : Http.Request :=
  ⟨"GET", "/policies/by-dataset/1", "", [], ""⟩

theorem asksPreview : previewRequest.AsksPreview 1 (.obj []) :=
  ⟨"1", ⟨rfl, by decide +kernel⟩, rfl,
    submits_post (by decide) (by decide +kernel) (by decide +kernel)⟩

theorem asksToSave : saveRequest.AsksToSave 1 (.obj []) :=
  ⟨"", [("dataset_id", .int 1), ("config", .obj [])], .int 1, ⟨rfl, by decide +kernel⟩,
    submits_post (by decide) (by decide +kernel) (by decide +kernel), rfl, rfl, rfl⟩

theorem asksListing : listingRequest.AsksListing 1 :=
  ⟨"1", ⟨rfl, by decide +kernel⟩, rfl⟩

end Sample

namespace Session

/-- A preview gives the dataset its identifier. The policy that is saved then is listed with the
documents of the preview. -/
theorem routes_agree_previewed_first :
    let env := Sample.environment
    let s := (Sample.session (Sample.noon 0 0)).after env [Sample.save 2]
    let events : List Event :=
      [.request Sample.previewRequest, .request Sample.saveRequest, .request Sample.listingRequest]
    ∃ (documents : Documents) (preview : Http.Exchange),
      (s.step env (.request Sample.previewRequest)).1 = .exchange preview ∧
      preview.Carries 200 documents.toJson ∧
      ∃ entries : List PolicyEntry,
        ((s.after env (events.take 2)).reply env Sample.listingRequest).Carries 200
          (.arr (entries.map PolicyEntry.toJson)) ∧
        ∃ e ∈ entries, e.policy.documents = documents := by
  intro env s events
  have hrecord : s.catalog.findId? true 1 = some [("id", .int 1), ("name", .str "a")] := rfl
  have hwell : Record.WellFormed [("id", .int 1), ("name", .str "a")] 1 :=
    Record.wellFormed_of_equalsInt rfl (by decide) rfl ⟨"a", rfl⟩ ⟨"", rfl⟩ (Or.inl rfl)
  have hconfig : PolicyConfig.checkForm .requestBody (.obj []) = .accepted .initial := rfl
  obtain ⟨d, documents, -, hagree⟩ := routes_agree Sample.identifier_ne_empty
    (Server.freshIds_counting _) rfl rfl
    (by simp [Event.Alone, Sample.save]) rfl rfl rfl rfl hrecord hwell
    (show (Json.obj []).Limited from trivial) hconfig
    (show ∀ event ∈ events, event.Quiet by simp [events, Event.Quiet])
  have hpreview := hagree.preview [] Sample.previewRequest _ rfl Sample.asksPreview
  obtain ⟨id, entries, -, hlisted, hsame, hkept⟩ := hagree.saved [.request Sample.previewRequest]
    Sample.saveRequest [] Sample.listingRequest [] rfl Sample.asksToSave (by decide +kernel)
    Sample.asksListing
  obtain ⟨e, he, hid⟩ := hkept (by simp)
  exact ⟨documents, _, step_reply env s Sample.previewRequest, hpreview, entries, hlisted, e, he,
    hsame e he hid⟩

theorem status_reply_of_not_shallow {request : Http.Request} {argument : String}
    (hleads : request.LeadsTo .generate argument) (hbody : request.body ≠ "")
    (hjson : request.isJson = true) (hdeep : ¬ request.IsShallow) :
    (s.reply env request).response.status = 400 := by
  obtain ⟨e, hcontent, hlimit⟩ := Http.Request.content_of_not_shallow hbody hjson hdeep
  have hreport : Http.reportMalformed e = Http.unreadableBody := by
    rw [Http.reportMalformed, if_pos hlimit]
  simp only [reply, Http.serve, Http.respond, hleads.1, Http.dispatch, hleads.2, Http.answer,
    Http.onContent, hcontent, hreport]
  exact Http.status_decorate _ _ _

end Session

namespace Sample

/-- A form with another field, which is nested as deep as a body may be. -/
def deepFields : Fields :=
  [("x", Json.nest 959 .null)]

theorem nesting_deepFields : (Json.obj deepFields).nesting = Http.bodyNestingLimit := by
  simp [deepFields, Json.nesting, Json.nestingFields, Json.nesting_nest, Http.bodyNestingLimit]

theorem readable_deepFields : (Json.obj deepFields).Readable := by
  have hnest := Json.readable_nest (show Json.null.Readable from trivial) 959
  simpa [deepFields, Json.Readable, Json.ReadableFields] using hnest

theorem asksPreview_deepFields :
    (post "/policies/generate/1" (Json.obj deepFields).compactText).AsksPreview 1
      (.obj deepFields) := by
  refine ⟨"1", ⟨rfl, by decide +kernel⟩, rfl, Http.Request.submits_compactText rfl
    (isJson_post _ _) readable_deepFields (Nat.le_of_eq nesting_deepFields) ?_⟩
  have hnest := Json.not_mem_write_nest (v := .null) (fun _ _ h => by simpa [Json.write] using h)
    959 1 ['\x7d'] (by decide)
  have hname : '\\' ∉ Json.quote "x" := by decide
  simpa [Json.render, deepFields, Json.write, Json.writeFields, Json.Layout.lineBreak,
    Json.Layout.closing, Json.Layout.colon, hname] using hnest

end Sample

namespace Session

/-- A preview with as deep a body as can be is answered. Beside the dataset its form is one level
too deep, so that the same documents cannot be asked for in this way. -/
theorem deep_form_not_generated_inline :
    let env := Sample.environment
    let s := Sample.session (Sample.noon 0 0)
    let form := Json.obj Sample.deepFields
    let preview := Sample.post "/policies/generate/1" form.compactText
    let d : Dataset := ⟨1, "a", "", env.identifier 1⟩
    let fields : Fields := [("dataset", d.toJson), ("config", form)]
    let given := Sample.post "/policies/generate" (Json.obj fields).compactText
    PolicyConfig.checkForm .requestBody form = .accepted .initial ∧
      (preview.AsksPreview 1 form ∧
        ∃ documents : Documents, (s.reply env preview).Carries 200 documents.toJson) ∧
      (s.step env (.request preview)).2.catalog.Describes true 1 d ∧
      given.LeadsTo .generate "" ∧ given.Denotes (.obj fields) ∧
      ((s.step env (.request preview)).2.reply env given).response.status = 400 := by
  intro env s form preview d fields given
  have hconfig : PolicyConfig.checkForm .requestBody form = .accepted .initial := rfl
  have hasks : preview.AsksPreview 1 form := Sample.asksPreview_deepFields
  have hrecord : s.catalog.findId? true 1 = some [("id", .int 1), ("name", .str "a")] := rfl
  have hwell : Record.WellFormed [("id", .int 1), ("name", .str "a")] 1 :=
    Record.wellFormed_of_equalsInt rfl (by decide) rfl ⟨"a", rfl⟩ ⟨"", rfl⟩ (Or.inl rfl)
  have hcalm : s.Calm env (Sample.noon 0 0) 1 := {
    toListable := listable_of_empty rfl rfl
    faults := rfl
    connected := rfl
    clock := rfl
    record := ⟨_, hrecord, hwell⟩ }
  obtain ⟨-, documents, -, -, hcarries⟩ :=
    hcalm.reply_preview Sample.identifier_ne_empty rfl hasks hconfig
  have hdescribes : (s.step env (.request preview)).2.catalog.Describes true 1 d := by
    have htask : (Event.request preview).task? = some (.generateFor 1 .initial) :=
      hasks.task?_eq hconfig
    rw [step_task htask]
    exact ⟨by decide +kernel, by decide⟩
  have hread : (Json.obj fields).Readable := by
    have hd : d.toJson.Readable := Dataset.readable_toJson rfl
    have hform : form.Readable := Sample.readable_deepFields
    simp [fields, Json.Readable, Json.ReadableFields, hd, hform]
  have hdeep : ¬ (Json.obj fields).nesting ≤ Http.bodyNestingLimit := by
    have hform : form.nesting = Http.bodyNestingLimit := Sample.nesting_deepFields
    simp only [fields, Json.nesting, Json.nestingFields, hform]
    omega
  have hleads : given.LeadsTo .generate "" := ⟨rfl, by decide +kernel⟩
  have hdenotes : given.Denotes (.obj fields) :=
    Http.Request.denotes_compactText rfl (Sample.isJson_post _ _) hread
  refine ⟨hconfig, ⟨hasks, documents, hcarries⟩, hdescribes, hleads, hdenotes, ?_⟩
  refine status_reply_of_not_shallow hleads hdenotes.nonempty hdenotes.json fun hshallow => ?_
  exact hdeep ((Http.Request.isShallow_compactText_iff rfl hread).mp hshallow)

end Session
end UsagePolicy
