import UsagePolicy.Proofs.Policies.Frame
import UsagePolicy.Proofs.Program.Failures

/-!
# Errors leave what is stored alone

An event that is answered with an error has not changed the stored policies. If it was turned down,
for its arguments or for a record or a document that cannot be read, it has not touched the catalog
either, not even for records that come before a malformed one: identifiers are written only once
every record has been converted, and from then on a task fails for the database, the clock or a
value that is nested too deep. An insertion that fails ends its save with a refusal of its own. All
this holds in every session, among any faults and writers that wait.
-/
namespace UsagePolicy

variable {env : Environment} {s t : Session} {event : Event}

open Program

/-- The failure turns down what was asked for: it is a refusal with one of these statuses, or what
was read lacks a field or is invalid. -/
def Failure.TurnsDown : Failure → Prop
  | missingField _ | invalid _ _ => True
  | refused refusal => refusal.status ∈ [400, 404, 405, 422]
  | _ => False

/-- The failure may come after identifiers have been written. -/
def Failure.IsLate (failure : Failure) : Prop :=
  ¬ failure.TurnsDown

theorem Failure.isLate_saveFailed (fault : SaveFault) :
    (refused (.saveFailed fault)).IsLate := by
  simp [IsLate, TurnsDown, Refusal.status]

namespace Program

variable {α β : Type}

/-- If the program turns down what was asked for, it has left the catalog alone. -/
def TurnsDownFirst (env : Environment) (p : Program α) : Prop :=
  ∀ s failure t, p.run env s = (.error failure, t) → failure.TurnsDown → s.CatalogKept t

theorem Performs.catalogKept {p : Program α} (h : p.Performs env Operation.AssignsNone)
    (s : Session) : s.CatalogKept (p.run env s).2 :=
  h.run_related Session.catalogKept_refl (fun _ _ _ => Session.CatalogKept.trans)
    (fun _ t hop => Operation.catalogKept_perform hop env t) s

theorem Performs.assignsNone {p : Program α} (h : p.Performs env (Operation.Reads fun _ => False)) :
    p.Performs env Operation.AssignsNone :=
  h.allow fun _ => Operation.Reads.completes

theorem Performs.turnsDownFirst {p : Program α} (h : p.Performs env Operation.AssignsNone) :
    p.TurnsDownFirst env := by
  intro s failure t hrun _
  have hkept := h.catalogKept s
  rwa [hrun] at hkept

theorem FailsWith.turnsDownFirst {p : Program α} (h : p.FailsWith env Failure.IsLate) :
    p.TurnsDownFirst env :=
  fun s failure t hrun hdown => absurd hdown (h s failure t hrun)

theorem Performs.bind_turnsDownFirst {p : Program α} {f : α → Program β}
    (h : p.Performs env Operation.AssignsNone) (hf : ∀ a, (f a).TurnsDownFirst env) :
    (p >>= f).TurnsDownFirst env := by
  intro s failure t hrun hdown
  rcases run_seq_eq_error.mp hrun with hrun | ⟨a, u, hp, hrun⟩
  · exact h.turnsDownFirst s failure t hrun hdown
  · have hkept := h.catalogKept s
    rw [hp] at hkept
    exact hkept.trans (hf a u failure t hrun hdown)

theorem TurnsDownFirst.bind {p : Program α} {f : α → Program β} (h : p.TurnsDownFirst env)
    (hf : ∀ s a t, p.run env s = (.ok a, t) → (f a).FailsWith env Failure.IsLate) :
    (p >>= f).TurnsDownFirst env := by
  intro s failure t hrun hdown
  rcases run_seq_eq_error.mp hrun with hrun | ⟨a, u, hp, hrun⟩
  · exact h s failure t hrun hdown
  · exact absurd hdown (hf s a u hp u failure t hrun)

end Program

namespace Datasets

theorem failsWith_requireConnection : requireConnection.FailsWith env Failure.IsLate := by
  refine (failsWith_operation _).bind fun connection => ?_
  split
  · exact failsWith_pure ()
  · exact failsWith_failed id

theorem failsWith_access {α : Type} (reply : Except DatabaseError α) :
    (access reply).FailsWith env Failure.IsLate :=
  failsWith_ofExcept (fun _ => id) reply

theorem failsWith_settle (record : Record) (d : Dataset) :
    (settle record d).FailsWith env Failure.IsLate := by
  unfold settle
  split
  · refine (failsWith_operation _).bind fun reply => ?_
    refine (failsWith_access reply).bind fun assigned => ?_
    split
    · exact failsWith_pure _
    · refine (failsWith_operation _).bind fun reply => ?_
      exact (failsWith_access reply).bind fun stored => failsWith_pure _
  · exact failsWith_pure _

theorem failsWith_present (d : CatalogDataset) : (present d).FailsWith env Failure.IsLate := by
  unfold present
  split
  · exact failsWith_pure _
  · exact failsWith_failed id

theorem performs_convertAll (records : List Record) :
    (convertAll records).Performs env Operation.AssignsNone := by
  refine (performs_forEach performs_convert records).allow ?_
  rintro _ rfl
  trivial

/-- All records are converted before an identifier is written for any of them. -/
theorem turnsDownFirst_ingest (records : List Record) : (ingest records).TurnsDownFirst env := by
  apply (performs_convertAll records).bind_turnsDownFirst
  intro ds
  refine FailsWith.turnsDownFirst (failsWith_requireConnection.bind fun _ => ?_)
  exact failsWith_forEach (fun (record, d) => failsWith_settle record d) _

theorem turnsDownFirst_list : list.TurnsDownFirst env := by
  apply performs_requireConnection.assignsNone.bind_turnsDownFirst
  intro _
  apply (performs_operation trivial).bind_turnsDownFirst
  intro reply
  exact (performs_ofExcept _ reply).bind_turnsDownFirst turnsDownFirst_ingest

theorem turnsDownFirst_find (id : Int) : (find id).TurnsDownFirst env := by
  apply performs_requireConnection.assignsNone.bind_turnsDownFirst
  intro _
  apply (performs_operation trivial).bind_turnsDownFirst
  intro reply
  apply (performs_ofExcept _ reply).bind_turnsDownFirst
  intro found
  split
  · exact (performs_failed _).turnsDownFirst
  · next record =>
    apply (turnsDownFirst_ingest [record]).bind
    intro s ds t hrun
    -- One record gives one dataset, so it cannot be missing once it has been ingested.
    obtain ⟨-, -, c, -, -, rfl⟩ := run_ingest_singleton hrun
    exact failsWith_pure c

end Datasets

namespace Policies

theorem failsWith_now : now.FailsWith env Failure.IsLate := by
  refine (failsWith_operation _).bind fun reading => ?_
  exact (failsWith_ofExcept (fun _ => id) reading).bind fun time => failsWith_pure _

theorem isLate_failure (fault : GenerationFault) : fault.failure.IsLate := by
  cases fault <;> exact id

theorem failsWith_generate (d : Dataset) (config : PolicyConfig) (issued : Option Timestamp) :
    (generate d config issued).FailsWith env Failure.IsLate := by
  unfold generate
  cases issued with
  | none => exact failsWith_now.bind fun time => failsWith_ofExcept isLate_failure _
  | some time => exact (failsWith_pure time).bind fun _ => failsWith_ofExcept isLate_failure _

theorem failsWith_saveOn (c : CatalogDataset) (config : PolicyConfig) :
    (saveOn c config).FailsWith env Failure.IsLate := by
  refine (failsWith_generate _ _ _).bind fun documents => ?_
  refine failsWith_now.bind fun createdAt => ?_
  refine Datasets.failsWith_requireConnection.bind fun _ => ?_
  refine FailsWith.bind ?_ fun stored => ?_
  · unfold store
    split
    · exact failsWith_pure _
    · exact (failsWith_operation _).bind fun stored => failsWith_pure _
  · cases stored with
    | error fault =>
      refine (failsWith_operation _).bind fun _ => ?_
      exact failsWith_failed (Failure.isLate_saveFailed fault)
    | ok id => exact (failsWith_operation _).bind fun _ => failsWith_pure id

theorem mem_performed_seq_of_reads {α β : Type} {p : Program α} {f : α → Program β}
    {document : Fields} {u : Session} (h : p.Performs env (Operation.Reads fun _ => True))
    (hmem : (.insertPolicy document, u) ∈ (p >>= f).performed env s) :
    ∃ a t, p.run env s = (.ok a, t) ∧ (.insertPolicy document, u) ∈ (f a).performed env t := by
  rcases mem_performed_seq.mp hmem with hmem | hmem
  · exact (h.of_mem_performed hmem).elim
  · exact hmem

theorem run_store_of_insertion {c : CatalogDataset} {p : SavedPolicy} {document : Fields}
    {u : Session} {error : DatabaseError}
    (hmem : (.insertPolicy document, u) ∈ (store c p).performed env s)
    (herror : ((Operation.insertPolicy document).perform env u).1 = .error error) :
    ∃ t, (store c p).run env s = (.ok (.error (.database error)), t) := by
  unfold store at hmem ⊢
  cases hwritten : c.written? with
  | none =>
    rw [hwritten] at hmem
    cases hmem
  | some written =>
    rw [hwritten] at hmem
    change (_, _) ∈ [(Operation.insertPolicy (p.fieldsFor written), s)] at hmem
    rw [List.mem_singleton, Prod.mk.injEq, Operation.insertPolicy.injEq] at hmem
    obtain ⟨rfl, rfl⟩ := hmem
    refine ⟨_, Prod.ext ?_ rfl⟩
    change Except.ok (((Operation.insertPolicy (p.fieldsFor written)).perform env u).1.mapError
      SaveFault.database) = _
    rw [herror]
    rfl

theorem run_save_of_insertion {request : SaveRequest} {document : Fields} {u : Session}
    {error : DatabaseError}
    (hmem : (.insertPolicy document, u) ∈ (save request).performed env s)
    (herror : ((Operation.insertPolicy document).perform env u).1 = .error error) :
    ((save request).run env s).1 = .error (.refused (.saveFailed (.database error))) := by
  obtain ⟨c, s₁, hfind, hmem⟩ :=
    mem_performed_seq_of_reads (Datasets.performs_find (fun _ => trivial) _) hmem
  obtain ⟨documents, s₂, hgenerate, hmem⟩ :=
    mem_performed_seq_of_reads (performs_generate trivial _ _ _) hmem
  obtain ⟨createdAt, s₃, hnow, hmem⟩ := mem_performed_seq_of_reads (performs_now trivial) hmem
  obtain ⟨_, s₄, hconnected, hmem⟩ :=
    mem_performed_seq_of_reads Datasets.performs_requireConnection hmem
  have hstored : ∃ t, (store c ⟨c.dataset, request.config, documents, createdAt⟩).run env s₄ =
      (.ok (.error (.database error)), t) := by
    rcases mem_performed_seq.mp hmem with hmem | ⟨stored, s₅, hstore, hmem⟩
    · exact run_store_of_insertion hmem herror
    · -- The report that follows writes to the log alone.
      exfalso
      have hreport : (report c.id request.config.type stored).Performs env
          (Operation.Reads fun _ => True) := by
        cases stored with
        | error fault => exact (performs_operation trivial).bind fun _ => performs_failed _
        | ok id => exact (performs_operation trivial).bind fun _ => performs_pure _
      exact hreport.of_mem_performed hmem
  obtain ⟨t, hstore⟩ := hstored
  rw [save, run_seq_of_ok hfind, saveOn, run_seq_of_ok hgenerate, run_seq_of_ok hnow,
    run_seq_of_ok hconnected, run_seq_of_ok hstore]
  rfl

end Policies

namespace Task

/-- Every task turns down what it is asked for before it writes an identifier. -/
theorem turnsDownFirst_program (task : Task) : task.program.TurnsDownFirst env := by
  cases task with
  | start => exact (Lifecycle.performs_start.bind fun _ => performs_pure _).turnsDownFirst
  | stop => exact (Lifecycle.performs_stop.bind fun _ => performs_pure _).turnsDownFirst
  | database =>
    exact (Lifecycle.performs_database.assignsNone.bind fun _ => performs_pure _).turnsDownFirst
  | listDatasets =>
    refine Datasets.turnsDownFirst_list.bind fun _ ds _ _ => ?_
    exact (failsWith_forEach Datasets.failsWith_present ds).bind fun _ => failsWith_pure _
  | findDataset id =>
    refine (Datasets.turnsDownFirst_find id).bind fun _ d _ _ => ?_
    exact (Datasets.failsWith_present d).bind fun _ => failsWith_pure _
  | generate request =>
    refine FailsWith.turnsDownFirst ?_
    exact (Policies.failsWith_generate _ _ _).bind fun _ => failsWith_pure _
  | generateFor datasetId config =>
    refine TurnsDownFirst.bind ?_ fun _ documents _ _ => failsWith_pure _
    exact (Datasets.turnsDownFirst_find datasetId).bind fun _ d _ _ =>
      Policies.failsWith_generate _ _ _
  | save request =>
    refine TurnsDownFirst.bind ?_ fun _ id _ _ => failsWith_pure _
    exact (Datasets.turnsDownFirst_find request.datasetId).bind fun _ c _ _ =>
      Policies.failsWith_saveOn c request.config
  | listPolicies datasetId =>
    exact ((Policies.performs_list datasetId).assignsNone.bind fun _ =>
      performs_pure _).turnsDownFirst
  | delete reference =>
    exact ((Policies.performs_delete reference).bind fun _ => performs_pure _).turnsDownFirst

end Task

/-- The answer turns its event down: a client gets one of these statuses or a failure behind its
answer does so, and a call fails that way. -/
def Answer.TurnedDown : Answer → Prop
  | .exchange reached => reached.response.status ∈ [400, 404, 405, 422] ∨
      ∃ failure, reached.raised = some failure ∧ failure.TurnsDown
  | .outcome result => ∃ failure, result = .error failure ∧ failure.TurnsDown
  | .noted => False

/-- The answer is this refusal, which a client gets by its status and its detail. -/
def Answer.Refuses (refusal : Refusal) : Answer → Prop
  | .exchange reached => reached.response.status = refusal.status ∧
      reached.response.body = (Json.obj [("detail", .str refusal.detail)]).compactText
  | .outcome result => result = .error (.refused refusal)
  | .noted => False

theorem Answer.Refuses.fails {answer : Answer} {refusal : Refusal} (h : answer.Refuses refusal) :
    answer.Fails := by
  cases answer with
  | exchange reached =>
    have hstatus : reached.response.status = refusal.status := h.1
    have hge := (Failure.refused refusal).status_ge
    change 400 ≤ reached.response.status
    rwa [hstatus]
  | outcome result => exact ⟨_, h⟩
  | noted => exact h

namespace Session

theorem outcome_of_turnedDown {task : Task} (htask : event.task? = some task)
    (h : (s.step env event).1.TurnedDown) :
    ∃ failure, s.outcome env task = .error failure ∧ failure.TurnsDown := by
  cases event with
  | request request =>
    rw [step_request htask] at h
    cases houtcome : s.outcome env task with
    | ok r =>
      rw [houtcome] at h
      rcases h with hstatus | ⟨failure, hraised, -⟩
      · rw [Http.exchange, Http.status_decorate] at hstatus
        rcases Http.status_render r with hrender | hrender <;> simp [hrender] at hstatus
      · cases hraised
    | error failure =>
      rw [houtcome] at h
      refine ⟨failure, rfl, ?_⟩
      rcases h with hstatus | ⟨raised, hraised, hdown⟩
      · rw [Http.status_exchange_error] at hstatus
        cases failure with
        | refused refusal => exact hstatus
        | _ => simp [Failure.status] at hstatus
      · cases failure with
        | refused refusal => cases hraised
        | _ =>
          cases hraised
          exact hdown
  | call call =>
    rw [step_call htask] at h
    exact h
  | setClock reading | expectFault access message | expectWriter writer => cases htask

theorem catalog_of_turnedDown (h : (s.step env event).1.TurnedDown) :
    (s.step env event).2.catalog = s.catalog := by
  cases htask : event.task? with
  | some task =>
    obtain ⟨failure, houtcome, hdown⟩ := outcome_of_turnedDown htask h
    rw [step_task htask]
    exact (task.turnsDownFirst_program s.cleared failure _ (Prod.ext houtcome rfl) hdown).catalog
  | none =>
    rw [step_no_task htask]
    cases event <;> rfl

/-- A save whose insertion fails answers with the refusal for it. -/
theorem refuses_of_insertion {request : SaveRequest} (htask : event.task? = some (.save request))
    {document : Fields} {u : Session} {error : DatabaseError}
    (hmem : (.insertPolicy document, u) ∈ (Policies.save request).performed env s.cleared)
    (herror : ((Operation.insertPolicy document).perform env u).1 = .error error) :
    (s.step env event).1.Refuses (.saveFailed (.database error)) := by
  have hrun := Policies.run_save_of_insertion hmem herror
  obtain ⟨-, houtcome⟩ := step_of_run htask rfl (Prod.ext hrun rfl)
  cases event with
  | request request =>
    rw [step_request htask, houtcome]
    exact ⟨Http.status_decorate _ request _, Http.body_decorate _ request _⟩
  | call call =>
    rw [step_call htask, houtcome]
    rfl
  | setClock reading | expectFault access message | expectWriter writer => cases htask

/-- Whatever the session, an event that is answered with an error leaves the stored policies as they
are. One that is turned down leaves the catalog as it is as well. A save whose insertion fails is
answered with a refusal that says why, and nothing is stored. -/
theorem errors_leave_stores (env : Environment) (s : Session) (event : Event) :
    ((s.step env event).1.Fails → (s.step env event).2.policies = s.policies) ∧
    ((s.step env event).1.TurnedDown → (s.step env event).2.catalog = s.catalog) ∧
    ∀ request, event.task? = some (.save request) → ∀ document u error,
      (.insertPolicy document, u) ∈ (Policies.save request).performed env s.cleared →
      ((Operation.insertPolicy document).perform env u).1 = .error error →
        (s.step env event).1.Refuses (.saveFailed (.database error)) ∧
          (s.step env event).2.policies = s.policies := by
  refine ⟨policies_of_fails, catalog_of_turnedDown, ?_⟩
  intro request htask document u error hmem herror
  have hrefuses := refuses_of_insertion htask hmem herror
  exact ⟨hrefuses, policies_of_fails hrefuses.fails⟩

/-- A listing meets a record without a name and writes no identifier for the record before it. A
save of that other record meets a fault when its policy is inserted. -/
theorem errors_leave_stores_malformed_and_unsaved :
    let env := Sample.environment
    let s := { Sample.session (Sample.noon 0 0) with
      catalog := [[("id", .int 1), ("name", .str "a")], [("id", .int 2)]]
      faults := [(.insert, "down")] }
    (s.step env (.call .listDatasets)).2.catalog = s.catalog ∧
      (s.step env (Sample.save 1)).1.Refuses (.saveFailed (.database (.fault "down"))) ∧
      (s.step env (Sample.save 1)).2.policies = [] := by
  intro env s
  obtain ⟨-, hdown, -⟩ := errors_leave_stores env s (.call .listDatasets)
  obtain ⟨-, -, hinsert⟩ := errors_leave_stores env s (Sample.save 1)
  refine ⟨hdown ⟨.missingField "name", rfl, trivial⟩, ?_⟩
  exact hinsert _ rfl _ _ _ (List.mem_of_getElem? (i := 8) rfl) rfl

end Session
end UsagePolicy
