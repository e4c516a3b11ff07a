import UsagePolicy.Identifier
import UsagePolicy.Proofs.Service.Connection
import UsagePolicy.Proofs.Store.Servers

/-!
# The history of the stored policies

While nobody else writes, every event either leaves the stored policies as they are, or is a save
that adds one policy under the next id, or a deletion that removes the one policy with an id. A run
is told by the deeds in it: which policies were saved and which ids were deleted.
-/
namespace UsagePolicy

variable {env : Environment} {given : String → Prop} {s t : Session} {event : Event}

/-- A policy that was saved: its id, the request to save it, and the policy that the request asked
for, by the catalog and the clock at that time. -/
structure Receipt where
  id : PolicyId
  request : SaveRequest
  policy : Option SavedPolicy

/-- What an event has done to the stored policies. -/
inductive Deed where
  | saved (receipt : Receipt)
  | deleted (id : PolicyId)

/-- The event lets no other writer in. -/
def Event.Alone : Event → Prop
  | expectWriter _ => False
  | _ => True

def Event.listing (datasetId : Int) : Event := .call (.listPolicies datasetId)

/-- A call to delete the policy with the id that a text stands for. -/
def Event.deletion (text : String) : Event := .call (.deletePolicy (.text text))

namespace Session

/-- Nobody else writes, and identifiers in the catalog are texts where they are given. -/
structure Undisturbed (s : Session) : Prop where
  writers : s.writers = []
  plainUuids : s.catalog.PlainUuids

theorem Undisturbed.completed {arrays : Bool} (h : s.Undisturbed)
    (hc : s.Completed arrays given t) : t.Undisturbed := by
  obtain ⟨hwriters, hcatalog⟩ := hc h.writers
  exact ⟨hwriters, hcatalog.plainUuids h.plainUuids⟩

/-- What an event does to the stored policies, told by what its task has come to. -/
def deed? (env : Environment) (s : Session) (event : Event) : Option Deed :=
  match event.task? with
  | some (.save request) =>
    match s.outcome env (.save request) with
    | .ok (.saved id) =>
      some (.saved ⟨id, request, (s.step env event).2.policyFor? env.server.arrays request⟩)
    | _ => none
  | some (.delete reference) =>
    match s.outcome env (.delete reference) with
    | .ok _ => (reference.id? env).map .deleted
    | .error _ => none
  | _ => none

def deeds (env : Environment) (s : Session) : List Event → List Deed
  | [] => []
  | event :: rest => (s.deed? env event).toList ++ (s.step env event).2.deeds env rest

theorem completed_step (hgiven : ¬ given "") (hdraws : ∀ n, given (env.identifier n))
    (halone : event.Alone) (s : Session) :
    s.Completed env.server.arrays given (s.step env event).2 := by
  have hcleared : s.Completed env.server.arrays given s.cleared := CatalogKept.completed ⟨rfl, rfl⟩
  cases htask : event.task? with
  | some task =>
    rw [step_task htask]
    exact hcleared.trans hgiven
      (Operation.Completes.completed_run hgiven (task.performs_completes hdraws) s.cleared)
  | none =>
    rw [step_no_task htask]
    cases event with
    | expectWriter writer => exact halone.elim
    | request _ | call _ => exact hcleared
    | setClock _ | expectFault _ _ => exact CatalogKept.completed ⟨rfl, rfl⟩

/-- The stored policies are as they were, and the service has not been disconnected. -/
structure Kept (s t : Session) : Prop where
  policies : t.policies = s.policies
  inserted : t.inserted = s.inserted
  connected : s.handle.isSome = true → t.handle.isSome = true

theorem Untouched.kept (h : s.Untouched t) : s.Kept t :=
  ⟨h.policies, h.inserted, fun hconnected => h.handle ▸ hconnected⟩

/-- A policy was saved as its request asked for it. -/
structure Saved (env : Environment) (s : Session) (request : SaveRequest) (p : SavedPolicy)
    (t : Session) : Prop where
  gains : s.Gains env p.toFields t
  policyFor : t.policyFor? env.server.arrays request = some p
  dataset : p.dataset.id = request.datasetId
  identifier : p.dataset.uuid ≠ ""

structure Deleted (s : Session) (id : PolicyId) (t : Session) : Prop where
  found : ∃ stored ∈ s.policies, stored.id = id
  policies : t.policies = s.policies.eraseP (·.id == id)
  inserted : t.inserted = s.inserted
  connection : s.SameConnection t

theorem step_of_run_save {request : SaveRequest} (htask : event.task? = some (.save request))
    {result : Except Failure PolicyId}
    (hrun : (Policies.save request).run env s.cleared = (result, t)) :
    (s.step env event).2 = t ∧ s.deed? env event =
      result.toOption.map fun id =>
        .saved ⟨id, request, t.policyFor? env.server.arrays request⟩ := by
  obtain ⟨hstep, houtcome⟩ := step_of_run htask rfl hrun
  refine ⟨hstep, ?_⟩
  unfold deed?
  rw [htask]
  simp only [houtcome, hstep]
  cases result <;> rfl

theorem step_save (hgiven : ¬ given "") (hdraws : ∀ n, given (env.identifier n))
    (hs : s.Undisturbed) {request : SaveRequest} (htask : event.task? = some (.save request)) :
    (s.deed? env event = none ∧ s.Kept (s.step env event).2) ∨
      ∃ p, s.deed? env event = some (.saved ⟨env.server.policyId s.inserted, request, some p⟩) ∧
        s.Saved env request p (s.step env event).2 := by
  have hplain : ∀ record, s.catalog.findId? env.server.arrays request.datasetId = some record →
      record.HasPlainUuid :=
    fun record hrecord => hs.plainUuids record (List.mem_of_find?_eq_some hrecord)
  rcases Policies.run_save hgiven hdraws (s := s.cleared) hs.writers hplain with
    ⟨failure, t, hrun, ht⟩ | ⟨p, t, hrun, hgains, hpolicy, hid, hne⟩
  · obtain ⟨hstep, hdeed⟩ := step_of_run_save htask hrun
    rw [hstep, hdeed]
    exact Or.inl ⟨rfl, ht.policies, ht.inserted, fun h => ht.handle ▸ h⟩
  · obtain ⟨hstep, hdeed⟩ := step_of_run_save htask hrun
    rw [hstep, hdeed, hpolicy]
    exact Or.inr
      ⟨p, rfl, ⟨hgains.policies, hgains.inserted, hgains.client, hgains.handle, hgains.clock⟩,
      hpolicy, hid, hne⟩

theorem outcome_save_cases {request : SaveRequest} (htask : event.task? = some (.save request))
    (env : Environment) (s : Session) :
    ((∃ failure, s.outcome env (.save request) = .error failure) ∧
      s.Kept (s.step env event).2) ∨
    ∃ document, s.outcome env (.save request) = .ok (.saved (env.server.policyId s.inserted)) ∧
      s.Gains env document (s.step env event).2 := by
  rcases Policies.run_save_cases env request s.cleared with
    ⟨failure, t, hrun, ht⟩ | ⟨c, u, p, written, t, -, -, -, -, hrun, ht⟩
  · obtain ⟨hstep, houtcome⟩ := step_of_run htask rfl hrun
    rw [hstep, houtcome]
    exact Or.inl ⟨⟨failure, rfl⟩, ht.policies, ht.inserted, fun h => ht.handle ▸ h⟩
  · obtain ⟨hstep, houtcome⟩ := step_of_run htask rfl hrun
    rw [hstep, houtcome]
    exact Or.inr
      ⟨p.fieldsFor written, rfl, ht.policies, ht.inserted, ht.client, ht.handle, ht.clock⟩

theorem outcome_delete_cases {reference : Policies.Reference}
    (htask : event.task? = some (.delete reference)) (env : Environment) (s : Session) :
    ((∃ failure, s.outcome env (.delete reference) = .error failure) ∧
      s.Kept (s.step env event).2) ∨
    ∃ id, reference.id? env = some id ∧ s.outcome env (.delete reference) = .ok .deleted ∧
      s.Deleted id (s.step env event).2 := by
  rcases Policies.run_delete_cases env reference s.cleared with
    ⟨failure, t, hrun, ht⟩ | ⟨id, hid, hfound, hrun⟩
  · obtain ⟨hstep, houtcome⟩ := step_of_run htask rfl hrun
    rw [hstep, houtcome]
    exact Or.inl ⟨⟨failure, rfl⟩, ht.policies, ht.inserted, fun h => ht.handle ▸ h⟩
  · obtain ⟨hstep, houtcome⟩ := step_of_run htask rfl hrun
    rw [hstep, houtcome]
    exact Or.inr ⟨id, hid, rfl, hfound, rfl, rfl, rfl, rfl⟩

theorem step_delete {reference : Policies.Reference}
    (htask : event.task? = some (.delete reference)) (env : Environment) (s : Session) :
    (s.deed? env event = none ∧ s.Kept (s.step env event).2) ∨
      ∃ id, s.deed? env event = some (.deleted id) ∧ s.Deleted id (s.step env event).2 := by
  rcases outcome_delete_cases htask env s with
    ⟨⟨failure, houtcome⟩, hkept⟩ | ⟨id, hid, houtcome, hdeleted⟩
  · exact Or.inl ⟨by simp [deed?, htask, houtcome], hkept⟩
  · exact Or.inr ⟨id, by simp [deed?, htask, houtcome, hid], hdeleted⟩

theorem step_reads (env : Environment) {task : Task} (htask : event.task? = some task)
    (h : task.OnlyReads) (s : Session) : s.Kept (s.step env event).2 := by
  have hreads := h.untouched_run env s.cleared
  rw [step_task htask]
  exact ⟨hreads.policies, hreads.inserted, fun h => hreads.handle ▸ h⟩

theorem run_stop (s : Session) : (Task.stop.program.run env s).2.policies = s.policies ∧
    (Task.stop.program.run env s).2.inserted = s.inserted := by
  obtain ⟨catalog, policies, client, handle, clock, drawn, inserted, faults, writers, log⟩ := s
  cases client <;> exact ⟨rfl, rfl⟩

theorem step_other (env : Environment) (s : Session)
    (hsave : ∀ request, event.task? ≠ some (.save request))
    (hdelete : ∀ reference, event.task? ≠ some (.delete reference)) :
    s.deed? env event = none ∧ (s.step env event).2.policies = s.policies ∧
      (s.step env event).2.inserted = s.inserted := by
  constructor
  · unfold deed?
    split
    · next request htask => exact absurd htask (hsave request)
    · next reference htask => exact absurd htask (hdelete reference)
    · rfl
  · cases htask : event.task? with
    | none =>
      rw [step_no_task htask]
      cases event <;> exact ⟨rfl, rfl⟩
    | some task =>
      cases task with
      | save request => exact absurd htask (hsave request)
      | delete reference => exact absurd htask (hdelete reference)
      | start =>
        rw [step_task htask]
        exact ⟨rfl, rfl⟩
      | stop =>
        rw [step_task htask]
        exact run_stop s.cleared
      | database | listDatasets | findDataset | generate | generateFor | listPolicies =>
        have hkept := step_reads env htask trivial s
        exact ⟨hkept.policies, hkept.inserted⟩

/-- An event leaves the stored policies as they are, saves one, or deletes one. -/
theorem step_cases (hgiven : ¬ given "") (hdraws : ∀ n, given (env.identifier n))
    (hs : s.Undisturbed) (event : Event) :
    (s.deed? env event = none ∧ (s.step env event).2.policies = s.policies ∧
      (s.step env event).2.inserted = s.inserted) ∨
    (∃ request p, event.task? = some (.save request) ∧
      s.deed? env event = some (.saved ⟨env.server.policyId s.inserted, request, some p⟩) ∧
      s.Saved env request p (s.step env event).2) ∨
    ∃ id, s.deed? env event = some (.deleted id) ∧ s.Deleted id (s.step env event).2 := by
  by_cases hsave : ∃ request, event.task? = some (.save request)
  · obtain ⟨request, htask⟩ := hsave
    rcases step_save hgiven hdraws hs htask with ⟨hdeed, hkept⟩ | ⟨p, hdeed, hsaved⟩
    · exact Or.inl ⟨hdeed, hkept.policies, hkept.inserted⟩
    · exact Or.inr (Or.inl ⟨request, p, htask, hdeed, hsaved⟩)
  by_cases hdelete : ∃ reference, event.task? = some (.delete reference)
  · obtain ⟨reference, htask⟩ := hdelete
    rcases step_delete htask env s with ⟨hdeed, hkept⟩ | ⟨id, hdeed, hdeleted⟩
    · exact Or.inl ⟨hdeed, hkept.policies, hkept.inserted⟩
    · exact Or.inr (Or.inr ⟨id, hdeed, hdeleted⟩)
  exact Or.inl (step_other env s (fun request h => hsave ⟨request, h⟩)
    fun reference h => hdelete ⟨reference, h⟩)

/-- A run that lets no writer in at most completes the catalog. -/
theorem completed_after (hgiven : ¬ given "") (hdraws : ∀ n, given (env.identifier n))
    {events : List Event} (halone : ∀ event ∈ events, event.Alone) (s : Session) :
    s.Completed env.server.arrays given (s.after env events) := by
  induction events generalizing s with
  | nil => exact s.completed_refl
  | cons event rest ih =>
    have hevent := completed_step hgiven hdraws (halone event (by simp)) s
    exact hevent.trans hgiven (ih (fun e he => halone e (by simp [he])) _)

theorem invariant_after {P : Session → Prop} {events : List Event}
    (hstep : ∀ s, ∀ event ∈ events, P s → P (s.step env event).2) (h : P s) :
    P (s.after env events) := by
  induction events generalizing s with
  | nil => exact h
  | cons event rest ih =>
    exact ih (fun s e he => hstep s e (by simp [he])) (hstep s event (by simp) h)

theorem after_of_step {P : Session → Prop} (hgiven : ¬ given "")
    (hdraws : ∀ n, given (env.identifier n)) {events : List Event}
    (hstep : ∀ s, ∀ event ∈ events, s.Undisturbed → P s → P (s.step env event).2)
    (hs : s.Undisturbed) (halone : ∀ event ∈ events, event.Alone) (h : P s) :
    (s.after env events).Undisturbed ∧ P (s.after env events) := by
  refine invariant_after (P := fun s => s.Undisturbed ∧ P s) ?_ ⟨hs, h⟩
  rintro s event hevent ⟨hs, h⟩
  exact ⟨hs.completed (completed_step hgiven hdraws (halone event hevent) s),
    hstep s event hevent hs h⟩

theorem undisturbed_after (hgiven : ¬ given "") (hdraws : ∀ n, given (env.identifier n))
    (hs : s.Undisturbed) {events : List Event} (halone : ∀ event ∈ events, event.Alone) :
    (s.after env events).Undisturbed :=
  hs.completed (completed_after hgiven hdraws halone s)

theorem connected_after (env : Environment) {events : List Event}
    (hstop : ∀ event ∈ events, event.opens? ≠ some false)
    (hconnected : s.handle.isSome = true) :
    (s.after env events).handle.isSome = true :=
  invariant_after (P := fun s => s.handle.isSome = true)
    (fun _ event hevent => connected_step env (hstop event hevent)) hconnected

end Session

namespace Sample

/-- Identifiers are made of sixteen equal bytes, no origin is admitted, and the database numbers the
ids of policies. -/
def environment : Environment :=
  ⟨.standard, [], fun n => Identifier.ofBytes (Vector.replicate 16 (UInt8.ofNat n)),
    .counting 0x665f1c2e9b1e8a3d4c2b1a00⟩

theorem identifier_ne_empty (n : Nat) : environment.identifier n ≠ "" :=
  Identifier.ofBytes_ne_empty _

def noon (second : Fin 60) (microsecond : Fin 1000000) : UniversalTime :=
  ⟨⟨2024, 3, 1, by decide, by decide⟩,
    { TimeOfDay.midnight with hour := ⟨12, by decide⟩, second, microsecond }⟩

/-- A session with two records without identifiers and without stored policies. -/
def session (time : UniversalTime) : Session :=
  .initial [[("id", .int 1), ("name", .str "a")], [("id", .int 2), ("name", .str "b")]] []
    (some .standard) (.ok time)

theorem undisturbed_session (time : UniversalTime) : (session time).Undisturbed := by
  refine ⟨rfl, fun r hr => ?_⟩
  simp only [session, Session.initial, List.mem_cons, List.not_mem_nil, or_false] at hr
  rcases hr with rfl | rfl <;> exact Or.inl rfl

def save (datasetId : Int) : Event :=
  .call (.savePolicy (.obj [("dataset_id", .int datasetId), ("config", .obj [])]))

end Sample
end UsagePolicy
