import UsagePolicy.Proofs.Datasets.Lookup
import UsagePolicy.Service.Policies

/-!
# Saving policies

Documents are generated by reading the clock alone. A policy is saved for a dataset that has been
read, and nothing but its insertion changes what is stored. What a request has saved can be told
from the session afterwards: it is the policy for the dataset that the catalog describes, at the
time that the clock shows.
-/
namespace UsagePolicy

namespace Session

/-- The policy that is issued on a dataset when the clock is read now. -/
def policyOn? (s : Session) (d : Dataset) (config : PolicyConfig) : Option SavedPolicy :=
  s.clock.toOption.bind fun time =>
    (Documents.generate d config time.toTimestamp).toOption.map fun documents =>
      ⟨d, config, documents, time.toTimestamp⟩

/-- The policy that a request asks for, by the catalog and the clock as they are now. -/
def policyFor? (arrays : Bool) (s : Session) (request : SaveRequest) : Option SavedPolicy :=
  (s.catalog.dataset? arrays request.datasetId).bind fun d => s.policyOn? d request.config

theorem policyOn?_eq_some {s : Session} {d : Dataset} {config : PolicyConfig} {p : SavedPolicy} :
    s.policyOn? d config = some p ↔
      ∃ time documents, s.clock = .ok time ∧
        Documents.generate d config time.toTimestamp = .ok documents ∧
        p = ⟨d, config, documents, time.toTimestamp⟩ := by
  -- The documents are left unread here: nothing below depends on what they say.
  have hall : ∀ generate : Timestamp → Except GenerationFault Documents,
      (s.clock.toOption.bind fun time => (generate time.toTimestamp).toOption.map fun documents =>
        (⟨d, config, documents, time.toTimestamp⟩ : SavedPolicy)) = some p ↔
      ∃ time documents, s.clock = .ok time ∧ generate time.toTimestamp = .ok documents ∧
        p = ⟨d, config, documents, time.toTimestamp⟩ := by
    intro generate
    cases s.clock with
    | error _ => simp [Except.toOption]
    | ok time => cases h : generate time.toTimestamp <;> simp [Except.toOption, h, eq_comm]
  exact hall (Documents.generate d config)

end Session

namespace Policies

variable {env : Environment} {given : String → Prop} {allowed : Operation → Prop}

theorem performs_now (h : allowed .readClock) : now.Performs env allowed := by
  apply Program.Performs.bind (Program.performs_operation h)
  intro reading
  exact (Program.performs_ofExcept _ reading).bind fun time => Program.performs_pure _

theorem performs_generate (h : allowed .readClock) (dataset : Dataset) (config : PolicyConfig)
    (issued : Option Timestamp) : (generate dataset config issued).Performs env allowed := by
  unfold generate
  cases issued with
  | none => exact (performs_now h).bind fun time => Program.performs_ofExcept _ _
  | some time => exact (Program.performs_pure time).bind fun time => Program.performs_ofExcept _ _

theorem performs_store (h : ∀ document, allowed (.insertPolicy document))
    (dataset : CatalogDataset) (policy : SavedPolicy) :
    (store dataset policy).Performs env allowed := by
  unfold store
  split
  · exact Program.performs_pure _
  · exact (Program.performs_operation (h _)).bind fun stored => Program.performs_pure _

theorem performs_saveOn (dataset : CatalogDataset) (config : PolicyConfig) :
    (saveOn dataset config).Performs env (Operation.Completes given) := by
  apply Program.Performs.bind (performs_generate trivial _ _ _)
  intro documents
  apply Program.Performs.bind (performs_now trivial)
  intro createdAt
  refine (Datasets.performs_requireConnection.allow fun _ => Operation.Reads.completes).bind
    fun _ => ?_
  apply Program.Performs.bind (performs_store (fun _ => trivial) _ _)
  intro stored
  cases stored with
  | error fault =>
    exact (Program.performs_operation trivial).bind fun _ => Program.performs_failed _
  | ok id => exact (Program.performs_operation trivial).bind fun _ => Program.performs_pure _

variable {s t : Session}

theorem run_now (s : Session) :
    now.run env s =
      match s.clock with
      | .ok time => (.ok time.toTimestamp, s)
      | .error _ => (.error .dateOutOfRange, s) := by
  change ((Program.ofExcept (fun _ => .dateOutOfRange) s.clock) >>= fun time =>
    pure time.toTimestamp : Program Timestamp).run env s = _
  cases s.clock <;> rfl

theorem run_issue_of_clock {α : Type} {issue : Timestamp → Except GenerationFault α}
    {time : UniversalTime} {a : α} (hclock : s.clock = .ok time)
    (h : issue time.toTimestamp = .ok a) :
    (now >>= fun time => Program.ofExcept GenerationFault.failure (issue time)).run env s =
      (.ok a, s) := by
  rw [Program.run_seq, run_now, hclock]
  simp [h, Program.ofExcept]

theorem run_issue {α : Type} (issue : Timestamp → Except GenerationFault α) (s : Session) :
    (∃ failure, (now >>= fun time => Program.ofExcept GenerationFault.failure
      (issue time)).run env s = (.error failure, s)) ∨
    ∃ time a, s.clock = .ok time ∧ issue time.toTimestamp = .ok a ∧
      (now >>= fun time => Program.ofExcept GenerationFault.failure (issue time)).run env s =
        (.ok a, s) := by
  cases hclock : s.clock with
  | error _ => exact Or.inl ⟨.dateOutOfRange, by rw [Program.run_seq, run_now, hclock]⟩
  | ok time =>
    cases h : issue time.toTimestamp with
    | error fault =>
      refine Or.inl ⟨fault.failure, ?_⟩
      rw [Program.run_seq, run_now, hclock]
      simp [h, Program.ofExcept]
    | ok a => exact Or.inr ⟨time, a, rfl, h, run_issue_of_clock hclock h⟩

theorem run_generate_of_clock {d : Dataset} {config : PolicyConfig} {time : UniversalTime}
    {documents : Documents} (hclock : s.clock = .ok time)
    (h : Documents.generate d config time.toTimestamp = .ok documents) :
    (generate d config none).run env s = (.ok documents, s) := by
  have hgenerate : generate d config none = now >>= fun time =>
      Program.ofExcept GenerationFault.failure (Documents.generate d config time) := rfl
  rw [hgenerate]
  exact run_issue_of_clock hclock h

theorem run_generate (d : Dataset) (config : PolicyConfig) (s : Session) :
    (∃ failure, (generate d config none).run env s = (.error failure, s)) ∨
      ∃ p, s.policyOn? d config = some p ∧
        (generate d config none).run env s = (.ok p.documents, s) := by
  have hgenerate : generate d config none = now >>= fun time =>
      Program.ofExcept GenerationFault.failure (Documents.generate d config time) := rfl
  rw [hgenerate]
  rcases run_issue (Documents.generate d config) s with
    h | ⟨time, documents, hclock, hdocuments, h⟩
  · exact Or.inl h
  · exact Or.inr ⟨_, Session.policyOn?_eq_some.mpr ⟨time, documents, hclock, hdocuments, rfl⟩, h⟩

theorem run_store (c : CatalogDataset) (p : SavedPolicy) (s : Session) :
    (∃ fault t, (store c p).run env s = (.ok (.error fault), t) ∧ s.Untouched t) ∨
    ∃ written t, c.written? = some written ∧
      (store c p).run env s = (.ok (.ok (env.server.policyId s.inserted)), t) ∧
      s.Gains env (p.fieldsFor written) t := by
  unfold store
  cases c.written? with
  | none => exact Or.inl ⟨.tooDeep, s, rfl, s.untouched_refl⟩
  | some written =>
    have hrun : (Program.operation (.insertPolicy (p.fieldsFor written)) >>= fun stored =>
          pure (stored.mapError .database) : Program (Except SaveFault PolicyId)).run env s =
        (.ok (((Operation.insertPolicy (p.fieldsFor written)).perform env s).1.mapError .database),
          ((Operation.insertPolicy (p.fieldsFor written)).perform env s).2) := rfl
    simp only [hrun]
    rcases Operation.insertPolicy_cases (p.fieldsFor written) env s with
      ⟨error, t, h, hs⟩ | ⟨t, h, hs⟩
    · rw [h]
      exact Or.inl ⟨.database error, t, rfl, hs⟩
    · rw [h]
      exact Or.inr ⟨written, t, rfl, rfl, hs⟩

theorem run_saveOn (c : CatalogDataset) (config : PolicyConfig) (s : Session) :
    (∃ failure t, (saveOn c config).run env s = (.error failure, t) ∧ s.Untouched t) ∨
    ∃ p written t, s.policyOn? c.dataset config = some p ∧ c.written? = some written ∧
      (saveOn c config).run env s = (.ok (env.server.policyId s.inserted), t) ∧
      s.Gains env (p.fieldsFor written) t := by
  unfold saveOn
  rcases run_generate c.dataset config s with ⟨failure, hgenerate⟩ | ⟨p, hp, hgenerate⟩
  · exact Or.inl ⟨failure, s, Program.run_seq_of_error hgenerate _, s.untouched_refl⟩
  obtain ⟨time, documents, hclock, -, rfl⟩ := Session.policyOn?_eq_some.mp hp
  have hnow : now.run env s = (.ok time.toTimestamp, s) := by rw [run_now, hclock]
  rw [Program.run_seq_of_ok hgenerate, Program.run_seq_of_ok hnow]
  have hconnected := @Datasets.run_requireConnection env s
  split at hconnected
  · rw [Program.run_seq_of_ok hconnected]
    rcases run_store c ⟨c.dataset, config, documents, time.toTimestamp⟩ s with
      ⟨fault, t, hstore, hs⟩ | ⟨written, t, hwritten, hstore, hs⟩
    · rw [Program.run_seq_of_ok hstore]
      exact Or.inl ⟨_, _, rfl, hs.trans ⟨rfl, rfl, rfl, rfl, rfl⟩⟩
    · rw [Program.run_seq_of_ok hstore]
      exact Or.inr ⟨_, written, _, hp, hwritten, rfl, hs.untouched ⟨rfl, rfl, rfl, rfl, rfl⟩⟩
  · exact Or.inl ⟨_, s, Program.run_seq_of_error hconnected _, s.untouched_refl⟩

/-- A save finds the dataset of its request and saves the policy issued on it, or the stored
policies have not changed. -/
theorem run_save_cases (env : Environment) (request : SaveRequest) (s : Session) :
    (∃ failure t, (save request).run env s = (.error failure, t) ∧ s.Untouched t) ∨
    ∃ c u p written t, (Datasets.find request.datasetId).run env s = (.ok c, u) ∧
      ((saveOn c request.config).run env u).2 = t ∧
      s.policyOn? c.dataset request.config = some p ∧ c.written? = some written ∧
      (save request).run env s = (.ok (env.server.policyId s.inserted), t) ∧
      s.Gains env (p.fieldsFor written) t := by
  have hreads : (Datasets.find request.datasetId).Performs env (Operation.Reads fun _ => True) :=
    Datasets.performs_find (fun _ => trivial) request.datasetId
  have huntouched := Operation.Reads.untouched_run hreads s
  unfold save
  cases hfind : (Datasets.find request.datasetId).run env s with
  | mk result u =>
    rw [hfind] at huntouched
    cases result with
    | error failure => exact Or.inl ⟨failure, u, Program.run_seq_of_error hfind _, huntouched⟩
    | ok c =>
      rw [Program.run_seq_of_ok hfind]
      rcases run_saveOn c request.config u with
        ⟨failure, t, hsave, ht⟩ | ⟨p, written, t, hp, hwritten, hsave, ht⟩
      · exact Or.inl ⟨failure, t, hsave, huntouched.trans ht⟩
      · rw [Session.policyOn?, huntouched.clock] at hp
        rw [huntouched.inserted] at hsave
        exact Or.inr ⟨c, u, p, written, t, rfl, by rw [hsave], hp, hwritten, hsave,
          huntouched.gains ht⟩

theorem run_save_form (env : Environment) (hs : s.writers = []) (request : SaveRequest) :
    (∃ failure t, (save request).run env s = (.error failure, t) ∧ s.Untouched t) ∨
    ∃ d u p t, (Datasets.find request.datasetId).run env s = (.ok (.ofDataset d), u) ∧
      ((saveOn (.ofDataset d) request.config).run env u).2 = t ∧
      s.policyOn? d request.config = some p ∧
      (save request).run env s = (.ok (env.server.policyId s.inserted), t) ∧
        s.Gains env p.toFields t := by
  rcases run_save_cases env request s with
    h | ⟨c, u, p, written, t, hfind, hsaveOn, hp, hwritten, hsave, ht⟩
  · exact Or.inl h
  obtain ⟨-, d, -, -, -, -, rfl, -⟩ :=
    @Datasets.run_find_eq_ok (fun _ => True) env s u (fun _ => trivial) hs _ _ hfind
  rw [CatalogDataset.dataset_ofDataset] at hp
  obtain ⟨time, documents, -, -, rfl⟩ := Session.policyOn?_eq_some.mp hp
  cases hwritten
  exact Or.inr ⟨d, u, _, t, hfind, hsaveOn, hp, hsave, ht⟩

/-- A policy is saved as its request asks for it, by the catalog and the clock as they are
afterwards, or the stored policies have not changed. -/
theorem run_save (hgiven : ¬ given "") (hdraws : ∀ n, given (env.identifier n))
    (hs : s.writers = []) {request : SaveRequest}
    (hplain : ∀ record, s.catalog.findId? env.server.arrays request.datasetId = some record →
      record.HasPlainUuid) :
    (∃ failure t, (save request).run env s = (.error failure, t) ∧ s.Untouched t) ∨
    ∃ p t, (save request).run env s = (.ok (env.server.policyId s.inserted), t) ∧
      s.Gains env p.toFields t ∧ t.policyFor? env.server.arrays request = some p ∧
      p.dataset.id = request.datasetId ∧ p.dataset.uuid ≠ "" := by
  rcases run_save_form env hs request with
    h | ⟨d, u, p, t, hfind, hsaveOn, hp, hsave, ht⟩
  · exact Or.inl h
  obtain ⟨d', heq, hid, hne, hdataset⟩ := Datasets.run_find hgiven hdraws hs hplain hfind
  obtain rfl : d = d' := congrArg CatalogDataset.dataset heq
  -- Between finding the dataset and the end, the catalog has not changed but for completion.
  have hpolicy : t.policyFor? env.server.arrays request = some p := by
    have hreads := Datasets.performs_find hdraws request.datasetId
    have hfound := Operation.Completes.completed_run hgiven
      (hreads.allow fun _ => Operation.Reads.completes) s
    have hlater := Operation.Completes.completed_run hgiven
      (@performs_saveOn env given (.ofDataset d) request.config) u
    rw [hfind] at hfound
    rw [hsaveOn] at hlater
    have hkept := (hlater (hfound hs).1).2.dataset? hdataset hne
    rw [Session.policyFor?, hkept, Option.bind_some, Session.policyOn?, ht.clock]
    exact hp
  obtain ⟨time, documents, -, -, rfl⟩ := Session.policyOn?_eq_some.mp hp
  exact Or.inr ⟨_, t, hsave, ht, hpolicy, hid, hne⟩

end Policies
end UsagePolicy
