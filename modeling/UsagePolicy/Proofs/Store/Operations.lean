import UsagePolicy.Proofs.Program.Interference
import UsagePolicy.Proofs.Store.Completion

/-!
# What operations leave alone

An operation of the database either fails with the fault that was expected for it or acts. Most
operations change little: unless another writer waits, the catalog is at most completed, and only
two operations touch the stored policies. What a program cannot have changed is read off from the
operations that it may perform.
-/
namespace UsagePolicy

namespace Session

/-- If no other writer waited, none waits now, and the catalog has been completed at most. -/
def Completed (arrays : Bool) (given : String → Prop) (s t : Session) : Prop :=
  s.writers = [] → t.writers = [] ∧ s.catalog.Completed arrays given t.catalog

/-- The catalog is as it was, and so are the writers that wait to change it. -/
structure CatalogKept (s t : Session) : Prop where
  catalog : t.catalog = s.catalog
  writers : t.writers = s.writers

/-- The stored policies, the client, the handle on the database and the clock are as they were. -/
structure Untouched (s t : Session) : Prop where
  policies : t.policies = s.policies
  inserted : t.inserted = s.inserted
  client : t.client = s.client
  handle : t.handle = s.handle
  clock : t.clock = s.clock

/-- One more policy is stored, under the next id; the client, the handle on the database and the
clock are as they were. -/
structure Gains (env : Environment) (s : Session) (document : Fields) (t : Session) : Prop where
  policies : t.policies = s.policies ++ [⟨env.server.policyId s.inserted, document⟩]
  inserted : t.inserted = s.inserted + 1
  client : t.client = s.client
  handle : t.handle = s.handle
  clock : t.clock = s.clock

variable {arrays : Bool} {given : String → Prop} {env : Environment} {s t u : Session}

theorem completed_refl (s : Session) : s.Completed arrays given s :=
  fun h => ⟨h, s.catalog.completed_refl⟩

theorem Completed.trans (hgiven : ¬ given "") (h : s.Completed arrays given t)
    (h' : t.Completed arrays given u) : s.Completed arrays given u := by
  intro hs
  obtain ⟨ht, hst⟩ := h hs
  obtain ⟨hu, htu⟩ := h' ht
  exact ⟨hu, hst.trans hgiven htu⟩

theorem catalogKept_refl (s : Session) : s.CatalogKept s :=
  ⟨rfl, rfl⟩

theorem CatalogKept.trans (h : s.CatalogKept t) (h' : t.CatalogKept u) : s.CatalogKept u :=
  ⟨h'.catalog.trans h.catalog, h'.writers.trans h.writers⟩

theorem CatalogKept.completed (h : s.CatalogKept t) : s.Completed arrays given t := by
  intro hs
  rw [h.writers, h.catalog]
  exact ⟨hs, s.catalog.completed_refl⟩

theorem untouched_refl (s : Session) : s.Untouched s :=
  ⟨rfl, rfl, rfl, rfl, rfl⟩

theorem Untouched.trans (h : s.Untouched t) (h' : t.Untouched u) : s.Untouched u :=
  ⟨h'.policies.trans h.policies, h'.inserted.trans h.inserted,
    h'.client.trans h.client, h'.handle.trans h.handle, h'.clock.trans h.clock⟩

theorem Untouched.gains {document : Fields} (h : s.Untouched t) (h' : t.Gains env document u) :
    s.Gains env document u :=
  ⟨by rw [h'.policies, h.policies, h.inserted], by rw [h'.inserted, h.inserted],
    h'.client.trans h.client, h'.handle.trans h.handle, h'.clock.trans h.clock⟩

theorem Gains.untouched {document : Fields} (h : s.Gains env document t) (h' : t.Untouched u) :
    s.Gains env document u :=
  ⟨h'.policies.trans h.policies, h'.inserted.trans h.inserted,
    h'.client.trans h.client, h'.handle.trans h.handle, h'.clock.trans h.clock⟩

theorem admitWriter_of_no_writers (h : s.writers = []) (id : Int) :
    s.admitWriter arrays id = s := by
  simp [admitWriter, h]

theorem untouched_admitWriter (arrays : Bool) (s : Session) (id : Int) :
    s.Untouched (s.admitWriter arrays id) := by
  unfold admitWriter
  split
  · exact s.untouched_refl
  · exact ⟨rfl, rfl, rfl, rfl, rfl⟩

end Session

namespace Operation

variable {α : Type} {access : Access} {act : Session → α × Session} {s t : Session}
  {env : Environment} {given : String → Prop}

/-- An operation that a fault awaits changes nothing but that fault; any other one acts. -/
theorem guarded_cases (access : Access) (s : Session) (act : Session → α × Session) :
    (∃ message, s.faults.lookup access = some message ∧ guarded access s act =
      (.error (.fault message), { s with faults := s.faults.filter (·.1 != access) })) ∨
    s.faults.lookup access = none ∧ guarded access s act = (.ok (act s).1, (act s).2) := by
  unfold guarded Session.takeFault
  cases h : s.faults.lookup access with
  | none => exact Or.inr ⟨rfl, rfl⟩
  | some message => exact Or.inl ⟨message, rfl, rfl⟩

theorem guarded_of_no_fault (h : s.faults.lookup access = none) :
    guarded access s act = (.ok (act s).1, (act s).2) := by
  rcases guarded_cases access s act with ⟨message, hfault, _⟩ | ⟨_, heq⟩
  · rw [h] at hfault
    cases hfault
  · exact heq

theorem guarded_eq_ok {a : α} :
    guarded access s act = (.ok a, t) ↔
      s.faults.lookup access = none ∧ a = (act s).1 ∧ t = (act s).2 := by
  constructor
  · intro h
    rcases guarded_cases access s act with ⟨message, _, heq⟩ | ⟨hnone, heq⟩
    · rw [heq] at h
      cases h
    · rw [heq] at h
      cases h
      exact ⟨hnone, rfl, rfl⟩
  · rintro ⟨hnone, rfl, rfl⟩
    exact guarded_of_no_fault hnone

theorem guarded_session {P : Session → Prop}
    (hfault : P { s with faults := s.faults.filter (·.1 != access) }) (hact : P (act s).2) :
    P (guarded access s act).2 := by
  rcases guarded_cases access s act with ⟨_, _, heq⟩ | ⟨_, heq⟩
  · rw [heq]
    exact hfault
  · rw [heq]
    exact hact

def Completes (given : String → Prop) : Operation → Prop
  | assignUuid _ uuid => given uuid
  | _ => True

theorem completed_assignUuid {id : Int} {uuid : String} (h : given uuid) :
    s.Completed env.server.arrays given ((assignUuid id uuid).perform env s).2 := by
  simp only [perform]
  split
  · exact s.completed_refl
  · refine guarded_session (Session.CatalogKept.completed ⟨rfl, rfl⟩) ?_
    intro hs
    rw [Session.admitWriter_of_no_writers hs]
    exact ⟨hs, s.catalog.completed_assign h⟩

theorem session_findRecord (id : Int) : ((findRecord id).perform env s).2 =
    (guarded .findOne s fun s => (s.catalog.findId? env.server.arrays id, s)).2 := by
  simp only [perform]
  split
  · next heq =>
    rw [heq]
    split <;> rfl
  · next heq => rw [heq]

/-- An operation uses up a fault and does nothing else, or it leaves the clock and the faults alone
and takes back nothing that has been drawn. -/
theorem perform_session_cases (op : Operation) (env : Environment) (s : Session) :
    (∃ used, (op.perform env s).2 = { s with faults := s.faults.filter (·.1 != used) }) ∨
      (op.perform env s).2.clock = s.clock ∧ (op.perform env s).2.faults = s.faults ∧
        s.drawn ≤ (op.perform env s).2.drawn := by
  have hguarded : ∀ {α : Type} (access : Access) (act : Session → α × Session),
      (act s).2.clock = s.clock ∧ (act s).2.faults = s.faults ∧ s.drawn ≤ (act s).2.drawn →
        (∃ used, (guarded access s act).2 =
          { s with faults := s.faults.filter (·.1 != used) }) ∨
        (guarded access s act).2.clock = s.clock ∧ (guarded access s act).2.faults = s.faults ∧
          s.drawn ≤ (guarded access s act).2.drawn := by
    intro α access act hact
    rcases guarded_cases access s act with ⟨_, _, heq⟩ | ⟨_, heq⟩
    · exact Or.inl ⟨access, congrArg Prod.snd heq⟩
    · rw [heq]
      exact Or.inr hact
  cases op with
  | settings | client | handle | setClient uri | setHandle database | readClock | readId text
  | log text =>
    exact Or.inr ⟨rfl, rfl, Nat.le_refl _⟩
  | drawIdentifier => exact Or.inr ⟨rfl, rfl, Nat.le_succ _⟩
  | listRecords | deletePolicy id => exact hguarded _ _ ⟨rfl, rfl, Nat.le_refl _⟩
  | findRecord id =>
    rw [session_findRecord]
    exact hguarded _ _ ⟨rfl, rfl, Nat.le_refl _⟩
  | listPolicies datasetId =>
    simp only [perform]
    split
    · exact Or.inr ⟨rfl, rfl, Nat.le_refl _⟩
    · exact hguarded _ _ ⟨rfl, rfl, Nat.le_refl _⟩
  | insertPolicy document =>
    simp only [perform]
    split
    · exact Or.inr ⟨rfl, rfl, Nat.le_refl _⟩
    · exact hguarded _ _ ⟨rfl, rfl, Nat.le_refl _⟩
  | assignUuid id uuid =>
    simp only [perform]
    split
    · exact Or.inr ⟨rfl, rfl, Nat.le_refl _⟩
    · apply hguarded
      unfold Session.admitWriter
      split <;> exact ⟨rfl, rfl, Nat.le_refl _⟩

def AssignsNone : Operation → Prop :=
  Completes fun _ => False

theorem catalogKept_perform {op : Operation} (h : op.AssignsNone) (env : Environment)
    (s : Session) : s.CatalogKept (op.perform env s).2 := by
  cases op with
  | assignUuid id uuid => exact h.elim
  | findRecord id =>
    rw [session_findRecord]
    exact guarded_session ⟨rfl, rfl⟩ s.catalogKept_refl
  | listPolicies datasetId =>
    simp only [perform]
    split
    · exact s.catalogKept_refl
    · exact guarded_session ⟨rfl, rfl⟩ s.catalogKept_refl
  | insertPolicy document =>
    simp only [perform]
    split
    · exact s.catalogKept_refl
    · exact guarded_session ⟨rfl, rfl⟩ ⟨rfl, rfl⟩
  | listRecords => exact guarded_session ⟨rfl, rfl⟩ s.catalogKept_refl
  | deletePolicy id => exact guarded_session ⟨rfl, rfl⟩ ⟨rfl, rfl⟩
  | settings | client | handle | setClient uri | setHandle database | drawIdentifier | readClock
  | readId text | log text => exact ⟨rfl, rfl⟩

theorem completed_perform {op : Operation} (h : op.Completes given) (env : Environment)
    (s : Session) : s.Completed env.server.arrays given (op.perform env s).2 := by
  by_cases hnone : op.AssignsNone
  · exact (catalogKept_perform hnone env s).completed
  · cases op with
    | assignUuid id uuid => exact completed_assignUuid h
    | _ => exact absurd trivial hnone

/-- The operation reads, draws or reports, and assigns no other identifiers than these. -/
def Reads (given : String → Prop) : Operation → Prop
  | setClient _ | setHandle _ | insertPolicy _ | deletePolicy _ => False
  | assignUuid _ uuid => given uuid
  | _ => True

theorem Reads.completes {op : Operation} (h : op.Reads given) : op.Completes given := by
  cases op with
  | assignUuid id uuid => exact h
  | _ => trivial

theorem untouched_perform {op : Operation} (h : op.Reads given) (env : Environment)
    (s : Session) : s.Untouched (op.perform env s).2 := by
  cases op with
  | setClient uri | setHandle database | insertPolicy document | deletePolicy policyId =>
    exact h.elim
  | settings | client | handle | drawIdentifier | readClock | readId text | log text =>
    exact ⟨rfl, rfl, rfl, rfl, rfl⟩
  | listRecords => exact guarded_session ⟨rfl, rfl, rfl, rfl, rfl⟩ s.untouched_refl
  | findRecord id =>
    rw [session_findRecord]
    exact guarded_session ⟨rfl, rfl, rfl, rfl, rfl⟩ s.untouched_refl
  | listPolicies datasetId =>
    simp only [perform]
    split
    · exact s.untouched_refl
    · exact guarded_session ⟨rfl, rfl, rfl, rfl, rfl⟩ s.untouched_refl
  | assignUuid id uuid =>
    simp only [perform]
    split
    · exact s.untouched_refl
    · refine guarded_session ⟨rfl, rfl, rfl, rfl, rfl⟩ ?_
      obtain ⟨hpolicies, hinserted, hclient, hhandle, hclock⟩ :=
        s.untouched_admitWriter env.server.arrays id
      exact ⟨hpolicies, hinserted, hclient, hhandle, hclock⟩

theorem Reads.untouched_run {p : Program α} (h : p.Performs env (Reads given)) (s : Session) :
    s.Untouched (p.run env s).2 :=
  h.run_related Session.untouched_refl (fun _ _ _ => Session.Untouched.trans)
    (fun _ t hop => untouched_perform hop env t) s

/-- A program run alone at most completes the catalog. -/
theorem Completes.completed_run (hgiven : ¬ given "") {p : Program α}
    (h : p.Performs env (Completes given)) (s : Session) :
    s.Completed env.server.arrays given (p.run env s).2 :=
  h.run_related Session.completed_refl (fun _ _ _ => Session.Completed.trans hgiven)
    (fun _ t hop => completed_perform hop env t) s

theorem listRecords_eq_ok {records : List Record} :
    listRecords.perform env s = (.ok records, t) ↔
      s.faults.lookup .find = none ∧ records = s.catalog ∧ t = s := by
  simp only [perform, guarded_eq_ok]

theorem findRecord_eq_ok {id : Int} {found : Option Record} :
    (findRecord id).perform env s = (.ok found, t) ↔
      tooWide id = false ∧ s.faults.lookup .findOne = none ∧
      found = s.catalog.findId? env.server.arrays id ∧
        t = s := by
  simp only [perform]
  rcases guarded_cases .findOne s fun s => (s.catalog.findId? env.server.arrays id, s) with
    ⟨message, hfault, heq⟩ | ⟨hnone, heq⟩
  · simp [heq, hfault]
  · rw [heq]
    cases tooWide id
    · simp [hnone, eq_comm]
    · simp

theorem assignUuid_eq_ok (hs : s.writers = []) {id : Int} {uuid : String} {assigned : Bool} :
    (assignUuid id uuid).perform env s = (.ok assigned, t) ↔
      tooWide id = false ∧ s.faults.lookup .update = none ∧
        assigned = (s.catalog.assign env.server.arrays id uuid).2 ∧
        t = { s with catalog := (s.catalog.assign env.server.arrays id uuid).1 } := by
  simp only [perform]
  cases tooWide id
  · simp [guarded_eq_ok, Session.admitWriter_of_no_writers hs]
  · simp

theorem listPolicies_eq_ok {datasetId : Int} {found : List StoredPolicy} :
    (listPolicies datasetId).perform env s = (.ok found, t) ↔
      tooWide datasetId = false ∧ s.faults.lookup .find = none ∧
        found = env.server.policiesFor s.policies datasetId ∧ t = s := by
  simp only [perform]
  cases tooWide datasetId
  · simp [guarded_eq_ok]
  · simp

theorem insertPolicy_cases (document : Fields) (env : Environment) (s : Session) :
    (∃ error t, (insertPolicy document).perform env s = (.error error, t) ∧ s.Untouched t) ∨
      ∃ t, (insertPolicy document).perform env s = (.ok (env.server.policyId s.inserted), t) ∧
        s.Gains env document t := by
  simp only [perform]
  split
  · next error _ => exact Or.inl ⟨error, s, rfl, s.untouched_refl⟩
  · rcases guarded_cases .insert s _ with ⟨message, _, heq⟩ | ⟨_, heq⟩
    · exact Or.inl ⟨.fault message, _, heq, rfl, rfl, rfl, rfl, rfl⟩
    · exact Or.inr ⟨_, heq, rfl, rfl, rfl, rfl, rfl⟩

theorem deletePolicy_cases (id : Option PolicyId) (env : Environment) (s : Session) :
    (∃ error t, (deletePolicy id).perform env s = (.error error, t) ∧ s.Untouched t) ∨
      (deletePolicy id).perform env s = (.ok (removePolicy s.policies id).2,
        { s with policies := (removePolicy s.policies id).1 }) := by
  rcases guarded_cases .delete s fun s =>
    ((removePolicy s.policies id).2, { s with policies := (removePolicy s.policies id).1 }) with
    ⟨message, _, heq⟩ | ⟨_, heq⟩
  · exact Or.inl ⟨.fault message, _, heq, rfl, rfl, rfl, rfl, rfl⟩
  · exact Or.inr heq

theorem deletePolicy_eq_ok {id : Option PolicyId} {removed : Bool} :
    (deletePolicy id).perform env s = (.ok removed, t) ↔
      s.faults.lookup .delete = none ∧ removed = (removePolicy s.policies id).2 ∧
        t = { s with policies := (removePolicy s.policies id).1 } := by
  simp only [perform, guarded_eq_ok]

end Operation
end UsagePolicy
