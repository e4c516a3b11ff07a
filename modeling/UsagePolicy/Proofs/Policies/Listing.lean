import UsagePolicy.Proofs.Datasets.Lookup
import UsagePolicy.Proofs.Policies.ReadBack

/-!
# Listing and deleting

A listing that no fault hits shows the stored policies of a dataset as they were stored. A deletion
that no fault hits removes the one policy that has the id, if its text denotes an id at all.
-/
namespace UsagePolicy
namespace Policies

variable {env : Environment} {s t : Session}

def shown (entries : List PolicyEntry) : List (String × Option SavedPolicy) :=
  entries.map fun e => (e.id, some e.policy)

def kept (stored : List StoredPolicy) : List (String × Option SavedPolicy) :=
  stored.map fun p => (p.id.text, p.policy?)

theorem mem_of_mem_policiesFor {policies : List StoredPolicy} {datasetId : Int}
    {stored : StoredPolicy} (h : stored ∈ env.server.policiesFor policies datasetId) :
    stored ∈ policies :=
  (List.mem_filter.mp ((env.server.order.perm _).mem_iff.mp h)).1

theorem exists_stored_of_shown {policies : List StoredPolicy} {datasetId : Int}
    {entries : List PolicyEntry}
    (hshown : shown entries = kept (env.server.policiesFor policies datasetId))
    {e : PolicyEntry} (he : e ∈ entries) :
    ∃ stored ∈ policies, stored.id.text = e.id ∧ stored.policy? = some e.policy := by
  have hmem : (e.id, some e.policy) ∈ kept (env.server.policiesFor policies datasetId) := by
    rw [← hshown]
    exact List.mem_map_of_mem he
  obtain ⟨stored, hstored, heq⟩ := List.mem_map.mp hmem
  exact ⟨stored, mem_of_mem_policiesFor hstored, Prod.mk.inj heq⟩

/-- A listing shows what is stored for its dataset, in the order in which the database sorts it. -/
theorem run_list {datasetId : Int} (hconnected : s.handle.isSome = true)
    (hwide : tooWide datasetId = false) (hfault : s.faults.lookup .find = none)
    (hkeeps : ∀ stored ∈ s.policies, ∃ p, stored.Keeps p) :
    ∃ entries, (list datasetId).run env s = (.ok entries, s) ∧
      shown entries = kept (env.server.policiesFor s.policies datasetId) := by
  have hconnection : Datasets.requireConnection.run env s = (.ok (), s) :=
    Datasets.run_requireConnection_eq_ok.mpr ⟨hconnected, rfl⟩
  have hoperation : (Program.operation (.listPolicies datasetId)).run env s =
      (.ok (.ok (env.server.policiesFor s.policies datasetId)), s) :=
    Program.run_operation_eq_ok.mpr (Operation.listPolicies_eq_ok.mpr ⟨hwide, hfault, rfl, rfl⟩)
  have hentries : ∀ stored ∈ env.server.policiesFor s.policies datasetId, ∃ e : PolicyEntry,
      (stored.id.text, stored.policy?) = (e.id, some e.policy) ∧
        (entry stored).run env s = (.ok e, s) := by
    intro stored hstored
    obtain ⟨p, hp⟩ := hkeeps stored (mem_of_mem_policiesFor hstored)
    exact ⟨⟨stored.id.text, p⟩, by rw [hp.policy?], run_entry hp⟩
  obtain ⟨entries, hforall, hrun⟩ := Program.run_forEach_of_forall hentries
  refine ⟨entries, ?_, ?_⟩
  · rw [list, Program.run_seq_of_ok hconnection, Program.run_seq_of_ok hoperation]
    exact hrun
  · have hmap := List.forall₂_map_right_iff.mpr (List.forall₂_map_left_iff.mpr hforall)
    rw [List.forall₂_eq_eq_eq] at hmap
    exact hmap.symm

def dated (entries : List PolicyEntry) : List (String × Option Timestamp) :=
  entries.map fun e => (e.id, some e.policy.createdAt)

/-- A listing has an entry for each stored policy of its dataset, in the order in which the database
sorts them. -/
theorem run_list_eq_ok {datasetId : Int} {entries : List PolicyEntry}
    (h : (list datasetId).run env s = (.ok entries, t)) :
    dated entries =
      (env.server.policiesFor s.policies datasetId).map fun p => (p.id.text, p.createdAt?) := by
  obtain ⟨_, _, hconnected, h⟩ := Program.run_seq_eq_ok.mp h
  obtain ⟨-, rfl⟩ := Datasets.run_requireConnection_eq_ok.mp hconnected
  obtain ⟨found, u, hoperation, h⟩ := Datasets.run_access_eq_ok.mp h
  obtain ⟨-, -, rfl, -⟩ :=
    Operation.listPolicies_eq_ok.mp (Program.run_operation_eq_ok.mp hoperation)
  have hentries : List.Forall₂ (fun shown e => shown = (e.id, some e.policy.createdAt))
      ((env.server.policiesFor s.policies datasetId).map fun p => (p.id.text, p.createdAt?))
        entries := by
    refine List.forall₂_map_left_iff.mpr ((Program.run_forEach_eq_ok h).imp ?_)
    rintro stored e ⟨u, v, hrun⟩
    exact (run_entry_eq_ok hrun).symm
  have hmap := List.forall₂_map_right_iff.mpr hentries
  rw [List.forall₂_eq_eq_eq] at hmap
  exact hmap.symm

/-- The deletion of a policy under the id that a reference stands for. -/
def deleteId (id : Option PolicyId) : Program Unit := do
  Datasets.requireConnection
  if ← Datasets.access (← Program.operation (.deletePolicy id)) then return ()
  else .failed (.refused .policyNotFound)

theorem run_delete_text (env : Environment) (text : String) (s : Session) :
    (delete (.text text)).run env s = match env.server.readId text with
      | some id => (deleteId (some id)).run env s
      | none => (.error (.refused .invalidPolicyId), s) := by
  have hread : (Program.operation (.readId text)).run env s = (.ok (env.server.readId text), s) :=
    rfl
  change ((readId text >>= fun id => pure (some id)) >>= deleteId).run env s = _
  rw [readId]
  cases h : env.server.readId text with
  | none =>
    rw [h] at hread
    exact Program.run_seq_of_error (Program.run_seq_of_error (Program.run_seq_of_ok hread _) _) _
  | some id =>
    rw [h] at hread
    exact Program.run_seq_of_ok (Program.run_seq_of_ok (Program.run_seq_of_ok hread _) _) _

/-- What a deletion comes to when the database gives this reply. -/
def deletionOutcome : Except DatabaseError Bool → Except Failure Unit
  | .ok true => .ok ()
  | .ok false => .error (.refused .policyNotFound)
  | .error error => .error (.database error)

theorem run_deleteId {id : Option PolicyId} {reply : Except DatabaseError Bool}
    (hconnected : s.handle.isSome = true)
    (h : (Operation.deletePolicy id).perform env s = (reply, t)) :
    (deleteId id).run env s = (deletionOutcome reply, t) := by
  have hconnection : Datasets.requireConnection.run env s = (.ok (), s) :=
    Datasets.run_requireConnection_eq_ok.mpr ⟨hconnected, rfl⟩
  have hoperation : (Program.operation (.deletePolicy id)).run env s = (.ok reply, t) :=
    Program.run_operation_eq_ok.mpr h
  rw [deleteId, Program.run_seq_of_ok hconnection, Program.run_seq_of_ok hoperation]
  match reply with
  | .ok true | .ok false | .error error => rfl

theorem eraseP_of_not_any {policies : List StoredPolicy} {id : PolicyId}
    (h : policies.any (·.id == id) = false) : policies.eraseP (·.id == id) = policies :=
  List.eraseP_of_forall_not (List.any_eq_false.mp h)

theorem run_deleteId_cases (env : Environment) (id : Option PolicyId) (s : Session) :
    (∃ failure t, (deleteId id).run env s = (.error failure, t) ∧ s.Untouched t) ∨
      ∃ found, id = some found ∧ (∃ stored ∈ s.policies, stored.id = found) ∧
        (deleteId id).run env s =
          (.ok (), { s with policies := s.policies.eraseP (·.id == found) }) := by
  by_cases hconnected : s.handle.isSome = true
  · rcases Operation.deletePolicy_cases id env s with ⟨error, t, h, ht⟩ | h
    · exact Or.inl ⟨_, t, run_deleteId hconnected h, ht⟩
    have hrun := run_deleteId hconnected h
    cases id with
    | none => exact Or.inl ⟨_, _, hrun, rfl, rfl, rfl, rfl, rfl⟩
    | some found =>
      simp only [Operation.removePolicy] at hrun
      cases hany : s.policies.any (·.id == found) with
      | true =>
        obtain ⟨stored, hstored, hid⟩ := List.any_eq_true.mp hany
        rw [hany] at hrun
        exact Or.inr ⟨found, rfl, ⟨stored, hstored, by simpa using hid⟩, hrun⟩
      | false =>
        rw [hany] at hrun
        exact Or.inl ⟨_, _, hrun, eraseP_of_not_any hany, rfl, rfl, rfl, rfl⟩
  · have hconnection := @Datasets.run_requireConnection env s
    rw [if_neg hconnected] at hconnection
    exact Or.inl ⟨.notConnected, s, Program.run_seq_of_error hconnection _, s.untouched_refl⟩

def Reference.id? (env : Environment) : Reference → Option PolicyId
  | text id => env.server.readId id
  | absent | other => none

theorem run_delete_cases (env : Environment) (reference : Reference) (s : Session) :
    (∃ failure t, (delete reference).run env s = (.error failure, t) ∧ s.Untouched t) ∨
      ∃ id, reference.id? env = some id ∧ (∃ stored ∈ s.policies, stored.id = id) ∧
        (delete reference).run env s =
          (.ok (), { s with policies := s.policies.eraseP (·.id == id) }) := by
  cases reference with
  | text text =>
    rw [run_delete_text, Reference.id?]
    cases env.server.readId text with
    | none => exact Or.inl ⟨.refused .invalidPolicyId, s, rfl, s.untouched_refl⟩
    | some id =>
      rcases run_deleteId_cases env (some id) s with h | ⟨found, hfound, h⟩
      · exact Or.inl h
      · exact Or.inr ⟨found, hfound, h⟩
  | absent =>
    rcases run_deleteId_cases env none s with h | ⟨found, hfound, -⟩
    · exact Or.inl h
    · cases hfound
  | other => exact Or.inl ⟨.refused .invalidPolicyId, s, rfl, s.untouched_refl⟩

theorem run_delete_text_of_no_fault (text : String) (hconnected : s.handle.isSome = true)
    (hfault : s.faults.lookup .delete = none) :
    (delete (.text text)).run env s = match env.server.readId text with
      | none => (.error (.refused .invalidPolicyId), s)
      | some id =>
        (if s.policies.any (·.id == id) then .ok () else .error (.refused .policyNotFound),
          { s with policies := s.policies.eraseP (·.id == id) }) := by
  rw [run_delete_text]
  cases env.server.readId text with
  | none => rfl
  | some id =>
    simp only
    have hperform : (Operation.deletePolicy (some id)).perform env s = _ :=
      Operation.deletePolicy_eq_ok.mpr ⟨hfault, rfl, rfl⟩
    rw [run_deleteId hconnected hperform]
    simp only [Operation.removePolicy]
    cases s.policies.any (·.id == id) <;> rfl

end Policies
end UsagePolicy
