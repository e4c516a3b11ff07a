import UsagePolicy.Proofs.Policies.Frame

/-!
# The stored policies as a ledger

The stored policies are what the history says that they are: one for each save whose policy has not
been deleted since, under the id that the save returned. Ids are given out in turn and never again,
so a deletion removes one policy at most, and what has been deleted does not come back.
-/
namespace UsagePolicy

variable {env : Environment} {given : String → Prop} {s t : Session} {event : Event}

def Deed.apply (receipts : List Receipt) : Deed → List Receipt
  | saved receipt => receipts ++ [receipt]
  | deleted id => receipts.filter (·.id != id)

/-- The receipts of policies that were saved and not deleted since. -/
def outstanding (deeds : List Deed) : List Receipt :=
  deeds.foldl Deed.apply []

def receiptsOf (deeds : List Deed) : List Receipt :=
  deeds.filterMap fun
    | .saved receipt => some receipt
    | .deleted _ => none

theorem receiptsOf_append (deeds more : List Deed) :
    receiptsOf (deeds ++ more) = receiptsOf deeds ++ receiptsOf more :=
  List.filterMap_append

def Receipt.For (stored : StoredPolicy) (receipt : Receipt) : Prop :=
  stored.id = receipt.id ∧ ∃ p, receipt.policy = some p ∧ stored.Keeps p ∧
    p.dataset.id = receipt.request.datasetId

theorem Receipt.For.shown {stored : StoredPolicy} {receipt : Receipt} (h : receipt.For stored) :
    (stored.id.text, stored.policy?) = (receipt.id.text, receipt.policy) := by
  obtain ⟨hid, p, hp, hkeeps, -⟩ := h
  rw [hid, hp, hkeeps.policy?]

theorem Receipt.For.concerns {stored : StoredPolicy} {receipt : Receipt} (h : receipt.For stored)
    (arrays : Bool) (datasetId : Int) :
    stored.concerns arrays datasetId = (receipt.request.datasetId == datasetId) := by
  obtain ⟨-, p, -, hkeeps, hdataset⟩ := h
  rw [hkeeps.concerns, hdataset]

/-- Where ids are distinct, the policy with an id is removed by leaving out those that have it. -/
theorem eraseP_eq_filter {policies : List StoredPolicy} (h : (policies.map (·.id)).Nodup)
    (id : PolicyId) : policies.eraseP (·.id == id) = policies.filter (·.id != id) := by
  induction policies with
  | nil => rfl
  | cons stored rest ih =>
    rw [List.map_cons, List.nodup_cons] at h
    by_cases hid : stored.id = id
    · have hrest : ∀ p ∈ rest, (p.id != id) = true := by
        intro p hp
        have hmem := List.mem_map_of_mem (f := fun p : StoredPolicy => p.id) hp
        simpa using fun heq : p.id = id => h.1 (hid.trans heq.symm ▸ hmem)
      rw [List.eraseP_cons_of_pos (by simpa using hid),
        List.filter_cons_of_neg (by simpa using hid), List.filter_eq_self.mpr hrest]
    · rw [List.eraseP_cons_of_neg (by simpa using hid),
        List.filter_cons_of_pos (by simpa using hid), ih h.2]

namespace Session

/-- Stored policies have distinct ids, all of which have been given out before. -/
structure Numbered (env : Environment) (s : Session) : Prop where
  distinct : (s.policies.map (·.id)).Nodup
  issued : ∀ stored ∈ s.policies, ∃ n < s.inserted, stored.id = env.server.policyId n

/-- The stored policies are those that the receipts are for, in order. -/
def Recorded (s : Session) (receipts : List Receipt) : Prop :=
  List.Forall₂ (fun stored receipt => receipt.For stored) s.policies receipts

theorem Numbered.unrepeated (hfresh : env.server.FreshIds) (h : s.Numbered env) :
    s.Unrepeated env := by
  refine ⟨h.distinct, fun stored hstored n hn heq => ?_⟩
  obtain ⟨m, hm, hid⟩ := h.issued stored hstored
  have := hfresh _ _ (hid.symm.trans heq)
  omega

theorem Numbered.saved (hfresh : env.server.FreshIds) {request : SaveRequest} {p : SavedPolicy}
    (h : s.Numbered env) (hsaved : s.Saved env request p t) : t.Numbered env := by
  refine ⟨((h.unrepeated hfresh).gains hfresh hsaved.gains).distinct, ?_⟩
  rw [hsaved.gains.policies, hsaved.gains.inserted]
  intro stored hstored
  rcases List.mem_append.mp hstored with hstored | hstored
  · obtain ⟨n, hn, heq⟩ := h.issued stored hstored
    exact ⟨n, by omega, heq⟩
  · rw [List.mem_singleton.mp hstored]
    exact ⟨s.inserted, by omega, rfl⟩

theorem Numbered.deleted (hfresh : env.server.FreshIds) {id : PolicyId} (h : s.Numbered env)
    (hdeleted : s.Deleted id t) : t.Numbered env := by
  refine ⟨((h.unrepeated hfresh).deleted hdeleted).distinct, ?_⟩
  rw [hdeleted.policies, hdeleted.inserted]
  intro stored hstored
  exact h.issued stored (List.mem_of_mem_eraseP hstored)

theorem Recorded.saved {request : SaveRequest} {p : SavedPolicy} {receipts : List Receipt}
    (h : s.Recorded receipts) (hsaved : s.Saved env request p t) :
    t.Recorded (receipts ++ [⟨env.server.policyId s.inserted, request, some p⟩]) := by
  have hkeeps : StoredPolicy.Keeps ⟨env.server.policyId s.inserted, p.toFields⟩ p := by
    obtain ⟨d, -, hp⟩ := Option.bind_eq_some_iff.mp hsaved.policyFor
    obtain ⟨time, documents, -, -, rfl⟩ := policyOn?_eq_some.mp hp
    exact ⟨rfl, time, rfl⟩
  unfold Recorded
  rw [hsaved.gains.policies]
  exact List.rel_append h (List.Forall₂.cons ⟨rfl, p, rfl, hkeeps, hsaved.dataset⟩ List.Forall₂.nil)

theorem Recorded.deleted {id : PolicyId} {receipts : List Receipt} (h : s.Recorded receipts)
    (hnumbered : s.Numbered env) (hdeleted : s.Deleted id t) :
    t.Recorded (receipts.filter (·.id != id)) := by
  unfold Recorded
  rw [hdeleted.policies, eraseP_eq_filter hnumbered.distinct]
  refine List.rel_filter ?_ h
  rintro stored receipt ⟨hid, -⟩
  change (stored.id != id) = true ↔ (receipt.id != id) = true
  rw [hid]

/-- Every event keeps the ledger: its deed does to the receipts what it does to the policies. -/
theorem ledger_step (hgiven : ¬ given "") (hdraws : ∀ n, given (env.identifier n))
    (hfresh : env.server.FreshIds) (hs : s.Undisturbed) (event : Event) {receipts : List Receipt}
    (hnumbered : s.Numbered env) (hrecorded : s.Recorded receipts) :
    (s.step env event).2.Numbered env ∧
      (s.step env event).2.Recorded ((s.deed? env event).toList.foldl Deed.apply receipts) := by
  rcases step_cases hgiven hdraws hs event with
    ⟨hdeed, hpolicies, hinserted⟩ | ⟨request, p, -, hdeed, hsaved⟩ | ⟨id, hdeed, hdeleted⟩
  · rw [hdeed]
    refine ⟨⟨?_, ?_⟩, ?_⟩
    · rw [hpolicies]
      exact hnumbered.distinct
    · rw [hpolicies, hinserted]
      exact hnumbered.issued
    · unfold Recorded
      rw [hpolicies]
      exact hrecorded
  · rw [hdeed]
    exact ⟨hnumbered.saved hfresh hsaved, hrecorded.saved hsaved⟩
  · rw [hdeed]
    exact ⟨hnumbered.deleted hfresh hdeleted, hrecorded.deleted hnumbered hdeleted⟩

theorem ledger_after (hgiven : ¬ given "") (hdraws : ∀ n, given (env.identifier n))
    (hfresh : env.server.FreshIds) (hs : s.Undisturbed) {events : List Event}
    (halone : ∀ event ∈ events, event.Alone)
    {receipts : List Receipt} (hnumbered : s.Numbered env) (hrecorded : s.Recorded receipts) :
    (s.after env events).Numbered env ∧
      (s.after env events).Recorded ((s.deeds env events).foldl Deed.apply receipts) := by
  induction events generalizing s receipts with
  | nil => exact ⟨hnumbered, hrecorded⟩
  | cons event rest ih =>
    have hevent := halone event (by simp)
    obtain ⟨hnumbered, hrecorded⟩ := ledger_step hgiven hdraws hfresh hs event hnumbered hrecorded
    rw [deeds, List.foldl_append]
    exact ih (hs.completed (completed_step hgiven hdraws hevent s))
      (fun e he => halone e (by simp [he])) hnumbered hrecorded

/-- A run that begins without stored policies leaves those that were saved and not deleted since. -/
theorem ledger_of_empty (hgiven : ¬ given "") (hdraws : ∀ n, given (env.identifier n))
    (hfresh : env.server.FreshIds) (hs : s.Undisturbed) {events : List Event}
    (halone : ∀ event ∈ events, event.Alone)
    (hempty : s.policies = []) :
    (s.after env events).Numbered env ∧
      (s.after env events).Recorded (outstanding (s.deeds env events)) :=
  ledger_after hgiven hdraws hfresh hs halone ⟨by simp [hempty], by simp [hempty]⟩
    (by simp [Recorded, hempty])

theorem issued_step (hgiven : ¬ given "") (hdraws : ∀ n, given (env.identifier n))
    (hs : s.Undisturbed) (event : Event) :
    (receiptsOf (s.deed? env event).toList = [] ∧ (s.step env event).2.inserted = s.inserted) ∨
      ∃ receipt, receiptsOf (s.deed? env event).toList = [receipt] ∧
        receipt.id = env.server.policyId s.inserted ∧
        (s.step env event).2.inserted = s.inserted + 1 := by
  rcases step_cases hgiven hdraws hs event with
    ⟨hdeed, -, hinserted⟩ | ⟨request, p, -, hdeed, hsaved⟩ | ⟨id, hdeed, hdeleted⟩
  · rw [hdeed]
    exact Or.inl ⟨rfl, hinserted⟩
  · rw [hdeed]
    exact Or.inr ⟨_, rfl, rfl, hsaved.gains.inserted⟩
  · rw [hdeed]
    exact Or.inl ⟨rfl, hdeleted.inserted⟩

theorem nodup_receipts (hgiven : ¬ given "") (hdraws : ∀ n, given (env.identifier n))
    (hfresh : env.server.FreshIds) (hs : s.Undisturbed) {events : List Event}
    (halone : ∀ event ∈ events, event.Alone) :
    ((receiptsOf (s.deeds env events)).map (·.id)).Nodup ∧
      ∀ receipt ∈ receiptsOf (s.deeds env events),
        ∃ n, s.inserted ≤ n ∧ receipt.id = env.server.policyId n := by
  induction events generalizing s with
  | nil => exact ⟨List.nodup_nil, by simp [deeds, receiptsOf]⟩
  | cons event rest ih =>
    have hevent := halone event (by simp)
    obtain ⟨hnodup, hissued⟩ := ih (hs.completed (completed_step hgiven hdraws hevent s))
      fun e he => halone e (by simp [he])
    rw [deeds, receiptsOf_append]
    rcases issued_step hgiven hdraws hs event with
      ⟨hnone, hinserted⟩ | ⟨receipt, hone, hid, hinserted⟩
    · rw [hinserted] at hissued
      rw [hnone]
      exact ⟨hnodup, hissued⟩
    · rw [hinserted] at hissued
      rw [hone]
      constructor
      · apply List.nodup_cons.mpr ⟨?_, hnodup⟩
        intro hmem
        obtain ⟨later, hlater, heq⟩ := List.mem_map.mp hmem
        obtain ⟨n, hn, hlaterId⟩ := hissued later hlater
        have := hfresh _ _ (hlaterId.symm.trans (heq.trans hid))
        omega
      · intro other hother
        rcases List.mem_cons.mp hother with rfl | hother
        · exact ⟨s.inserted, Nat.le_refl _, hid⟩
        · obtain ⟨n, hn, heq⟩ := hissued other hother
          exact ⟨n, by omega, heq⟩

/-- The id was given out, and no stored policy has it. -/
def Retired (env : Environment) (s : Session) (id : PolicyId) : Prop :=
  (∃ n < s.inserted, id = env.server.policyId n) ∧ ∀ stored ∈ s.policies, stored.id ≠ id

theorem retired_step (hgiven : ¬ given "") (hdraws : ∀ n, given (env.identifier n))
    (hfresh : env.server.FreshIds) (hs : s.Undisturbed) (event : Event) {id : PolicyId}
    (h : s.Retired env id) :
    (s.step env event).2.Retired env id := by
  obtain ⟨⟨n, hn, rfl⟩, habsent⟩ := h
  rcases step_cases hgiven hdraws hs event with
    ⟨-, hpolicies, hinserted⟩ | ⟨request, p, -, -, hsaved⟩ | ⟨id, -, hdeleted⟩
  · unfold Retired
    rw [hpolicies, hinserted]
    exact ⟨⟨n, hn, rfl⟩, habsent⟩
  · unfold Retired
    rw [hsaved.gains.policies, hsaved.gains.inserted]
    refine ⟨⟨n, by omega, rfl⟩, fun stored hstored heq => ?_⟩
    rcases List.mem_append.mp hstored with hstored | hstored
    · exact habsent stored hstored heq
    · rw [List.mem_singleton.mp hstored] at heq
      have := hfresh _ _ heq
      omega
  · unfold Retired
    rw [hdeleted.policies, hdeleted.inserted]
    exact ⟨⟨n, hn, rfl⟩, fun stored hstored => habsent stored (List.mem_of_mem_eraseP hstored)⟩

/-- An id that has been given out and deleted does not come back. -/
theorem retired_after (hgiven : ¬ given "") (hdraws : ∀ n, given (env.identifier n))
    (hfresh : env.server.FreshIds) (hs : s.Undisturbed) {events : List Event}
    (halone : ∀ event ∈ events, event.Alone)
    {id : PolicyId} (h : s.Retired env id) : (s.after env events).Retired env id :=
  (after_of_step hgiven hdraws
    (fun _ event _ hs h => retired_step hgiven hdraws hfresh hs event h)
    hs halone h).2

theorem Deleted.retired {id : PolicyId} (h : s.Deleted id t) (hnumbered : s.Numbered env) :
    t.Retired env id := by
  obtain ⟨stored, hstored, rfl⟩ := h.found
  unfold Retired
  rw [h.inserted, h.policies, eraseP_eq_filter hnumbered.distinct]
  refine ⟨hnumbered.issued stored hstored, fun other hother => ?_⟩
  simpa using (List.mem_filter.mp hother).2

end Session
end UsagePolicy
