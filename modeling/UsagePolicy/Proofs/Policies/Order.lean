import Mathlib.Data.List.Perm.Basic
import UsagePolicy.Proofs.Calendar.TextOrder
import UsagePolicy.Proofs.Policies.Accounts

/-!
# The order of listings

The database sorts a listing by the texts of the times of creation. It may leave policies with equal
texts in the order in which they were saved, but need not. As a text a whole second comes after
every fraction of it, so a listing is sorted as if each whole second were one second later. It is
oldest first exactly if it does not show a policy that was created at a whole second beside one that
was created within that second.
-/
namespace UsagePolicy

variable {env : Environment}

theorem filter_policiesFor (hties : env.server.order.KeepsTies) {policies : List StoredPolicy}
    {alike : StoredPolicy → Bool}
    (h : ∀ p ∈ policies, ∀ q ∈ policies, alike p = true → alike q = true → p.noLater q = true)
    (n : Int) : (env.server.policiesFor policies n).filter alike =
      (policies.filter (·.concerns env.server.arrays n)).filter alike := by
  apply hties
  intro p hp q hq
  exact h p (List.mem_of_mem_filter hp) q (List.mem_of_mem_filter hq)

namespace Timestamp

/-- Where a time stands in a listing: a whole second counts as if it were one second later. -/
def place (t : Timestamp) : Int :=
  if t.instant % 1000000 = 0 then t.instant + 1000000 else t.instant

/-- The time lies after the other, which is a whole second, but within that second. -/
def InSecondFrom (t u : Timestamp) : Prop :=
  u.instant % 1000000 = 0 ∧ u.instant < t.instant ∧ t.instant < u.instant + 1000000

instance (t u : Timestamp) : Decidable (t.InSecondFrom u) :=
  inferInstanceAs (Decidable (_ ∧ _ ∧ _))

theorem instant_le_of_place_le {t u : Timestamp} (h : t.place ≤ u.place)
    (hsecond : ¬ t.InSecondFrom u) : t.instant ≤ u.instant := by
  unfold place at h
  unfold InSecondFrom at hsecond
  split_ifs at h <;> omega

theorem InSecondFrom.place_lt {t u : Timestamp} (h : t.InSecondFrom u) : t.place < u.place := by
  unfold InSecondFrom at h
  unfold place
  split_ifs <;> omega

/-- Times in the order of a listing are in the order of their instants exactly if no whole second is
beside a fraction of it. -/
theorem pairwise_instant_iff {times : List Timestamp}
    (h : times.Pairwise fun t u => t.place ≤ u.place) :
    times.Pairwise (fun t u => t.instant ≤ u.instant) ↔
      ∀ t ∈ times, ∀ u ∈ times, ¬ t.InSecondFrom u := by
  constructor
  · intro hinstant
    have hboth := h.and hinstant
    apply List.Pairwise.forall_of_forall_of_flip
    · intro t _ hself
      exact absurd hself.place_lt (lt_irrefl _)
    · refine hboth.imp fun {t u} htu hsecond => ?_
      exact absurd htu.2 (not_le.mpr hsecond.2.1)
    · refine hboth.imp fun {t u} htu hsecond => ?_
      exact absurd htu.1 (not_le.mpr hsecond.place_lt)
  · intro hsecond
    refine h.imp_of_mem fun ht hu htu => ?_
    exact instant_le_of_place_le htu (hsecond _ ht _ hu)

end Timestamp

theorem UniversalTime.precedes_toJson_iff (t u : UniversalTime) :
    StoredPolicy.precedes t.toTimestamp.toJson u.toTimestamp.toJson = true ↔
      t.toTimestamp.place ≤ u.toTimestamp.place := by
  have ht := t.time.microsecond.isLt
  have hu := u.time.microsecond.isLt
  have hlt := interchangeText_lt_iff u t
  have hprecedes : StoredPolicy.precedes t.toTimestamp.toJson u.toTimestamp.toJson = true ↔
      ¬ u.toTimestamp.interchangeText < t.toTimestamp.interchangeText := by
    simp only [Timestamp.toJson, StoredPolicy.precedes, decide_eq_true_eq]
    change ¬ (String.ofList _).toList < (String.ofList _).toList ↔ _
    rw [String.toList_ofList, String.toList_ofList]
  rw [hprecedes, hlt]
  unfold Timestamp.place
  rw [instant_eq, instant_eq]
  split_ifs <;> omega

namespace StoredPolicy

/-- The document of a stored policy names the time of the clock at which it was created. -/
def Dated (stored : StoredPolicy) : Prop :=
  ∃ time : UniversalTime, stored.document.get? "created_at" = some time.toTimestamp.toJson

theorem Dated.createdAt? {stored : StoredPolicy} {time : UniversalTime}
    (h : stored.document.get? "created_at" = some time.toTimestamp.toJson) :
    stored.createdAt? = some time.toTimestamp := by
  rw [StoredPolicy.createdAt?, h, Option.bind_some, Schema.timestamp_toJson time.isWholeMinutes]
  rfl

theorem Dated.noLater_iff {p q : StoredPolicy} (hp : p.Dated) (hq : q.Dated) :
    p.noLater q = true ↔
      ∀ t ∈ p.createdAt?, ∀ u ∈ q.createdAt?, t.place ≤ u.place := by
  obtain ⟨time, htime⟩ := hp
  obtain ⟨time', htime'⟩ := hq
  rw [Dated.createdAt? htime, Dated.createdAt? htime', noLater, Fields.get, Fields.get, htime,
    htime', Option.getD_some, Option.getD_some, UniversalTime.precedes_toJson_iff]
  simp

end StoredPolicy

namespace Session

variable {s : Session} {event : Event}

/-- Every stored policy is dated by the clock, and they are stored in the order of these ids, which
is the one in which they were saved. -/
structure Filed (s : Session) (ids : List PolicyId) : Prop where
  dated : ∀ stored ∈ s.policies, stored.Dated
  order : (s.policies.map (·.id)).Sublist ids

/-- Whatever the event, a policy that is newly stored was saved by it and is dated by the clock. -/
theorem step_stored (env : Environment) (event : Event) (s : Session) :
    ((∀ receipt, s.deed? env event ≠ some (.saved receipt)) ∧
      (s.step env event).2.policies.Sublist s.policies) ∨
    ∃ receipt document, s.deed? env event = some (.saved receipt) ∧
      (s.step env event).2.policies = s.policies ++ [⟨receipt.id, document⟩] ∧
      StoredPolicy.Dated ⟨receipt.id, document⟩ := by
  by_cases hsave : ∃ request, event.task? = some (.save request)
  · obtain ⟨request, htask⟩ := hsave
    rcases Policies.run_save_cases env request s.cleared with
      ⟨failure, t, hrun, ht⟩ | ⟨c, u, p, written, t, -, -, hp, -, hrun, ht⟩
    · obtain ⟨hstep, hdeed⟩ := step_of_run_save htask hrun
      left
      rw [hdeed, hstep, ht.policies]
      exact ⟨by simp [Except.toOption], List.Sublist.refl _⟩
    · obtain ⟨hstep, hdeed⟩ := step_of_run_save htask hrun
      obtain ⟨time, documents, -, -, rfl⟩ := policyOn?_eq_some.mp hp
      right
      rw [hdeed, hstep, ht.policies]
      exact ⟨_, _, rfl, rfl, time, rfl⟩
  left
  by_cases hdelete : ∃ reference, event.task? = some (.delete reference)
  · obtain ⟨reference, htask⟩ := hdelete
    rcases step_delete htask env s with ⟨hdeed, hkept⟩ | ⟨id, hdeed, hdeleted⟩
    · rw [hdeed, hkept.policies]
      exact ⟨by simp, List.Sublist.refl _⟩
    · rw [hdeed, hdeleted.policies]
      exact ⟨by simp, List.eraseP_sublist⟩
  · obtain ⟨hdeed, hpolicies, -⟩ := step_other env s
      (fun request h => hsave ⟨request, h⟩) fun reference h => hdelete ⟨reference, h⟩
    rw [hdeed, hpolicies]
    exact ⟨by simp, List.Sublist.refl _⟩

theorem Filed.step {ids : List PolicyId} (h : s.Filed ids) :
    (s.step env event).2.Filed
      (ids ++ (receiptsOf (s.deed? env event).toList).map (·.id)) := by
  rcases step_stored env event s with ⟨-, hsub⟩ | ⟨receipt, document, hdeed, hpolicies, hdated⟩
  · constructor
    · intro stored hstored
      exact h.dated stored (hsub.subset hstored)
    · exact ((hsub.map _).trans h.order).trans (List.sublist_append_left _ _)
  · rw [hdeed]
    constructor
    · rw [hpolicies]
      intro stored hstored
      rcases List.mem_append.mp hstored with hstored | hstored
      · exact h.dated stored hstored
      · rw [List.mem_singleton.mp hstored]
        exact hdated
    · rw [hpolicies, List.map_append]
      exact h.order.append (List.Sublist.refl _)

theorem Filed.after {ids : List PolicyId} (h : s.Filed ids) (events : List Event) :
    (s.after env events).Filed (ids ++ (receiptsOf (s.deeds env events)).map (·.id)) := by
  induction events generalizing s ids with
  | nil =>
    rw [deeds, receiptsOf, List.filterMap_nil, List.map_nil, List.append_nil]
    exact h
  | cons event rest ih =>
    have hrest := ih (@Filed.step env s event ids h)
    rw [deeds, receiptsOf_append, List.map_append, ← List.append_assoc]
    exact hrest

variable {n : Int} {entries : List PolicyEntry}

theorem dated_of_step_listing
    (h : (s.step env (.listing n)).1 = .outcome (.ok (.policies entries))) :
    Policies.dated entries =
      (env.server.policiesFor s.policies n).map fun p => (p.id.text, p.createdAt?) := by
  have hprogram : (Task.listPolicies n).program =
      Policies.list n >>= fun entries => pure (.policies entries) := rfl
  rw [Event.listing, step_call rfl, outcome, hprogram, Answer.outcome.injEq] at h
  obtain ⟨found, t, hlist, hpure⟩ := Program.run_seq_eq_ok.mp (Prod.ext h rfl)
  cases hpure
  have hdated := Policies.run_list_eq_ok hlist
  exact hdated

theorem Filed.pairwise_place {ids : List PolicyId} (hfiled : s.Filed ids)
    (h : (s.step env (.listing n)).1 = .outcome (.ok (.policies entries))) :
    (entries.map (·.policy.createdAt)).Pairwise fun t u => t.place ≤ u.place := by
  have hordered : (env.server.policiesFor s.policies n).Pairwise fun p q => p.noLater q = true :=
    env.server.order.ordered _
  have hsorted : (env.server.policiesFor s.policies n).Pairwise fun p q =>
      ∀ t ∈ p.createdAt?, ∀ u ∈ q.createdAt?, t.place ≤ u.place := by
    refine hordered.imp_of_mem fun {p q} hp hq hle => ?_
    have hp := hfiled.dated p (Policies.mem_of_mem_policiesFor hp)
    have hq := hfiled.dated q (Policies.mem_of_mem_policiesFor hq)
    exact (hp.noLater_iff hq).mp hle
  have hshown : (Policies.dated entries).Pairwise fun x y =>
      ∀ t ∈ x.2, ∀ u ∈ y.2, t.place ≤ u.place := by
    rw [dated_of_step_listing h, List.pairwise_map]
    exact hsorted
  rw [Policies.dated, List.pairwise_map] at hshown
  rw [List.pairwise_map]
  exact hshown.imp fun hle => hle _ rfl _ rfl

/-- The policies of one instant are listed in the order in which they were saved. -/
theorem Filed.sublist_of_instant (hties : env.server.order.KeepsTies) {ids : List PolicyId}
    (hfiled : s.Filed ids)
    (h : (s.step env (.listing n)).1 = .outcome (.ok (.policies entries))) (i : Int) :
    ((entries.filter (·.policy.createdAt.instant == i)).map (·.id)).Sublist
      (ids.map (·.text)) := by
  have halike : ∀ p ∈ s.policies, ∀ q ∈ s.policies,
      (p.createdAt?.map Timestamp.instant == some i) = true →
      (q.createdAt?.map Timestamp.instant == some i) = true → p.noLater q = true := by
    intro p hp q hq hpi hqi
    rw [(hfiled.dated p hp).noLater_iff (hfiled.dated q hq)]
    intro t ht u hu
    rw [Option.mem_def.mp ht, Option.map_some, beq_iff_eq, Option.some_inj] at hpi
    rw [Option.mem_def.mp hu, Option.map_some, beq_iff_eq, Option.some_inj] at hqi
    simp [Timestamp.place, hpi, hqi]
  have hshown : (entries.filter (·.policy.createdAt.instant == i)).map (·.id) =
      ((Policies.dated entries).filter fun x => x.2.map Timestamp.instant == some i).map (·.1) := by
    simp [Policies.dated, List.filter_map, Function.comp_def]
  have hstored :
      ((env.server.policiesFor s.policies n).map fun p => (p.id.text, p.createdAt?)).filter
        (fun x => x.2.map Timestamp.instant == some i) =
      (((s.policies.filter (·.concerns env.server.arrays n)).filter fun p =>
        p.createdAt?.map Timestamp.instant == some i)).map fun p => (p.id.text, p.createdAt?) := by
    rw [List.filter_map, ← filter_policiesFor hties halike]
    rfl
  rw [hshown, dated_of_step_listing h, hstored, List.map_map]
  have hsub : ((s.policies.filter (·.concerns env.server.arrays n)).filter fun p =>
      p.createdAt?.map Timestamp.instant == some i).Sublist s.policies :=
    List.filter_sublist.trans List.filter_sublist
  have horder := (hsub.map (·.id)).trans hfiled.order
  simpa [Function.comp_def] using horder.map (·.text)

theorem times_of_shown {receipts : List Receipt} {times : List Timestamp}
    (h : (Policies.shown entries).Perm (receipts.map fun r => (r.id.text, r.policy)))
    (htimes : (receipts.map fun r => r.policy.map (·.createdAt)) = times.map some) :
    (entries.map (·.policy.createdAt)).Perm times := by
  have hsome : ((entries.map (·.policy.createdAt)).map some).Perm (times.map some) := by
    rw [← htimes]
    simpa [Policies.shown, Function.comp_def] using h.map fun shown => shown.2.map (·.createdAt)
  exact (List.map_perm_map_iff (Option.some_injective _)).mp hsome

/-- Whatever events lead up to it, a listing is sorted as if whole seconds were one second later. If
the database keeps the order of ties, policies of one instant are shown in the order in which they
were saved. A listing is oldest first exactly if it does not show a time at a whole second beside
one within that second. -/
theorem listing_order (hpolicies : s.policies = []) {events : List Event}
    (h : ((s.after env events).step env (.listing n)).1 = .outcome (.ok (.policies entries))) :
    (entries.map (·.policy.createdAt)).Pairwise (fun t u => t.place ≤ u.place) ∧
    (env.server.order.KeepsTies →
      ∀ i, ((entries.filter (·.policy.createdAt.instant == i)).map (·.id)).Sublist
        ((receiptsOf (s.deeds env events)).map (·.id.text))) ∧
    ((entries.map (·.policy.createdAt)).Pairwise (fun t u => t.instant ≤ u.instant) ↔
      ∀ t ∈ entries.map (·.policy.createdAt), ∀ u ∈ entries.map (·.policy.createdAt),
        ¬ t.InSecondFrom u) := by
  have hempty : s.Filed [] := ⟨by simp [hpolicies], by simp [hpolicies]⟩
  have hfiled : (s.after env events).Filed ([] ++ (receiptsOf (s.deeds env events)).map (·.id)) :=
    hempty.after events
  have hplace := hfiled.pairwise_place h
  refine ⟨hplace, ?_, Timestamp.pairwise_instant_iff hplace⟩
  intro hties i
  simpa [Function.comp_def] using hfiled.sublist_of_instant hties h i

/-- Two policies saved at the same half second and one saved at the whole second after it are listed
oldest first, and those of one instant in the order in which they were saved. -/
theorem listing_order_seconds_apart :
    let s := Sample.session (Sample.noon 0 500000)
    let events : List Event :=
      [Sample.save 1, Sample.save 1, .setClock (.ok (Sample.noon 1 0)), Sample.save 1]
    ∃ entries,
      ((s.after Sample.environment events).step Sample.environment (.listing 1)).1 =
        .outcome (.ok (.policies entries)) ∧
      (entries.map (·.policy.createdAt)).Pairwise (fun t u => t.instant ≤ u.instant) ∧
      ∀ i, ((entries.filter (·.policy.createdAt.instant == i)).map (·.id)).Sublist
        ["665f1c2e9b1e8a3d4c2b1a00", "665f1c2e9b1e8a3d4c2b1a01", "665f1c2e9b1e8a3d4c2b1a02"] := by
  intro s events
  have hroutine : ∀ event ∈ events, event.Routine := by
    simp [events, Event.Routine, Sample.save]
  obtain ⟨entries, hanswer, hshown⟩ := listing_after (s := s) (n := 1) Sample.identifier_ne_empty
    (Server.freshIds_counting _) rfl (Sample.undisturbed_session _) rfl hroutine rfl
    (by decide +kernel)
  obtain ⟨-, hsaved, horder⟩ := listing_order rfl hanswer
  refine ⟨entries, hanswer, horder.mpr ?_, ?_⟩
  · let times := [Sample.noon 0 500000, Sample.noon 0 500000, Sample.noon 1 0].map (·.toTimestamp)
    have htimes : (entries.map (·.policy.createdAt)).Perm times :=
      times_of_shown hshown (by decide +kernel)
    have hapart : ∀ t ∈ times, ∀ u ∈ times, ¬ t.InSecondFrom u := by decide +kernel
    intro t ht u hu
    exact hapart t (htimes.subset ht) u (htimes.subset hu)
  · have hids : (receiptsOf (s.deeds Sample.environment events)).map (·.id.text) =
        ["665f1c2e9b1e8a3d4c2b1a00", "665f1c2e9b1e8a3d4c2b1a01", "665f1c2e9b1e8a3d4c2b1a02"] := by
      decide +kernel
    rw [← hids]
    exact hsaved Arrangement.keepsTies_stable

/-- A policy that is saved half a second after another one, which was saved at a whole second, is
listed before it. -/
theorem half_second_listed_first :
    let s := Sample.session (Sample.noon 0 0)
    let events : List Event :=
      [Sample.save 1, .setClock (.ok (Sample.noon 0 500000)), Sample.save 1]
    ∃ entries,
      ((s.after Sample.environment events).step Sample.environment (.listing 1)).1 =
        .outcome (.ok (.policies entries)) ∧
      ¬ (entries.map (·.policy.createdAt)).Pairwise fun t u => t.instant ≤ u.instant := by
  intro s events
  have hroutine : ∀ event ∈ events, event.Routine := by
    simp [events, Event.Routine, Sample.save]
  obtain ⟨entries, hanswer, hshown⟩ := listing_after (s := s) (n := 1) Sample.identifier_ne_empty
    (Server.freshIds_counting _) rfl (Sample.undisturbed_session _) rfl hroutine rfl
    (by decide +kernel)
  have hfiled : (s.after Sample.environment events).Filed
      ([] ++ (receiptsOf (s.deeds Sample.environment events)).map (·.id)) :=
    Filed.after ⟨by simp [s, Sample.session, Session.initial],
      by simp [s, Sample.session, Session.initial]⟩ events
  have htimes : (entries.map (·.policy.createdAt)).Perm
      ([Sample.noon 0 0, Sample.noon 0 500000].map (·.toTimestamp)) :=
    times_of_shown hshown (by decide +kernel)
  refine ⟨entries, hanswer, ?_⟩
  rw [Timestamp.pairwise_instant_iff (hfiled.pairwise_place hanswer)]
  intro hapart
  have hfraction : (Sample.noon 0 500000).toTimestamp ∈ entries.map (·.policy.createdAt) :=
    htimes.symm.subset (by simp)
  have hwhole : (Sample.noon 0 0).toTimestamp ∈ entries.map (·.policy.createdAt) :=
    htimes.symm.subset (by simp)
  exact hapart _ hfraction _ hwhole (by decide +kernel)

end Session
end UsagePolicy
