import Mathlib.Data.List.Nodup
import UsagePolicy.Proofs.Policies.Ledger

/-!
# No policy is lost

A listing shows the policies of a dataset that were saved and not deleted since, each under the id
that its save returned and as it was then. A deletion is refused if the database does not read its
text as an id, or reads none that a stored policy has, and removes one policy otherwise. Both hold
after every run in which nobody else writes and the service is not stopped, for a listing or a
deletion that no fault hits.
-/
namespace UsagePolicy

variable {env : Environment} {s t : Session} {event : Event}

def Answer.RefusedWith (answer : Answer) (status : Nat) : Prop :=
  ∃ refusal, answer = .outcome (.error (.refused refusal)) ∧ refusal.status = status

theorem Answer.refusedWith_refusal {refusal : Refusal} {status : Nat} :
    RefusedWith (.outcome (.error (.refused refusal))) status ↔ refusal.status = status := by
  simp [RefusedWith]

theorem Answer.not_refusedWith_ok {result : TaskResult} {status : Nat} :
    ¬ RefusedWith (.outcome (.ok result)) status := by
  simp [RefusedWith]

/-- The event lets no other writer in and does not stop the service. -/
def Event.Routine : Event → Prop
  | expectWriter _ | call .stop => False
  | _ => True

theorem Event.Routine.alone (h : event.Routine) : event.Alone := by
  cases event with
  | expectWriter _ => exact h
  | request _ | call _ | setClock _ | expectFault _ _ => trivial

theorem Event.Routine.opens?_ne (h : event.Routine) : event.opens? ≠ some false := by
  intro hopens
  cases event with
  | call c =>
    cases c with
    | stop => exact h
    | _ => cases hopens
  | _ => cases hopens

namespace Session

theorem Recorded.keeps {receipts : List Receipt} (h : s.Recorded receipts) :
    ∀ stored ∈ s.policies, ∃ p, stored.Keeps p := by
  have hboth : List.Forall₂ (fun stored receipt => (∃ p, stored.Keeps p) ∧ receipt.For stored)
      s.policies receipts := by
    refine h.imp fun stored receipt hfor => ⟨?_, hfor⟩
    obtain ⟨-, p, -, hkeeps, -⟩ := hfor
    exact ⟨p, hkeeps⟩
  exact ((List.forall₂_and_left _ _).mp hboth).1

theorem Recorded.kept_filter {receipts : List Receipt} (h : s.Recorded receipts) (arrays : Bool)
    (n : Int) :
    Policies.kept (s.policies.filter (·.concerns arrays n)) =
      (receipts.filter (·.request.datasetId == n)).map fun r => (r.id.text, r.policy) := by
  have hfilter : List.Forall₂ (fun stored receipt => receipt.For stored)
      (s.policies.filter (·.concerns arrays n)) (receipts.filter (·.request.datasetId == n)) := by
    refine List.rel_filter ?_ h
    intro stored receipt hfor
    change stored.concerns arrays n = true ↔ (receipt.request.datasetId == n) = true
    rw [hfor.concerns]
  have hmap : List.Forall₂ (fun shown receipt => shown = receipt)
      (Policies.kept (s.policies.filter (·.concerns arrays n)))
      ((receipts.filter (·.request.datasetId == n)).map fun r => (r.id.text, r.policy)) := by
    refine List.forall₂_map_left_iff.mpr (List.forall₂_map_right_iff.mpr (hfilter.imp ?_))
    intro stored receipt hfor
    exact hfor.shown
  rwa [List.forall₂_eq_eq_eq] at hmap

theorem step_list {receipts : List Receipt} {n : Int} (hrecorded : s.Recorded receipts)
    (hconnected : s.handle.isSome = true) (hwide : tooWide n = false)
    (hfault : s.faults.lookup .find = none) :
    ∃ entries, (s.step env (.listing n)).1 = .outcome (.ok (.policies entries)) ∧
      Policies.shown entries = Policies.kept (env.server.policiesFor s.policies n) := by
  obtain ⟨entries, hrun, hshown⟩ := Policies.run_list (s := s.cleared) hconnected hwide hfault
    hrecorded.keeps
  refine ⟨entries, ?_, hshown⟩
  have htask : (Event.listing n).task? = some (.listPolicies n) := rfl
  obtain ⟨-, houtcome⟩ := step_of_run htask rfl hrun
  rw [Event.listing, step_call rfl, houtcome]
  rfl

theorem step_deletion {text : String} (hconnected : s.handle.isSome = true)
    (hfault : s.faults.lookup .delete = none) :
    s.step env (.deletion text) = match env.server.readId text with
      | none => (.outcome (.error (.refused .invalidPolicyId)), s.cleared)
      | some id =>
        (.outcome (if s.policies.any (·.id == id) then .ok .deleted
          else .error (.refused .policyNotFound)),
        { s.cleared with policies := s.policies.eraseP (·.id == id) }) := by
  have hrun := @Policies.run_delete_text_of_no_fault env s.cleared text hconnected hfault
  have hprogram : (Task.delete (.text text)).program =
      Policies.delete (.text text) >>= fun _ => pure .deleted := rfl
  apply Prod.ext
  · rw [Event.deletion, step_call rfl, outcome, hprogram, Program.run_seq, hrun]
    cases env.server.readId text with
    | none => rfl
    | some id => cases h : s.policies.any (·.id == id) <;> simp [cleared, h]
  · rw [Event.deletion, step_task rfl, hprogram, Program.run_seq, hrun]
    cases env.server.readId text with
    | none => rfl
    | some id => cases h : s.policies.any (·.id == id) <;> simp [cleared, h]

theorem deletion_cases {text : String} (hconnected : s.handle.isSome = true)
    (hfault : s.faults.lookup .delete = none) :
    (env.server.readId text = none ∧
      (s.step env (.deletion text)).1 = .outcome (.error (.refused .invalidPolicyId)) ∧
      (s.step env (.deletion text)).2.policies = s.policies) ∨
    (∃ id, env.server.readId text = some id ∧ (∀ stored ∈ s.policies, stored.id ≠ id) ∧
      (s.step env (.deletion text)).1 = .outcome (.error (.refused .policyNotFound)) ∧
      (s.step env (.deletion text)).2.policies = s.policies) ∨
    ∃ id, env.server.readId text = some id ∧
      (s.step env (.deletion text)).1 = .outcome (.ok .deleted) ∧
      s.Deleted id (s.step env (.deletion text)).2 := by
  rw [step_deletion hconnected hfault]
  cases hid : env.server.readId text with
  | none => exact Or.inl ⟨rfl, rfl, rfl⟩
  | some id =>
    by_cases hfound : ∃ stored ∈ s.policies, stored.id = id
    · have hany : s.policies.any (·.id == id) = true := by simpa using hfound
      exact Or.inr (Or.inr ⟨id, rfl, by simp [hany], hfound, rfl, rfl, ⟨rfl, rfl⟩⟩)
    · have habsent : ∀ stored ∈ s.policies, stored.id ≠ id := by simpa using hfound
      have hany : s.policies.any (·.id == id) = false := by simpa using hfound
      exact Or.inr (Or.inl ⟨id, rfl, habsent, by simp [hany], Policies.eraseP_of_not_any hany⟩)

/-- What a deletion by a text comes to that no fault hits: it is refused with 400 for a text that
the database does not read as an id, with 404 if no stored policy has the id, and otherwise it
removes the one that has it. Once a policy has been deleted, deleting it again is refused with 404,
whatever happens in between. Texts without blanks among their digits are read if they are ids. -/
structure DeletesOne (env : Environment) (s : Session) (text : String) : Prop where
  unread : (s.step env (.deletion text)).1.RefusedWith 400 ↔ env.server.readId text = none
  malformed : ¬ PolicyId.IsSpaced text →
    ((s.step env (.deletion text)).1.RefusedWith 400 ↔ ¬ PolicyId.IsText text)
  read : PolicyId.IsText text → env.server.readId text = PolicyId.ofText? text
  missing : (s.step env (.deletion text)).1.RefusedWith 404 ↔
    (env.server.readId text).isSome = true ∧
      ∀ stored ∈ s.policies, env.server.readId text ≠ some stored.id
  removes : ∀ stored ∈ s.policies, env.server.readId text = some stored.id →
    (s.step env (.deletion text)).1 = .outcome (.ok .deleted) ∧
      ∃ front back, s.policies = front ++ stored :: back ∧
        (s.step env (.deletion text)).2.policies = front ++ back
  keeps : (s.step env (.deletion text)).1 ≠ .outcome (.ok .deleted) →
    (s.step env (.deletion text)).2.policies = s.policies
  again : (s.step env (.deletion text)).1 = .outcome (.ok .deleted) →
    ∀ more : List Event, (∀ event ∈ more, event.Routine) →
      (s.after env (.deletion text :: more)).faults.lookup .delete = none →
        ((s.after env (.deletion text :: more)).step env (.deletion text)).1.RefusedWith 404

variable {given : String → Prop} {text : String}

theorem Deleted.again (hgiven : ¬ given "") (hdraws : ∀ n, given (env.identifier n))
    (hfresh : env.server.FreshIds) (ht : t.Undisturbed) (hnumbered : s.Numbered env)
    {id : PolicyId} (hdeleted : s.Deleted id t) (hid : env.server.readId text = some id)
    (hconnected : t.handle.isSome = true) {more : List Event}
    (hmore : ∀ event ∈ more, event.Routine)
    (hfault : (t.after env more).faults.lookup .delete = none) :
    ((t.after env more).step env (.deletion text)).1.RefusedWith 404 := by
  have halone : ∀ event ∈ more, event.Alone := fun event hevent => (hmore event hevent).alone
  have hstill : (t.after env more).handle.isSome = true :=
    connected_after env (fun event hevent => (hmore event hevent).opens?_ne) hconnected
  obtain ⟨-, habsent⟩ := retired_after hgiven hdraws hfresh ht halone (hdeleted.retired hnumbered)
  have hany : (t.after env more).policies.any (·.id == id) = false := by simpa using habsent
  rw [step_deletion hstill hfault, hid]
  simp only [hany]
  exact Answer.refusedWith_refusal.mpr rfl

theorem deletion_refused_iff (hconnected : s.handle.isSome = true)
    (hfault : s.faults.lookup .delete = none) :
    (s.step env (.deletion text)).1.RefusedWith 400 ↔ env.server.readId text = none := by
  rcases @deletion_cases env s text hconnected hfault with
    ⟨hid, hanswer, -⟩ | ⟨id, hid, -, hanswer, -⟩ | ⟨id, hid, hanswer, -⟩
  · simp [hanswer, hid, Answer.refusedWith_refusal, Refusal.status]
  · simp [hanswer, hid, Answer.refusedWith_refusal, Refusal.status]
  · simp [hanswer, hid, Answer.not_refusedWith_ok]

theorem deletesOne (hgiven : ¬ given "") (hdraws : ∀ n, given (env.identifier n))
    (hfresh : env.server.FreshIds) (hreads : env.server.ReadsIds) (hs : s.Undisturbed)
    (hnumbered : s.Numbered env) (hconnected : s.handle.isSome = true)
    (hfault : s.faults.lookup .delete = none) : s.DeletesOne env text := by
  have hunread := @deletion_refused_iff env s text hconnected hfault
  have hmalformed := fun hspaced => hunread.trans (hreads.readId_eq_none_iff hspaced)
  rcases @deletion_cases env s text hconnected hfault with
    ⟨hid, hanswer, hpolicies⟩ | ⟨id, hid, habsent, hanswer, hpolicies⟩ |
    ⟨id, hid, hanswer, hdeleted⟩
  · exact {
      unread := hunread
      malformed := hmalformed
      read := hreads.readId_of_isText
      missing := by simp [hanswer, hid, Answer.refusedWith_refusal, Refusal.status]
      removes := fun stored _ hstored => by simp [hid] at hstored
      keeps := fun _ => hpolicies
      again := fun hdeleted => by simp [hanswer] at hdeleted }
  · have hmissing : ∀ stored ∈ s.policies, env.server.readId text ≠ some stored.id := by
      intro stored hstored heq
      exact habsent stored hstored (Option.some_inj.mp (heq.symm.trans hid))
    exact {
      unread := hunread
      malformed := hmalformed
      read := hreads.readId_of_isText
      missing := by
        rw [hanswer, Answer.refusedWith_refusal, hid]
        exact iff_of_true rfl ⟨rfl, hid ▸ hmissing⟩
      removes := fun stored hstored heq => absurd heq (hmissing stored hstored)
      keeps := fun _ => hpolicies
      again := fun hdeleted => by simp [hanswer] at hdeleted }
  · obtain ⟨front, first, back, hsplit, hfirst, -, hpolicies⟩ := hdeleted.split hnumbered.distinct
    have hmem : first ∈ s.policies := by simp [hsplit]
    refine {
      unread := hunread
      malformed := hmalformed
      read := hreads.readId_of_isText
      missing := ?_
      removes := ?_
      keeps := fun hkept => absurd hanswer hkept
      again := ?_ }
    · rw [hanswer, iff_false_left Answer.not_refusedWith_ok]
      intro hmissing
      exact hmissing.2 first hmem (hid.trans (congrArg some hfirst.symm))
    · intro stored hstored heq
      have hstoredId : stored.id = id := Option.some_inj.mp (heq.symm.trans hid)
      have hsame : stored.id = first.id := hstoredId.trans hfirst.symm
      obtain rfl := List.inj_on_of_nodup_map hnumbered.distinct hstored hmem hsame
      exact ⟨hanswer, front, back, hsplit, hpolicies⟩
    · intro _ more hmore hlater
      have halone : (Event.deletion text).Alone := trivial
      have ht := hs.completed (completed_step hgiven hdraws halone s)
      have hstill : (s.step env (.deletion text)).2.handle.isSome = true :=
        hdeleted.connection.handle ▸ hconnected
      exact hdeleted.again hgiven hdraws hfresh ht hnumbered hid hstill hmore hlater

/-- A listing that no fault hits shows the policies of its dataset that were saved and not deleted
since. -/
theorem listing_after (hdraws : ∀ n, env.identifier n ≠ "") (hfresh : env.server.FreshIds)
    (hpolicies : s.policies = []) (hs : s.Undisturbed) (hconnected : s.handle.isSome = true)
    {events : List Event} (hroutine : ∀ event ∈ events, event.Routine) {n : Int}
    (hwide : tooWide n = false) (hfault : (s.after env events).faults.lookup .find = none) :
    ∃ entries,
      ((s.after env events).step env (.listing n)).1 = .outcome (.ok (.policies entries)) ∧
      (Policies.shown entries).Perm
        (((outstanding (s.deeds env events)).filter (·.request.datasetId == n)).map
          fun r => (r.id.text, r.policy)) := by
  have halone : ∀ event ∈ events, event.Alone := fun event hevent => (hroutine event hevent).alone
  obtain ⟨-, hrecorded⟩ := ledger_of_empty not_proper_empty hdraws hfresh hs halone hpolicies
  have hstill := connected_after env (fun event hevent => (hroutine event hevent).opens?_ne)
    hconnected
  obtain ⟨entries, hanswer, hshown⟩ := step_list hrecorded hstill hwide hfault
  refine ⟨entries, hanswer, ?_⟩
  rw [hshown, ← hrecorded.kept_filter env.server.arrays]
  exact (env.server.order.perm _).map _

/-- After any events without another writer and without a stop, a listing that no fault hits shows
exactly one entry for each policy of its dataset that was saved and not deleted since, under the id
that the save returned and as it was saved; no two saves have returned the same id; and a deletion
that no fault hits removes the one policy with the id, or is refused. The database gives no id twice
and reads texts of ids as it is documented. -/
theorem policies_accounted_for (hdraws : ∀ n, env.identifier n ≠ "")
    (hfresh : env.server.FreshIds) (hreads : env.server.ReadsIds) (hpolicies : s.policies = [])
    (hwriters : s.writers = []) (huuids : s.catalog.PlainUuids)
    (hconnected : s.handle.isSome = true) {events : List Event}
    (hroutine : ∀ event ∈ events, event.Routine) :
    (∀ n, tooWide n = false → (s.after env events).faults.lookup .find = none →
      ∃ entries,
        ((s.after env events).step env (.listing n)).1 = .outcome (.ok (.policies entries)) ∧
        (Policies.shown entries).Perm
          (((outstanding (s.deeds env events)).filter (·.request.datasetId == n)).map
            fun r => (r.id.text, r.policy))) ∧
    ((receiptsOf (s.deeds env events)).map (·.id.text)).Nodup ∧
    ∀ text, (s.after env events).faults.lookup .delete = none →
      (s.after env events).DeletesOne env text := by
  have halone : ∀ event ∈ events, event.Alone := fun event hevent => (hroutine event hevent).alone
  have hundisturbed : s.Undisturbed := ⟨hwriters, huuids⟩
  refine ⟨?_, ?_, ?_⟩
  · intro n hwide hfault
    exact listing_after hdraws hfresh hpolicies hundisturbed hconnected hroutine hwide hfault
  · have hnodup := (nodup_receipts not_proper_empty hdraws hfresh hundisturbed halone).1
    have htexts := hnodup.map (f := PolicyId.text) fun _ _ h => PolicyId.text_injective h
    rwa [List.map_map] at htexts
  · intro text hfault
    obtain ⟨hnumbered, -⟩ :=
      ledger_of_empty not_proper_empty hdraws hfresh hundisturbed halone hpolicies
    have hafter : (s.after env events).Undisturbed :=
      undisturbed_after not_proper_empty hdraws hundisturbed halone
    have hstill := connected_after env (fun event hevent => (hroutine event hevent).opens?_ne)
      hconnected
    exact deletesOne not_proper_empty hdraws hfresh hreads hafter hnumbered hstill hfault

/-- Of three policies that were saved for two datasets, one was deleted; the other one for its
dataset is listed, and the one that was deleted cannot be deleted again. -/
theorem policies_accounted_for_deleted :
    let s := Sample.session (Sample.noon 0 0)
    let events : List Event := [Sample.save 1, Sample.save 2, Sample.save 1,
      .deletion "665F1C2E9B1E8A3D4C2B1A00"]
    let t := s.after Sample.environment events
    (outstanding (s.deeds Sample.environment events)).map (·.id.text) =
        ["665f1c2e9b1e8a3d4c2b1a01", "665f1c2e9b1e8a3d4c2b1a02"] ∧
      (∃ entries,
        (t.step Sample.environment (.listing 1)).1 = .outcome (.ok (.policies entries)) ∧
        (Policies.shown entries).Perm
          (((outstanding (s.deeds Sample.environment events)).filter
            (·.request.datasetId == 1)).map fun r => (r.id.text, r.policy))) ∧
      (t.step Sample.environment (.deletion "665f1c2e9b1e8a3d4c2b1a00")).1.RefusedWith 404 := by
  intro s events t
  have hroutine : ∀ event ∈ events, event.Routine := by
    simp [events, Event.Routine, Sample.save, Event.deletion]
  obtain ⟨hlisting, -, hdeletion⟩ := policies_accounted_for (s := s) Sample.identifier_ne_empty
    (Server.freshIds_counting _) (Server.readsIds_counting _) rfl rfl
    (Sample.undisturbed_session _).plainUuids rfl hroutine
  let left := [1, 2].map Sample.environment.server.policyId
  have hids : t.policies.map (·.id) = left := by decide +kernel
  have hother : ∀ id ∈ left,
      Sample.environment.server.readId "665f1c2e9b1e8a3d4c2b1a00" ≠ some id := by
    decide +kernel
  refine ⟨by decide +kernel, hlisting 1 rfl (by decide +kernel), ?_⟩
  refine (hdeletion _ (by decide +kernel)).missing.mpr ⟨by decide +kernel, fun stored hstored => ?_⟩
  apply hother
  rw [← hids]
  exact List.mem_map_of_mem hstored

/-- A text of 22 digits and two blanks is no id, and a deletion without one has none, but they are
not refused as malformed. -/
theorem spaced_text_not_malformed :
    let s := Sample.session (Sample.noon 0 0)
    let text := "665f1c2e9b1e8a3d4c2b1a  "
    ¬ PolicyId.IsText text ∧
      (s.step Sample.environment (.deletion text)).1.RefusedWith 404 ∧
      ¬ (s.step Sample.environment (.deletion text)).1.RefusedWith 400 ∧
      (s.step Sample.environment (.call (.deletePolicy .absent))).1.RefusedWith 404 := by
  intro s text
  have hread : (Sample.environment.server.readId text).isSome = true := by decide +kernel
  obtain ⟨id, hid⟩ := Option.isSome_iff_exists.mp hread
  have hanswer : (s.step Sample.environment (.deletion text)).1 =
      .outcome (.error (.refused .policyNotFound)) := by
    rw [step_deletion rfl rfl, hid]
    rfl
  rw [hanswer, Answer.refusedWith_refusal, Answer.refusedWith_refusal]
  exact ⟨by decide +kernel, rfl, by decide, .policyNotFound, rfl, rfl⟩

end Session
end UsagePolicy
