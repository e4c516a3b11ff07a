import UsagePolicy.Proofs.Policies.History

/-!
# What events leave alone

While nobody else writes, an event at most completes the catalog, and it changes the stored policies
only if it is a save or a deletion that is answered without an error: a save adds one document at
the end, and a deletion takes out the one document with its id. What records and documents hold does
not matter to this. Stored policies only have to have distinct ids, none of which is given out
again.
-/
namespace UsagePolicy

variable {env : Environment} {s t : Session} {event : Event}

def Environment.Draws (env : Environment) (uuid : String) : Prop :=
  ∃ n, env.identifier n = uuid

theorem Environment.draws_identifier (env : Environment) (n : Nat) :
    env.Draws (env.identifier n) :=
  ⟨n, rfl⟩

theorem Environment.not_draws_empty (h : ∀ n, env.identifier n ≠ "") : ¬ env.Draws "" := by
  rintro ⟨n, hn⟩
  exact h n hn

namespace Session

/-- Stored policies have distinct ids, none of which is yet to be given out. -/
structure Unrepeated (env : Environment) (s : Session) : Prop where
  distinct : (s.policies.map (·.id)).Nodup
  fresh : ∀ stored ∈ s.policies, ∀ n, s.inserted ≤ n → stored.id ≠ env.server.policyId n

theorem Unrepeated.kept (h : s.Unrepeated env) (hpolicies : t.policies = s.policies)
    (hinserted : t.inserted = s.inserted) : t.Unrepeated env := by
  obtain ⟨hdistinct, hfresh⟩ := h
  rw [← hpolicies] at hdistinct hfresh
  rw [← hinserted] at hfresh
  exact ⟨hdistinct, hfresh⟩

theorem Unrepeated.gains (hfresh : env.server.FreshIds) {document : Fields} (h : s.Unrepeated env)
    (hgains : s.Gains env document t) : t.Unrepeated env := by
  obtain ⟨hpolicies, hinserted, -, -, -⟩ := hgains
  constructor
  · have hnew : env.server.policyId s.inserted ∉ s.policies.map (·.id) := by
      intro hmem
      obtain ⟨stored, hstored, hid⟩ := List.mem_map.mp hmem
      exact h.fresh stored hstored s.inserted (Nat.le_refl _) hid
    rw [hpolicies, List.map_append, List.perm_append_comm.nodup_iff]
    exact List.nodup_cons.mpr ⟨hnew, h.distinct⟩
  · rw [hpolicies, hinserted]
    intro stored hstored n hn
    rcases List.mem_append.mp hstored with hstored | hstored
    · exact h.fresh stored hstored n (by omega)
    · rw [List.mem_singleton.mp hstored]
      intro heq
      have := hfresh _ _ heq
      omega

theorem Unrepeated.deleted {id : PolicyId} (h : s.Unrepeated env) (hdeleted : s.Deleted id t) :
    t.Unrepeated env := by
  constructor
  · rw [hdeleted.policies]
    exact (List.eraseP_sublist.map _).nodup h.distinct
  · rw [hdeleted.policies, hdeleted.inserted]
    intro stored hstored
    exact h.fresh stored (List.mem_of_mem_eraseP hstored)

/-- Where ids are distinct, one policy goes with a deletion, and no other has its id. -/
theorem Deleted.split {id : PolicyId} (h : s.Deleted id t)
    (hdistinct : (s.policies.map (·.id)).Nodup) :
    ∃ front stored back, s.policies = front ++ stored :: back ∧ stored.id = id ∧
      (∀ other ∈ front ++ back, other.id ≠ id) ∧ t.policies = front ++ back := by
  obtain ⟨found, hfound, hid⟩ := h.found
  obtain ⟨stored, front, back, -, hstored, hsplit, herase⟩ :=
    List.exists_of_eraseP (p := fun p : StoredPolicy => p.id == id) hfound (by simpa using hid)
  have hstored : stored.id = id := by simpa using hstored
  refine ⟨front, stored, back, hsplit, hstored, ?_, h.policies.trans herase⟩
  have hnodup : ((stored :: (front ++ back)).map (·.id)).Nodup := by
    rw [hsplit] at hdistinct
    exact (List.perm_middle.map _).nodup_iff.mp hdistinct
  intro other hother heq
  rw [List.map_cons, List.nodup_cons] at hnodup
  exact hnodup.1 (List.mem_map.mpr ⟨other, hother, heq.trans hstored.symm⟩)

/-- What an event may change, told by its answer. -/
structure Framed (env : Environment) (s : Session) (event : Event) : Prop where
  /-- A record may be given an identifier where it had none, and stays as it was otherwise. -/
  catalog : s.catalog.Completed env.server.arrays env.Draws (s.step env event).2.catalog
  failed : (s.step env event).1.Fails → (s.step env event).2.policies = s.policies
  saved : ∀ request, event.task? = some (.save request) → ¬ (s.step env event).1.Fails →
    ∃ id document, s.outcome env (.save request) = .ok (.saved id) ∧
      (∀ stored ∈ s.policies, stored.id ≠ id) ∧
      (s.step env event).2.policies = s.policies ++ [⟨id, document⟩]
  deleted : ∀ reference, event.task? = some (.delete reference) → ¬ (s.step env event).1.Fails →
    ∃ front stored back, reference.id? env = some stored.id ∧ s.policies = front ++ stored :: back ∧
      (∀ other ∈ front ++ back, other.id ≠ stored.id) ∧
      (s.step env event).2.policies = front ++ back
  other : (∀ request, event.task? ≠ some (.save request)) →
    (∀ reference, event.task? ≠ some (.delete reference)) →
    (s.step env event).2.policies = s.policies

/-- Whatever the session, an event leaves the stored policies as they are, or it is a save that has
added a document or a deletion that has removed a policy. -/
theorem step_effect (env : Environment) (s : Session) (event : Event) :
    ((s.step env event).2.policies = s.policies ∧
      (s.step env event).2.inserted = s.inserted) ∨
    (∃ request document, event.task? = some (.save request) ∧
      s.outcome env (.save request) = .ok (.saved (env.server.policyId s.inserted)) ∧
      s.Gains env document (s.step env event).2) ∨
    ∃ reference id, event.task? = some (.delete reference) ∧ reference.id? env = some id ∧
      s.outcome env (.delete reference) = .ok .deleted ∧ s.Deleted id (s.step env event).2 := by
  by_cases hsave : ∃ request, event.task? = some (.save request)
  · obtain ⟨request, htask⟩ := hsave
    rcases outcome_save_cases htask env s with ⟨-, hkept⟩ | ⟨document, houtcome, hgains⟩
    · exact Or.inl ⟨hkept.policies, hkept.inserted⟩
    · exact Or.inr (Or.inl ⟨request, document, htask, houtcome, hgains⟩)
  by_cases hdelete : ∃ reference, event.task? = some (.delete reference)
  · obtain ⟨reference, htask⟩ := hdelete
    rcases outcome_delete_cases htask env s with ⟨-, hkept⟩ | ⟨id, hid, houtcome, hdeleted⟩
    · exact Or.inl ⟨hkept.policies, hkept.inserted⟩
    · exact Or.inr (Or.inr ⟨reference, id, htask, hid, houtcome, hdeleted⟩)
  exact Or.inl (step_other env s (fun request h => hsave ⟨request, h⟩)
    fun reference h => hdelete ⟨reference, h⟩).2

theorem step_changes (env : Environment) (s : Session) (event : Event) :
    ((s.step env event).2.policies = s.policies ∧
      (s.step env event).2.inserted = s.inserted) ∨
    ¬ (s.step env event).1.Fails ∧
      ((∃ document, s.Gains env document (s.step env event).2) ∨
        ∃ id, s.Deleted id (s.step env event).2) := by
  rcases step_effect env s event with
    h | ⟨request, document, htask, houtcome, hgains⟩ | ⟨reference, id, htask, -, houtcome, hdeleted⟩
  · exact Or.inl h
  · rw [step_fails_iff htask, houtcome]
    exact Or.inr ⟨nofun, Or.inl ⟨document, hgains⟩⟩
  · rw [step_fails_iff htask, houtcome]
    exact Or.inr ⟨nofun, Or.inr ⟨id, hdeleted⟩⟩

theorem policies_of_fails (h : (s.step env event).1.Fails) :
    (s.step env event).2.policies = s.policies := by
  rcases step_changes env s event with ⟨hpolicies, -⟩ | ⟨hanswer, -⟩
  · exact hpolicies
  · exact absurd h hanswer

theorem framed_step (hdraws : ∀ n, env.identifier n ≠ "") (hwriters : s.writers = [])
    (hids : s.Unrepeated env) (halone : event.Alone) : s.Framed env event where
  catalog := (completed_step (Environment.not_draws_empty hdraws) env.draws_identifier halone s
    hwriters).2
  failed := policies_of_fails
  saved := by
    intro request htask hanswer
    rw [step_fails_iff htask] at hanswer
    rcases outcome_save_cases htask env s with ⟨hfailure, -⟩ | ⟨document, houtcome, hgains⟩
    · exact absurd hfailure hanswer
    · refine ⟨_, document, houtcome, ?_, hgains.policies⟩
      exact fun stored hstored => hids.fresh stored hstored s.inserted (Nat.le_refl _)
  deleted := by
    intro reference htask hanswer
    rw [step_fails_iff htask] at hanswer
    rcases outcome_delete_cases htask env s with ⟨hfailure, -⟩ | ⟨id, hid, -, hdeleted⟩
    · exact absurd hfailure hanswer
    · obtain ⟨front, stored, back, hsplit, rfl, hothers, hpolicies⟩ := hdeleted.split hids.distinct
      exact ⟨front, stored, back, hid, hsplit, hothers, hpolicies⟩
  other := fun hsave hdelete => (step_other env s hsave hdelete).2.1

theorem unrepeated_step (hfresh : env.server.FreshIds) (event : Event) (hids : s.Unrepeated env) :
    (s.step env event).2.Unrepeated env := by
  rcases step_changes env s event with
    ⟨hpolicies, hinserted⟩ | ⟨-, ⟨document, hgains⟩ | ⟨id, hdeleted⟩⟩
  · exact hids.kept hpolicies hinserted
  · exact hids.gains hfresh hgains
  · exact hids.deleted hdeleted

theorem unrepeated_after (hfresh : env.server.FreshIds) (events : List Event)
    (hids : s.Unrepeated env) : (s.after env events).Unrepeated env :=
  invariant_after (fun _ event _ hids => unrepeated_step hfresh event hids) hids

/-- In every run without other writers, from any point on the catalog is at most completed, and no
event reaches further than its answer tells. If no filter for a blank identifier enters an array,
only blank identifiers are replaced. -/
theorem run_framed (hdraws : ∀ n, env.identifier n ≠ "") (hids : env.server.FreshIds)
    (hwriters : s.writers = [])
    (hdistinct : (s.policies.map (·.id)).Nodup)
    (hfresh : ∀ stored ∈ s.policies, ∀ n, s.inserted ≤ n → stored.id ≠ env.server.policyId n)
    {events : List Event} (halone : ∀ event ∈ events, event.Alone) :
    (∀ front back, events = front ++ back → (s.after env front).catalog.Completed
      env.server.arrays env.Draws (s.after env events).catalog) ∧
    (s.catalog.OpenOnlyIfBlank env.server.arrays → ∀ front back, events = front ++ back →
      (s.after env front).catalog.Completed false env.Draws (s.after env events).catalog) ∧
    ∀ front event back, events = front ++ event :: back → (s.after env front).Framed env event := by
  have hempty := Environment.not_draws_empty hdraws
  have hfront : ∀ front back, events = front ++ back → (s.after env front).writers = [] := by
    rintro front back rfl
    exact (completed_after hempty env.draws_identifier
      (fun e he => halone e (by simp [he])) s hwriters).1
  have hcompleted : ∀ front back, events = front ++ back → (s.after env front).catalog.Completed
      env.server.arrays env.Draws (s.after env events).catalog := by
    rintro front back rfl
    rw [after_append]
    exact (completed_after hempty env.draws_identifier (fun e he => halone e (by simp [he])) _
      (hfront front back rfl)).2
  refine ⟨hcompleted, ?_, ?_⟩
  · rintro hblank front back rfl
    have hreached : s.Completed env.server.arrays env.Draws (s.after env front) :=
      completed_after hempty env.draws_identifier (fun e he => halone e (by simp [he])) s
    exact ((hcompleted front back rfl).of_openOnlyIfBlank
      ((hreached hwriters).2.of_openOnlyIfBlank hblank).2).1
  · rintro front event back rfl
    exact framed_step hdraws (hfront front _ rfl)
      (unrepeated_after hids front ⟨hdistinct, hfresh⟩) (halone event (by simp))

/-- One policy was stored beforehand. A save that a fault hits leaves it alone, the next one adds
another policy, and a deletion takes out the first one. -/
theorem run_framed_saved_and_deleted :
    let env := Sample.environment
    let s := { Sample.session (Sample.noon 0 0) with policies := [⟨⟨5⟩, [("dataset", .null)]⟩] }
    let events : List Event := [.expectFault .insert "down", Sample.save 1, Sample.save 2,
      .deletion "000000000000000000000005"]
    (s.after env (events.take 2)).policies.map (·.id) = [⟨5⟩] ∧
      (s.after env (events.take 3)).policies.map (·.id) = [⟨5⟩, env.server.policyId 0] ∧
      (s.after env events).policies.map (·.id) = [env.server.policyId 0] ∧
      s.catalog.Completed false env.Draws (s.after env events).catalog ∧
      (s.after env (events.take 3)).Framed env (.deletion "000000000000000000000005") := by
  intro env s events
  have hfresh : ∀ stored ∈ s.policies, ∀ n, s.inserted ≤ n → stored.id ≠ env.server.policyId n := by
    intro stored hstored n _
    simp only [s, List.mem_singleton] at hstored
    rw [hstored]
    simp only [env, Sample.environment, Server.counting, ne_eq, PolicyId.mk.injEq]
    omega
  have halone : ∀ event ∈ events, event.Alone := by
    simp [events, Event.Alone, Sample.save, Event.deletion]
  have hblank : s.catalog.OpenOnlyIfBlank env.server.arrays := by
    intro r hr _
    simp only [s, Sample.session, Session.initial, List.mem_cons, List.not_mem_nil, or_false] at hr
    rcases hr with rfl | rfl <;> rfl
  obtain ⟨-, hcompleted, hframed⟩ := run_framed (s := s) Sample.identifier_ne_empty
    (Server.freshIds_counting _) rfl (by simp [s]) hfresh halone
  exact ⟨by decide +kernel, by decide +kernel, by decide +kernel, hcompleted hblank [] events rfl,
    hframed (events.take 3) _ [] rfl⟩

/-- Two records share an id. A zero stands for a missing identifier, but is none that is replaced,
so that the filter goes on to the other record, whose identifier is an array with an empty text in
it, and it enters the array. -/
theorem array_identifier_replaced :
    let env := Sample.environment
    let s := Session.initial [[("id", .int 1), ("name", .str "a"), ("uuid", .int 0)],
      [("id", .int 1), ("name", .str "b"), ("uuid", .arr [.str ""])]] [] (some .standard)
      (.ok (Sample.noon 0 0))
    let t := (s.step env (.request ⟨"GET", "/datasets/1", "", [], ""⟩)).2
    env.server.arrays = true ∧
      t.catalog.map Record.uuid = [.int 0, .str (env.identifier 1)] ∧
      ¬ s.catalog.Completed false env.Draws t.catalog := by
  intro env s t
  have huuids : t.catalog.map Record.uuid = [.int 0, .str (env.identifier 1)] := by
    decide +kernel
  refine ⟨rfl, huuids, fun hcompleted => ?_⟩
  have hlast : t.catalog[1]?.map Record.uuid = some (.str (env.identifier 1)) := by
    rw [← List.getElem?_map, huuids]
    rfl
  generalize t.catalog = c at hcompleted hlast
  cases hcompleted with
  | cons _ hrest =>
    cases hrest with
    | cons hsecond _ =>
      have hsame := hsecond.eq_of_not_open rfl
      simp [hsame, Record.uuid, Fields.get, Fields.get?, List.lookup_cons] at hlast

end Session
end UsagePolicy
