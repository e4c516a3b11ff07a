import UsagePolicy.Proofs.Policies.Accounts

/-!
# Sessions in which nothing goes wrong

As long as no fault is expected, nobody else writes, the clock stands still and the service is not
stopped, requests and calls keep it that way. Whatever has happened before, every stored policy has
the form in which policies are saved, and nothing in it is too wide for the database.
-/
namespace UsagePolicy

variable {env : Environment} {s t : Session} {event : Event}

/-- The event prepares no fault and lets no writer in, and neither sets the clock nor stops the
service. -/
def Event.Quiet : Event → Prop
  | request _ => True
  | call .stop | setClock _ | expectFault _ _ | expectWriter _ => False
  | call _ => True

theorem Event.Quiet.routine (h : event.Quiet) : event.Routine := by
  cases event with
  | request r => trivial
  | call c => cases c <;> exact h
  | setClock _ | expectFault _ _ | expectWriter _ => exact h.elim

namespace Session

/-- The clock shows what it showed, and no fault is expected if none was. -/
structure Steady (s t : Session) : Prop where
  clock : t.clock = s.clock
  faults : s.faults = [] → t.faults = []

theorem Steady.trans {u : Session} (h : s.Steady t) (h' : t.Steady u) : s.Steady u :=
  ⟨h'.clock.trans h.clock, fun hs => h'.faults (h.faults hs)⟩

theorem steady_perform (op : Operation) (env : Environment) (s : Session) :
    s.Steady (op.perform env s).2 := by
  rcases op.perform_session_cases env s with ⟨used, heq⟩ | ⟨hclock, hfaults, -⟩
  · rw [heq]
    exact ⟨rfl, fun hs => by simp [hs]⟩
  · exact ⟨hclock, hfaults.trans⟩

theorem steady_run {α : Type} (env : Environment) (p : Program α) (s : Session) :
    s.Steady (p.run env s).2 :=
  p.session_run (R := Steady) (fun _ => ⟨rfl, id⟩) (fun _ _ _ => Steady.trans)
    (fun op s => steady_perform op env s) s

theorem steady_step (env : Environment) (s : Session) (hquiet : event.Quiet) :
    s.Steady (s.step env event).2 := by
  cases htask : event.task? with
  | some task =>
    rw [step_task htask]
    obtain ⟨hclock, hfaults⟩ := steady_run env task.program s.cleared
    exact ⟨hclock, hfaults⟩
  | none =>
    rw [step_no_task htask]
    cases event with
    | request _ | call _ => exact ⟨rfl, id⟩
    | setClock _ | expectFault _ _ | expectWriter _ => exact hquiet.elim

def Storable (s : Session) : Prop :=
  ∀ stored ∈ s.policies, (Json.obj stored.document).storageFault? = none

theorem storable_perform (op : Operation) (env : Environment) (h : s.Storable) :
    (op.perform env s).2.Storable := by
  by_cases hreads : op.Reads fun _ => True
  · unfold Storable
    rw [(Operation.untouched_perform hreads env s).policies]
    exact h
  cases op with
  | setClient _ | setHandle _ => exact h
  | deletePolicy id =>
    refine Operation.guarded_session h fun stored hstored => h stored ?_
    cases id with
    | none => exact hstored
    | some id => exact List.mem_of_mem_eraseP hstored
  | insertPolicy document =>
    simp only [Operation.perform]
    split
    · exact h
    · next hnone =>
      refine Operation.guarded_session h fun stored hstored => ?_
      rcases List.mem_append.mp hstored with hstored | hstored
      · exact h stored hstored
      · rw [List.mem_singleton.mp hstored]
        exact (Option.or_eq_none_iff.mp hnone).1
  | _ => exact absurd trivial hreads

theorem storable_step (h : s.Storable) (env : Environment) (event : Event) :
    (s.step env event).2.Storable := by
  cases htask : event.task? with
  | some task =>
    rw [step_task htask]
    exact task.program.session_run (R := fun s t => s.Storable → t.Storable) (fun _ h => h)
      (fun _ _ _ h h' hs => h' (h hs)) (fun op _ h => storable_perform op env h) s.cleared h
  | none =>
    rw [step_no_task htask]
    cases event <;> exact h

theorem keeps_step (hs : s.writers = []) (h : ∀ stored ∈ s.policies, ∃ p, stored.Keeps p)
    (env : Environment) (event : Event) :
    ∀ stored ∈ (s.step env event).2.policies, ∃ p, stored.Keeps p := by
  by_cases hsave : ∃ request, event.task? = some (.save request)
  · obtain ⟨request, htask⟩ := hsave
    rcases Policies.run_save_form env (s := s.cleared) hs request with
      ⟨failure, t, hrun, ht⟩ | ⟨d, u, p, t, -, -, hp, hrun, ht⟩
    · obtain ⟨hstep, -⟩ := step_of_run_save htask hrun
      rw [hstep, ht.policies]
      exact h
    · obtain ⟨hstep, -⟩ := step_of_run_save htask hrun
      obtain ⟨time, documents, -, -, rfl⟩ := policyOn?_eq_some.mp hp
      rw [hstep, ht.policies]
      intro stored hstored
      rcases List.mem_append.mp hstored with hstored | hstored
      · exact h stored hstored
      · rw [List.mem_singleton.mp hstored]
        exact ⟨_, rfl, time, rfl⟩
  rcases step_effect env s event with
    ⟨hpolicies, -⟩ | ⟨request, _, htask, -⟩ | ⟨_, _, -, -, -, hdeleted⟩
  · rw [hpolicies]
    exact h
  · exact absurd ⟨request, htask⟩ hsave
  · rw [hdeleted.policies]
    exact fun stored hstored => h stored (List.mem_of_mem_eraseP hstored)

/-- Nobody else writes, and every stored policy can be listed, under an id of its own. -/
structure Listable (env : Environment) (s : Session) : Prop where
  writers : s.writers = []
  unrepeated : s.Unrepeated env
  keeps : ∀ stored ∈ s.policies, ∃ p, stored.Keeps p
  storable : s.Storable

theorem listable_of_empty (hs : s.writers = []) (hpolicies : s.policies = []) :
    s.Listable env where
  writers := hs
  unrepeated := ⟨by simp [hpolicies], by simp [hpolicies]⟩
  keeps := by simp [hpolicies]
  storable := by simp [Storable, hpolicies]

theorem Listable.step (hdraws : ∀ n, Proper (env.identifier n)) (hfresh : env.server.FreshIds)
    (halone : event.Alone) (h : s.Listable env) : (s.step env event).2.Listable env where
  writers := (completed_step not_proper_empty hdraws halone s h.writers).1
  unrepeated := unrepeated_step hfresh event h.unrepeated
  keeps := keeps_step h.writers h.keeps env event
  storable := storable_step h.storable env event

theorem Listable.after (hdraws : ∀ n, Proper (env.identifier n)) (hfresh : env.server.FreshIds)
    {events : List Event} (halone : ∀ event ∈ events, event.Alone) (h : s.Listable env) :
    (s.after env events).Listable env :=
  invariant_after (fun _ event hevent h => h.step hdraws hfresh (halone event hevent)) h

/-- Nobody else writes, no fault is expected, the service is connected, and the clock shows the
time. -/
structure Ready (time : UniversalTime) (s : Session) : Prop where
  writers : s.writers = []
  faults : s.faults = []
  connected : s.handle.isSome = true
  clock : s.clock = .ok time

theorem Ready.step {time : UniversalTime} (hdraws : ∀ n, Proper (env.identifier n))
    (hquiet : event.Quiet) (h : s.Ready time) : (s.step env event).2.Ready time := by
  have hroutine := hquiet.routine
  have hsteady := steady_step env s hquiet
  exact {
    writers := (completed_step not_proper_empty hdraws hroutine.alone s h.writers).1
    faults := hsteady.faults h.faults
    connected := connected_step env hroutine.opens?_ne h.connected
    clock := hsteady.clock.trans h.clock }

theorem Ready.after {time : UniversalTime} (hdraws : ∀ n, Proper (env.identifier n))
    {events : List Event} (hquiet : ∀ event ∈ events, event.Quiet) (h : s.Ready time) :
    (s.after env events).Ready time :=
  invariant_after (fun _ event hevent h => h.step hdraws (hquiet event hevent)) h

/-- Nothing is about to go wrong for the dataset with the id: no fault is expected, the service is
connected, the clock shows the time, and the record that the id stands for is well formed. -/
structure Calm (env : Environment) (time : UniversalTime) (n : Int) (s : Session) : Prop
    extends Listable env s where
  faults : s.faults = []
  connected : s.handle.isSome = true
  clock : s.clock = .ok time
  record : ∃ r, s.catalog.findId? env.server.arrays n = some r ∧ r.WellFormed n

namespace Calm

variable {time : UniversalTime} {n : Int}

theorem ready (h : s.Calm env time n) : s.Ready time :=
  ⟨h.writers, h.faults, h.connected, h.clock⟩

theorem cleared (h : s.Calm env time n) : s.cleared.Calm env time n :=
  ⟨⟨h.writers, h.unrepeated.kept rfl rfl, h.keeps, h.storable⟩, h.faults, h.connected, h.clock,
    h.record⟩

theorem hasPlainUuid (h : s.Calm env time n) {record : Record}
    (hrecord : s.catalog.findId? env.server.arrays n = some record) : record.HasPlainUuid := by
  obtain ⟨r, hr, hwell⟩ := h.record
  obtain rfl : record = r := Option.some_inj.mp (hrecord.symm.trans hr)
  exact hwell.plainUuid

theorem step (hdraws : ∀ n, Proper (env.identifier n)) (hfresh : env.server.FreshIds)
    (hquiet : event.Quiet) (h : s.Calm env time n) : (s.step env event).2.Calm env time n := by
  have halone := hquiet.routine.alone
  have hready := h.ready.step hdraws hquiet
  obtain ⟨r, hr, hwell⟩ := h.record
  obtain ⟨r', hr', hcompleted⟩ :=
    (completed_step not_proper_empty hdraws halone s h.writers).2.findId? hr
  exact {
    toListable := h.toListable.step hdraws hfresh halone
    faults := hready.faults
    connected := hready.connected
    clock := hready.clock
    record := ⟨r', hr', hwell.completed hcompleted⟩ }

theorem after (hdraws : ∀ n, Proper (env.identifier n)) (hfresh : env.server.FreshIds)
    {events : List Event} (hquiet : ∀ event ∈ events, event.Quiet) (h : s.Calm env time n) :
    (s.after env events).Calm env time n :=
  invariant_after (fun _ event hevent h => h.step hdraws hfresh (hquiet event hevent)) h

/-- In a calm session the dataset is found, and it is the one that the catalog describes from then
on. -/
theorem find (hdraws : ∀ n, Proper (env.identifier n)) (hwide : tooWide n = false)
    (h : s.Calm env time n) :
    ∃ d t, (Datasets.find n).run env s = (.ok (.ofDataset d), t) ∧ d.id = n ∧ d.uuid ≠ "" ∧
      t.catalog.dataset? env.server.arrays n = some d ∧ t.clock = .ok time := by
  obtain ⟨r, hr, hwell⟩ := h.record
  obtain ⟨c, t, hfind⟩ :=
    Datasets.run_find_of_convertible h.writers h.faults h.connected hwide hr hwell.convertible
  obtain ⟨d, rfl, hid, hne, hdataset⟩ :=
    Datasets.run_find not_proper_empty hdraws h.writers (fun _ => h.hasPlainUuid) hfind
  have hsteady := steady_run env (Datasets.find n) s
  rw [hfind] at hsteady
  exact ⟨d, t, hfind, hid, hne, hdataset, hsteady.clock.trans h.clock⟩

end Calm

end Session
end UsagePolicy
