import Mathlib.Logic.Relation
import UsagePolicy.Proofs.Service.Effects
import UsagePolicy.Proofs.Store.Servers

/-!
# Agreement on identifiers

Any number of tasks run side by side, each performing one operation at a time, while others fill in
identifiers that are missing. A task works from the records it has read and may be overtaken before
it stores what it has drawn; still every dataset that it goes on with has the identifier that the
catalog holds, and the catalog holds that one for good.
-/
namespace UsagePolicy

namespace Task

/-- A task as it reads the catalog: the datasets that it reads, and what it then does. A task that
reads none has everything still to do. -/
def phases : Task → Program (List CatalogDataset × Program TaskResult)
  | listDatasets => do
    let ds ← Datasets.list
    return (ds, do return .datasets (← Program.forEach Datasets.present ds))
  | findDataset id => do
    let d ← Datasets.find id
    return ([d], do return .dataset (← Datasets.present d))
  | generateFor datasetId config => do
    let d ← Datasets.find datasetId
    return ([d], do return .documents (← Policies.generate d.dataset config none))
  | save request => do
    let d ← Datasets.find request.datasetId
    return ([d], do return .saved (← Policies.saveOn d request.config))
  | task => return ([], task.program)

/-- A task runs through its phases. -/
theorem program_eq_phases (task : Task) : task.program = task.phases >>= fun phase => phase.2 := by
  cases task <;> simp [phases, program, Policies.generateFor, Policies.save]

end Task

/-- A task that is under way: it has still to read the catalog, or it has read datasets and goes
on with them. -/
inductive Process where
  | reading (rest : Program (List CatalogDataset × Program TaskResult))
  | answering (datasets : List CatalogDataset) (rest : Program TaskResult)

namespace Process

/-- The next step of a process: one operation, or the turn from reading to answering. A process
that has ended stays as it is. -/
def advance (env : Environment) : Process → Session → Process × Session
  | reading (.perform op next), s =>
    let (reply, s) := op.perform env s
    (reading (next reply), s)
  | reading (.finished (ds, rest)), s => (answering ds rest, s)
  | answering ds (.perform op next), s =>
    let (reply, s) := op.perform env s
    (answering ds (next reply), s)
  | p, s => (p, s)

/-- The datasets that the catalog has been read to; none before it has been read. -/
def datasets : Process → List CatalogDataset
  | answering ds _ => ds
  | reading (.finished (ds, _)) => ds
  | reading _ => []

end Process

/-- Processes that share a session. -/
structure System where
  session : Session
  processes : List Process

namespace System

def start (s : Session) (tasks : List Task) : System :=
  ⟨s, tasks.map fun task => .reading task.phases⟩

/-- Some process takes its next step, or an outside writer fills in a blank identifier. -/
inductive Step (env : Environment) : System → System → Prop where
  | advance (s : Session) (front : List Process) (p : Process) (back : List Process) :
    Step env ⟨s, front ++ p :: back⟩
      ⟨(p.advance env s).2, front ++ (p.advance env s).1 :: back⟩
  | fill (s : Session) (processes : List Process) (front : Catalog) (r : Record) (back : Catalog)
    (uuid : String) (hblank : r.uuid.isBlank = true) (hne : uuid ≠ "") :
    Step env ⟨{ s with catalog := front ++ r :: back }, processes⟩
      ⟨{ s with catalog := front ++ r.setUuid (.str uuid) :: back }, processes⟩

def Reaches (env : Environment) : System → System → Prop :=
  Relation.ReflTransGen (Step env)

/-- A process that no other one interrupts reads what its program run alone reads. -/
theorem reaches_run {env : Environment} (front back : List Process)
    (rest : Program (List CatalogDataset × Program TaskResult)) (s : Session) :
    Reaches env ⟨s, front ++ .reading rest :: back⟩
      ⟨(rest.run env s).2, front ++ .reading (.ofExcept id (rest.run env s).1) :: back⟩ := by
  induction rest generalizing s with
  | finished phase => exact Relation.ReflTransGen.refl
  | failed failure => exact Relation.ReflTransGen.refl
  | perform op next ih =>
    exact Relation.ReflTransGen.head (Step.advance s front (.reading (.perform op next)) back)
      (ih (op.perform env s).1 (op.perform env s).2)

def turn (env : Environment) (sys : System) (i : Nat) : System :=
  match sys.processes[i]? with
  | some p => ⟨(p.advance env sys.session).2, sys.processes.set i (p.advance env sys.session).1⟩
  | none => sys

def turns (env : Environment) (sys : System) (places : List Nat) : System :=
  places.foldl (turn env) sys

theorem reaches_turn (sys : System) (i : Nat) {env : Environment} :
    Reaches env sys (sys.turn env i) := by
  obtain ⟨s, processes⟩ := sys
  unfold turn
  split
  · next p hp =>
    obtain ⟨hi, rfl⟩ := List.getElem?_eq_some_iff.mp hp
    have hsplit : processes = processes.take i ++ processes[i] :: processes.drop (i + 1) := by simp
    apply Relation.ReflTransGen.single
    rw [List.set_eq_take_append_cons_drop, if_pos hi]
    have hstep : Step env ⟨s, processes.take i ++ processes[i] :: processes.drop (i + 1)⟩ _ :=
      Step.advance s (processes.take i) processes[i] (processes.drop (i + 1))
    rwa [← hsplit] at hstep
  · exact Relation.ReflTransGen.refl

theorem reaches_turns (sys : System) (places : List Nat) {env : Environment} :
    Reaches env sys (sys.turns env places) := by
  induction places generalizing sys with
  | nil => exact Relation.ReflTransGen.refl
  | cons i rest ih => exact (sys.reaches_turn i).trans (ih (sys.turn env i))

end System

variable {env : Environment} {s t : Session}

namespace Process

/-- What holds of a process while the session is orderly: the datasets that it has read are
settled, and so will be those that it is about to read, whatever other processes do. -/
def Sound (env : Environment) (s : Session) : Process → Prop
  | reading rest => rest.Ensures env (.completing env.server.arrays Proper not_proper_empty)
      (fun op _ => op.Completes Proper)
      (Program.returning fun phase t => (∀ d ∈ phase.1, Datasets.Settled env.server.arrays t d) ∧
        phase.2.Performs env (Operation.Completes Proper)) s
  | answering ds rest => (∀ d ∈ ds, Datasets.Settled env.server.arrays s d) ∧
      rest.Performs env (Operation.Completes Proper)

theorem Sound.completed {p : Process} (h : p.Sound env s)
    (hst : s.Completed env.server.arrays Proper t) :
    p.Sound env t := by
  cases p with
  | reading rest => exact Program.Ensures.moved h hst
  | answering ds rest => exact ⟨fun d hd => (h.1 d hd).completed hst, h.2⟩

theorem Sound.advance {p : Process} (h : p.Sound env s) :
    (p.advance env s).1.Sound env (p.advance env s).2 ∧
      s.Completed env.server.arrays Proper (p.advance env s).2 := by
  cases p with
  | reading rest =>
    cases rest with
    | finished phase => exact ⟨h s s.completed_refl phase rfl, s.completed_refl⟩
    | failed failure => exact ⟨h, s.completed_refl⟩
    | perform op next =>
      obtain ⟨hop, hnext⟩ := h s s.completed_refl
      exact ⟨hnext, Operation.completed_perform hop env s⟩
  | answering ds rest =>
    cases rest with
    | finished result => exact ⟨h, s.completed_refl⟩
    | failed failure => exact ⟨h, s.completed_refl⟩
    | perform op next =>
      obtain ⟨hop, hnext⟩ := h.2.next s
      have hcompleted := Operation.completed_perform hop env s
      exact ⟨⟨fun d hd => (h.1 d hd).completed hcompleted, hnext⟩, hcompleted⟩

theorem Sound.settled {p : Process} (h : p.Sound env s) :
    ∀ d ∈ p.datasets, Datasets.Settled env.server.arrays s d := by
  cases p with
  | reading rest =>
    cases rest with
    | finished phase => exact (h s s.completed_refl phase rfl).1
    | _ => exact fun d hd => absurd hd List.not_mem_nil
  | answering ds rest => exact h.1

end Process

namespace Task

theorem sound_unread (hdraws : ∀ n, Proper (env.identifier n)) (task : Task) :
    (Process.reading (return ([], task.program))).Sound env s := by
  rintro t _ phase ⟨⟩
  exact ⟨fun d hd => absurd hd List.not_mem_nil, task.performs_completes hdraws⟩

variable (hdraws : ∀ n, Proper (env.identifier n)) (hs : s.Orderly)

include hdraws hs

theorem sound_find (id : Int) {answer : CatalogDataset → Program TaskResult}
    (hanswer : ∀ d, (answer d).Performs env (Operation.Completes Proper)) :
    (Process.reading do
      let d ← Datasets.find id
      return ([d], answer d)).Sound env s := by
  have hfind := Datasets.ensures_find not_proper_empty hdraws hs id
  refine Program.Ensures.bind_returning
    ((hfind.allow fun _ _ => Operation.Reads.completes).weaken ?_)
  rintro result t hsettled d rfl
  refine Program.ensures_pure fun u htu => ⟨?_, hanswer d⟩
  exact List.forall_mem_singleton.mpr ((hsettled d rfl).completed htu)

theorem sound_phases (task : Task) : (Process.reading task.phases).Sound env s := by
  cases task with
  | listDatasets =>
    have hlist := Datasets.ensures_list not_proper_empty hdraws hs
    refine Program.Ensures.bind_returning
      ((hlist.allow fun _ _ => Operation.Reads.completes).weaken ?_)
    rintro result t hsettled ds rfl
    refine Program.ensures_pure fun u htu => ⟨fun d hd => (hsettled ds rfl d hd).completed htu, ?_⟩
    exact (Program.performs_forEach Datasets.performs_present ds).bind
      fun _ => Program.performs_pure _
  | findDataset id =>
    apply sound_find hdraws hs id
    intro d
    exact (Datasets.performs_present d).bind fun _ => Program.performs_pure _
  | generateFor datasetId config =>
    apply sound_find hdraws hs datasetId
    intro d
    exact (Policies.performs_generate trivial _ _ _).bind fun _ => Program.performs_pure _
  | save request =>
    refine sound_find hdraws hs request.datasetId fun d => ?_
    exact (Policies.performs_saveOn d request.config).bind fun _ => Program.performs_pure _
  | start | stop | database | generate | listPolicies | delete =>
    exact sound_unread hdraws _

end Task

namespace System

/-- The session is orderly, and every process is sound in it. -/
structure Sound (env : Environment) (sys : System) : Prop where
  orderly : sys.session.Orderly
  processes : ∀ p ∈ sys.processes, p.Sound env sys.session

variable {sys sys' : System}

theorem sound_start (hdraws : ∀ n, Proper (env.identifier n)) (hs : s.Orderly)
    (tasks : List Task) : (start s tasks).Sound env := by
  refine ⟨hs, fun p hp => ?_⟩
  obtain ⟨task, -, rfl⟩ := List.mem_map.mp hp
  exact task.sound_phases hdraws hs

/-- A step keeps a system sound and at most completes its catalog. -/
theorem Sound.step (h : sys.Sound env) (hstep : Step env sys sys') :
    sys'.Sound env ∧ sys.session.Completed env.server.arrays Proper sys'.session := by
  obtain ⟨hs, hprocesses⟩ := h
  cases hstep with
  | advance s front p back =>
    obtain ⟨hp, hcompleted⟩ := (hprocesses p (by simp)).advance
    refine ⟨⟨hs.completed hcompleted, fun q hq => ?_⟩, hcompleted⟩
    rcases List.mem_append.mp hq with hq | hq
    · exact (hprocesses q (by simp [hq])).completed hcompleted
    · rcases List.mem_cons.mp hq with rfl | hq
      · exact hp
      · exact (hprocesses q (by simp [hq])).completed hcompleted
  | fill s processes front r back uuid hblank hne =>
    have hcompleted :
        Session.Completed env.server.arrays Proper { s with catalog := front ++ r :: back }
        { s with catalog := front ++ r.setUuid (.str uuid) :: back } := by
      refine fun hwriters => ⟨hwriters, List.rel_append (Catalog.completed_refl front) ?_⟩
      exact List.Forall₂.cons (Or.inr ⟨Record.isOpen_of_isBlank hblank, uuid, hne, rfl⟩)
        (Catalog.completed_refl back)
    exact ⟨⟨hs.completed hcompleted, fun q hq => (hprocesses q hq).completed hcompleted⟩,
      hcompleted⟩

/-- Whatever the order of the steps, a system stays sound and its catalog is at most completed. -/
theorem Sound.reaches (h : sys.Sound env) (hreach : Reaches env sys sys') :
    sys'.Sound env ∧ sys.session.Completed env.server.arrays Proper sys'.session := by
  induction hreach with
  | refl => exact ⟨h, sys.session.completed_refl⟩
  | tail _ hstep ih =>
    obtain ⟨hsound, hcompleted⟩ := ih.1.step hstep
    exact ⟨hsound, ih.2.trans not_proper_empty hcompleted⟩

/-- However tasks interleave with each other and with writers of missing identifiers, a dataset
that a task has read has the identifier that the catalog holds for its id then and ever after; so
tasks that have read a dataset agree on its identifier. -/
theorem datasets_agree (hdraws : ∀ n, env.identifier n ≠ "") (hwriters : s.writers = [])
    (hids : s.catalog.DistinctIds) (huuids : s.catalog.PlainUuids) {tasks : List Task}
    {sys later : System} (hreached : Reaches env (start s tasks) sys)
    (hlater : Reaches env sys later) :
    (∀ p ∈ sys.processes, ∀ d ∈ p.datasets, ∃ uuid, d.uuid = .str uuid ∧ uuid ≠ "" ∧
      ∃ r, later.session.catalog.findId? env.server.arrays d.id = some r ∧ r.uuid = .str uuid) ∧
    ∀ p ∈ sys.processes, ∀ q ∈ later.processes, ∀ d ∈ p.datasets, ∀ e ∈ q.datasets,
      d.id = e.id → d.uuid = e.uuid := by
  have hsys := ((sound_start hdraws ⟨hwriters, hids, huuids⟩ tasks).reaches hreached).1
  obtain ⟨hsound, hcompleted⟩ := hsys.reaches hlater
  have hsettled :
      ∀ p ∈ sys.processes, ∀ d ∈ p.datasets, Datasets.Settled env.server.arrays later.session d :=
    fun p hp d hd => ((hsys.processes p hp).settled d hd).completed hcompleted
  constructor
  · intro p hp d hd
    obtain ⟨uuid, huuid, hne, r, hr⟩ := (hsettled p hp d hd).held
    exact ⟨uuid, huuid, hne, r, hr⟩
  · intro p hp q hq d hd e he hid
    obtain ⟨uuid, huuid, hholds⟩ := (hsettled p hp d hd).held
    obtain ⟨other, hother, hholds'⟩ := ((hsound.processes q hq).settled e he).held
    rw [← hid] at hholds'
    rw [huuid, hother, hholds.unique hholds']

/-- Two tasks read the same record without an identifier. The one that drew first is overtaken and
takes over what the other has stored. -/
theorem datasets_agree_overtaken :
    let env : Environment :=
      ⟨.standard, [], fun n => if n = 1 then "first" else "second", .counting 0⟩
    let s := Session.initial [[("id", .int 1), ("name", .str "a")]] [] (some .standard) (.error {})
    let sys := (start s [.listDatasets, .findDataset 1]).turns env
      [0, 0, 0, 1, 1, 1, 1, 1, 1, 0, 0, 0]
    sys.processes.map (·.datasets.map fun d => (d.id, d.dataset.uuid)) =
        [[(1, "second")], [(1, "second")]] ∧
      ∀ p ∈ sys.processes, ∀ q ∈ sys.processes, ∀ d ∈ p.datasets, ∀ e ∈ q.datasets,
        d.id = e.id → d.uuid = e.uuid := by
  intro env s sys
  have hdraws : ∀ n, env.identifier n ≠ "" := by
    intro n
    simp only [env]
    split <;> decide
  have hids : s.catalog.DistinctIds := ⟨[1], rfl, by decide⟩
  have huuids : s.catalog.PlainUuids := by
    intro r hr
    rw [List.mem_singleton.mp hr]
    exact Or.inl rfl
  refine ⟨by decide +kernel, ?_⟩
  exact (datasets_agree hdraws rfl hids huuids (reaches_turns _ _)
    Relation.ReflTransGen.refl).2

end System
end UsagePolicy
