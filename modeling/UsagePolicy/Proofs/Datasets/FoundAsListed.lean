import UsagePolicy.Proofs.Datasets.Uniqueness
import UsagePolicy.Proofs.Service.Calm

/-!
# Datasets are found as they are listed

Listing the catalog settles every record, while looking an id up settles only the first record with
the id. Either way that record is described by what the catalog holds from then on, whatever else
is done. So where nothing goes wrong, the dataset that is found under an id is the first one with
the id that is listed, whichever is done first.
-/
namespace UsagePolicy

variable {arrays : Bool} {given : String → Prop} {env : Environment} {s t : Session}

/-- A dataset can be read from the record, and an identifier be stored for it, under the integer
that is its id. -/
structure Record.Presentable (r : Record) : Prop extends r.Regular where
  narrow : ∀ id, r.get "id" = .int id → tooWide id = false
  name : ∃ name, r.get? "name" = some (.str name)
  description : ∃ text, (r.get? "description").getD (.str "") = .str text

/-- The record describes the dataset, identifier included, and has its id and no other one. -/
structure Record.Presents (r : Record) (d : Dataset) : Prop where
  hasId : ∀ arrays n, r.hasId arrays n = (d.id == n)
  accepted : Dataset.check .values (.obj r) = .accepted d
  proper : d.uuid ≠ ""

namespace Record

variable {r r' : Record} {d : Dataset}

theorem hasId_of_int {id : Int} (h : r.get "id" = .int id) (arrays : Bool) (n : Int) :
    r.hasId arrays n = (id == n) := by
  simp [hasId, h, Json.meets, Json.equalsInt]

theorem Presentable.wellFormed (h : r.Presentable) {n : Int} (hid : r.hasId arrays n = true) :
    tooWide n = false ∧ r.WellFormed n := by
  obtain ⟨id, hget⟩ := h.id
  obtain rfl : id = n := by simpa [hasId_of_int hget] using hid
  exact ⟨h.narrow id hget, by rw [hget]; rfl, h.name, h.description, h.plainUuid⟩

theorem Presentable.exists_hasId (h : r.Presentable) : ∃ id, r.hasId false id = true := by
  obtain ⟨id, hid⟩ := h.id
  exact ⟨id, by simp [hasId_of_int hid]⟩

theorem Presentable.completed (h : r.Presentable) (hr : Completed arrays given r r') :
    r'.Presentable where
  toRegular := h.toRegular.completed hr
  narrow := by
    rw [Fields.get, hr.get? (by decide)]
    exact h.narrow
  name := by
    rw [hr.get? (by decide)]
    exact h.name
  description := by
    rw [hr.get? (by decide)]
    exact h.description

theorem Presentable.presents (h : r.Presentable)
    (haccepted : Dataset.check .values (.obj r) = .accepted d) (hproper : d.uuid ≠ "") :
    r.Presents d where
  hasId := by
    obtain ⟨id, hget⟩ := h.id
    obtain ⟨⟨v, hv, hinteger⟩, -⟩ := Dataset.check_obj_eq_accepted.mp haccepted
    obtain rfl : v = .int id := by simpa [Fields.get, hv] using hget
    rw [Schema.integer_of_equalsInt (n := id) hinteger (by simp [Json.equalsInt])]
    exact hasId_of_int hget
  accepted := haccepted
  proper := hproper

theorem Presents.uuid_eq (h : r.Presents d) : r.uuid = .str d.uuid := by
  obtain ⟨-, -, -, hget⟩ := Dataset.check_obj_eq_accepted.mp h.accepted
  simp [Record.uuid, Fields.get, hget]

theorem Presents.eq_of_completed (h : r.Presents d) (hr : Completed arrays given r r') : r' = r :=
  hr.eq_of_not_open ((isOpen_of_str h.uuid_eq).mpr h.proper)

end Record

namespace Catalog

variable {c c' : Catalog} {ds : List Dataset}

def Presents (c : Catalog) (ds : List Dataset) : Prop :=
  List.Forall₂ Record.Presents c ds

theorem Presents.completed (h : c.Presents ds) (hc : Completed arrays given c c') :
    c'.Presents ds := by
  induction hc generalizing ds with
  | nil => exact h
  | cons hr _ ih =>
    cases h with
    | cons hpresents hrest =>
      exact List.Forall₂.cons (hpresents.eq_of_completed hr ▸ hpresents) (ih hrest)

/-- The first record with an id presents the first dataset with the id. -/
theorem Presents.findId?_cases (h : c.Presents ds) (arrays : Bool) (n : Int) :
    (c.findId? arrays n = none ∧ ds.find? (·.id == n) = none) ∨
      ∃ r d, c.findId? arrays n = some r ∧ ds.find? (·.id == n) = some d ∧ r.Presents d := by
  induction h with
  | nil => exact Or.inl ⟨rfl, rfl⟩
  | @cons r d _ _ hpresents _ ih =>
    simp only [Catalog.findId?, List.find?_cons, hpresents.hasId arrays n] at ih ⊢
    cases d.id == n with
    | true => exact Or.inr ⟨r, d, rfl, rfl, hpresents⟩
    | false => exact ih

theorem Completed.findId?_eq_none (h : Completed arrays given c c') {n : Int} :
    c'.findId? arrays n = none ↔ c.findId? arrays n = none := by
  induction h with
  | nil => exact Iff.rfl
  | cons hr _ ih =>
    simp only [Catalog.findId?, List.find?_cons, hr.hasId n] at ih ⊢
    split
    · simp
    · exact ih

end Catalog

/-- The event prepares no fault and lets no writer in. -/
def Event.Harmless : Event → Prop
  | expectFault _ _ | expectWriter _ => False
  | _ => True

theorem Event.Harmless.alone {event : Event} (h : event.Harmless) : event.Alone := by
  cases event with
  | expectFault _ _ | expectWriter _ => exact h.elim
  | request _ | call _ | setClock _ => trivial

theorem Event.harmless_of_task {event : Event} {task : Task} (h : event.task? = some task) :
    event.Harmless := by
  cases event with
  | expectFault _ _ | expectWriter _ | setClock _ => cases h
  | request _ | call _ => trivial

namespace Session

/-- No fault is expected, nobody else writes, and every record of the catalog can be presented. -/
structure Presentable (s : Session) : Prop where
  faults : s.faults = []
  writers : s.writers = []
  records : ∀ r ∈ s.catalog, r.Presentable

theorem Presentable.completed (h : s.Presentable) (hfaults : t.faults = [])
    (hc : s.Completed arrays given t) : t.Presentable := by
  obtain ⟨hwriters, hcatalog⟩ := hc h.writers
  refine ⟨hfaults, hwriters, fun r' hr' => ?_⟩
  obtain ⟨r, hr, hcompleted⟩ := exists_left_of_forall₂ hcatalog hr'
  exact (h.records r hr).completed hcompleted

theorem faults_step {event : Event} (hharmless : event.Harmless) (hs : s.faults = []) :
    (s.step env event).2.faults = [] := by
  cases htask : event.task? with
  | some task =>
    rw [step_task htask]
    exact (steady_run env task.program s.cleared).faults hs
  | none =>
    rw [step_no_task htask]
    cases event with
    | request _ | call _ | setClock _ => exact hs
    | expectFault _ _ | expectWriter _ => exact hharmless.elim

theorem Presentable.step (hdraws : ∀ n, Proper (env.identifier n)) {event : Event}
    (hharmless : event.Harmless) (h : s.Presentable) : (s.step env event).2.Presentable :=
  h.completed (faults_step hharmless h.faults)
    (completed_step not_proper_empty hdraws hharmless.alone s)

theorem Presentable.after (hdraws : ∀ n, Proper (env.identifier n)) {events : List Event}
    (hharmless : ∀ event ∈ events, event.Harmless) (h : s.Presentable) :
    (s.after env events).Presentable :=
  invariant_after (fun _ event hevent h => h.step hdraws (hharmless event hevent)) h

end Session

namespace Datasets

theorem run_convertAll_of_presentable {records : List Record}
    (h : ∀ r ∈ records, r.Presentable) (env : Environment) (s : Session) :
    ∃ ds drawn, (convertAll records).run env s = (.ok ds, { s with drawn }) := by
  have hconvert : ∀ r ∈ records, ∀ u : Session, (∃ drawn, u = { s with drawn }) →
      ∃ d v, (convert r).run env u = (.ok d, v) ∧ ∃ drawn, v = { s with drawn } := by
    rintro r hr _ ⟨before, rfl⟩
    obtain ⟨id, hid⟩ := (h r hr).exists_hasId
    obtain ⟨d, v, hrun⟩ := run_convert_of_convertible ((h r hr).wellFormed hid).2.convertible env
      { s with drawn := before }
    obtain ⟨-, drawn, rfl⟩ : Converted (fun _ => True) r d ∧ _ :=
      run_convert (fun _ => trivial) hrun
    exact ⟨d, _, hrun, drawn, rfl⟩
  obtain ⟨ds, _, hrun, drawn, rfl⟩ := Program.run_forEach_of_invariant hconvert ⟨s.drawn, rfl⟩
  exact ⟨ds, drawn, hrun⟩

theorem run_settleAll_of_no_faults {pairs : List (Record × Dataset)}
    (h : ∀ record d, (record, d) ∈ pairs → tooWide d.id = false) (hwriters : s.writers = [])
    (hfaults : s.faults = []) (env : Environment) :
    ∃ cs t, (Program.forEach (fun (record, d) => settle record d) pairs).run env s =
      (.ok cs, t) := by
  have hsettle : ∀ pair ∈ pairs, ∀ u : Session, u.writers = [] ∧ u.faults = [] →
      ∃ c v, (settle pair.1 pair.2).run env u = (.ok c, v) ∧ v.writers = [] ∧ v.faults = [] := by
    rintro ⟨record, d⟩ hmem u ⟨hu, hnone⟩
    obtain ⟨c, v, hrun⟩ := run_settle_of_no_faults hu hnone (h record d hmem) record env
    refine ⟨c, v, hrun, ?_⟩
    rcases run_settle_cases hu hrun with ⟨-, -, rfl⟩ | ⟨-, -, -, rfl⟩ | ⟨-, -, -, rfl⟩ <;>
      exact ⟨hu, hnone⟩
  obtain ⟨cs, t, hrun, -⟩ := Program.run_forEach_of_invariant hsettle ⟨hwriters, hfaults⟩
  exact ⟨cs, t, hrun⟩

theorem run_list_of_presentable (hs : s.Presentable) (hconnected : s.handle.isSome = true)
    (env : Environment) : ∃ cs t, list.run env s = (.ok cs, t) := by
  obtain ⟨ds, drawn, hconvert⟩ := run_convertAll_of_presentable hs.records env s
  have hds : List.Forall₂ (Converted fun _ => True) s.catalog ds :=
    (Program.run_forEach_eq_ok hconvert).imp
      fun _ _ ⟨_, _, hrun⟩ => (run_convert (fun _ => trivial) hrun).1
  have hnarrow : ∀ record d, (record, d) ∈ s.catalog.zip ds → tooWide d.id = false := by
    intro record d hmem
    have hrecord := hs.records record (List.of_mem_zip hmem).1
    obtain ⟨id, hid⟩ := hrecord.exists_hasId
    rw [((List.forall₂_iff_zip.mp hds).2 hmem).id_eq hid]
    exact (hrecord.wellFormed hid).1
  obtain ⟨cs, t, hsettle⟩ :=
    run_settleAll_of_no_faults (s := { s with drawn }) hnarrow hs.writers hs.faults env
  exact ⟨cs, t, run_list_of_ingest hconnected (by rw [hs.faults]; rfl)
    (run_ingest_of_ok hconvert hconnected hsettle)⟩

theorem presents_of_run_list (hdraws : ∀ n, Proper (env.identifier n)) (hs : s.Presentable)
    {cs : List CatalogDataset} (h : list.run env s = (.ok cs, t)) :
    ∃ ds, cs = ds.map .ofDataset ∧ t.catalog.Presents ds := by
  have hcompleted := Operation.Completes.completed_run not_proper_empty
    ((performs_list hdraws).allow fun _ => Operation.Reads.completes) s
  have hfaults := (Session.steady_run env list s).faults hs.faults
  rw [h] at hcompleted hfaults
  have hrecords := (hs.completed hfaults hcompleted).records
  obtain ⟨-, -, ds, drawn, hds, hsettle⟩ := run_list_eq_ok hdraws h
  obtain ⟨rfl, rfl⟩ := run_settle_all (s := { s with drawn }) not_proper_empty [] hs.writers rfl
    (by simp) (fun r hr => (hs.records r hr).fillable) hds hsettle
  have hfilled : List.Forall₂ (fun (r : Record) d =>
      Dataset.check .values (.obj r) = .accepted d ∧ d.uuid ≠ "")
      (List.zipWith Record.filled s.catalog ds) ds :=
    forall₂_filled hds fun r d hconverted => ⟨hconverted.check_filled,
      by simpa [Json.isVacant] using hconverted.not_vacant not_proper_empty⟩
  refine ⟨ds, rfl, ((List.forall₂_and_left _ _).mpr ⟨hrecords, hfilled⟩).imp ?_⟩
  rintro r d ⟨hr, haccepted, hproper⟩
  exact hr.presents haccepted hproper

theorem run_find_of_none (hfaults : s.faults = []) (hconnected : s.handle.isSome = true)
    {n : Int} (hwide : tooWide n = false)
    (hnone : s.catalog.findId? env.server.arrays n = none) :
    (find n).run env s = (.error (.refused .datasetNotFound), s) := by
  have hconnection : requireConnection.run env s = (.ok (), s) :=
    run_requireConnection_eq_ok.mpr ⟨hconnected, rfl⟩
  have hoperation : (Program.operation (.findRecord n)).run env s = (.ok (.ok none), s) :=
    Program.run_operation_eq_ok.mpr
      (Operation.findRecord_eq_ok.mpr ⟨hwide, by rw [hfaults]; rfl, hnone.symm, rfl⟩)
  rw [find, Program.run_seq_of_ok hconnection, Program.run_seq_of_ok hoperation]
  rfl

end Datasets

/-- What looking up the id has come to is told by the catalog: there is no record with the id, or
the first one describes the dataset, which has an identifier. -/
def Catalog.Explains (arrays : Bool) (c : Catalog) (n : Int) (found : Except Failure TaskResult) :
    Prop :=
  (c.findId? arrays n = none ∧ found = .error (.refused .datasetNotFound)) ∨
    ∃ d, found = .ok (.dataset d.toJson) ∧ d.uuid ≠ "" ∧ c.dataset? arrays n = some d

/-- What was found under the id is the first dataset with the id that was listed, or the refusal if
there is none. -/
def AgreeOn (n : Int) (listed found : Except Failure TaskResult) : Prop :=
  ∃ ds : List Dataset, listed = .ok (.datasets (ds.map Dataset.toJson)) ∧
    found = match ds.find? (·.id == n) with
      | some d => .ok (.dataset d.toJson)
      | none => .error (.refused .datasetNotFound)

theorem Catalog.Explains.completed {c c' : Catalog} {n : Int} {found : Except Failure TaskResult}
    (h : c.Explains arrays n found) (hc : Completed arrays given c c') :
    c'.Explains arrays n found := by
  rcases h with ⟨hnone, hfound⟩ | ⟨d, hfound, hne, hdataset⟩
  · exact Or.inl ⟨hc.findId?_eq_none.mpr hnone, hfound⟩
  · exact Or.inr ⟨d, hfound, hne, hc.dataset? hdataset hne⟩

theorem Catalog.Presents.agreeOn {c : Catalog} {ds : List Dataset} {n : Int}
    {found : Except Failure TaskResult} (h : c.Presents ds) (hfound : c.Explains arrays n found) :
    AgreeOn n (.ok (.datasets (ds.map Dataset.toJson))) found := by
  refine ⟨ds, rfl, ?_⟩
  rcases h.findId?_cases arrays n with ⟨hnone, hlisted⟩ | ⟨r, d, hr, hlisted, hpresents⟩
  · rw [hlisted]
    rcases hfound with ⟨-, hfound⟩ | ⟨d, -, -, hdataset⟩
    · exact hfound
    · obtain ⟨r, hr, -⟩ := Catalog.dataset?_eq_some.mp hdataset
      rw [hnone] at hr
      cases hr
  · rw [hlisted]
    rcases hfound with ⟨hnone, -⟩ | ⟨d', hfound, -, hdataset⟩
    · rw [hr] at hnone
      cases hnone
    · have hsame : c.dataset? arrays n = some d :=
        Catalog.dataset?_eq_some.mpr ⟨r, hr, hpresents.accepted⟩
      rw [hdataset, Option.some.injEq] at hsame
      rw [hfound, hsame]

namespace Session

theorem Presentable.cleared (hs : s.Presentable) : s.cleared.Presentable :=
  ⟨hs.faults, hs.writers, hs.records⟩

theorem Presentable.list (hdraws : ∀ n, Proper (env.identifier n)) (hs : s.Presentable)
    (hconnected : s.handle.isSome = true) :
    ∃ ds : List Dataset, s.outcome env .listDatasets = .ok (.datasets (ds.map Dataset.toJson)) ∧
      (Task.listDatasets.program.run env s.cleared).2.catalog.Presents ds := by
  obtain ⟨cs, t, hlist⟩ := Datasets.run_list_of_presentable hs.cleared hconnected env
  obtain ⟨ds, rfl, hpresents⟩ := Datasets.presents_of_run_list hdraws hs.cleared hlist
  have hrun : Task.listDatasets.program.run env s.cleared =
      (.ok (.datasets (ds.map Dataset.toJson)), t) := by
    rw [Task.program, Program.run_seq_of_ok hlist,
      Program.run_seq_of_ok (Datasets.run_present_all ds)]
    rfl
  rw [outcome, hrun]
  exact ⟨ds, rfl, hpresents⟩

/-- What looking an id up comes to is explained by the catalog from then on. -/
theorem Presentable.find (hdraws : ∀ n, Proper (env.identifier n)) (hs : s.Presentable)
    (hconnected : s.handle.isSome = true) {n : Int} (hwide : tooWide n = false) :
    ((Task.findDataset n).program.run env s.cleared).2.catalog.Explains env.server.arrays n
      (s.outcome env (.findDataset n)) := by
  rw [outcome, Task.program]
  cases hfound : s.cleared.catalog.findId? env.server.arrays n with
  | none =>
    rw [Program.run_seq_of_error
      (Datasets.run_find_of_none hs.cleared.faults hconnected hwide hfound)]
    exact Or.inl ⟨hfound, rfl⟩
  | some r =>
    have hrecord : ∀ record, s.cleared.catalog.findId? env.server.arrays n = some record →
        record.Presentable :=
      fun record h => hs.records record (List.mem_of_find?_eq_some h)
    obtain ⟨-, hwell⟩ := (hrecord r hfound).wellFormed (Catalog.findId?_hasId hfound)
    obtain ⟨c, t, hfind⟩ := Datasets.run_find_of_convertible hs.cleared.writers hs.cleared.faults
      hconnected hwide hfound hwell.convertible
    obtain ⟨d, rfl, -, hne, hdataset⟩ := Datasets.run_find not_proper_empty hdraws
      hs.cleared.writers (fun record h => (hrecord record h).plainUuid) hfind
    rw [Program.run_seq_of_ok hfind]
    exact Or.inr ⟨d, rfl, hne, hdataset⟩

theorem completed_to_later (hdraws : ∀ n, Proper (env.identifier n)) (hs : s.Presentable)
    {event : Event} {task : Task} (htask : event.task? = some task) {between : List Event}
    (hbetween : ∀ event ∈ between, event.Harmless) (later : Task) :
    (task.program.run env s.cleared).2.catalog.Completed env.server.arrays Proper
      (later.program.run env (s.after env (event :: between)).cleared).2.catalog := by
  have hstep := (hs.step hdraws (Event.harmless_of_task htask)).writers
  have hmeanwhile := completed_after not_proper_empty hdraws
    (fun event hevent => (hbetween event hevent).alone) (s.step env event).2
  rw [step_task htask] at hstep hmeanwhile
  have hlater := Operation.Completes.completed_run not_proper_empty
    (later.performs_completes hdraws) (s.after env (event :: between)).cleared
  have hafter : s.after env (event :: between) =
      (task.program.run env s.cleared).2.after env between := by
    rw [← step_task htask]
    rfl
  rw [hafter] at hlater ⊢
  obtain ⟨hwriters, hcompleted⟩ := hmeanwhile hstep
  exact hcompleted.trans not_proper_empty (hlater hwriters).2

/-- Where every record can be presented, no fault is expected and nobody else writes, the dataset
that is found under an id is the first one with the id that is listed, whichever is done first and
whatever is done before and in between, if only the service is connected at both times. -/
theorem found_as_listed (hdraws : ∀ n, env.identifier n ≠ "") (hwriters : s.writers = [])
    (hfaults : s.faults = []) (hcatalog : ∀ r ∈ s.catalog, r.Presentable)
    {before between : List Event} (hbefore : ∀ event ∈ before, event.Harmless)
    (hbetween : ∀ event ∈ between, event.Harmless) {n : Int} (hwide : tooWide n = false)
    {listing lookup : Event} (hlisting : listing.task? = some .listDatasets)
    (hlookup : lookup.task? = some (.findDataset n))
    (hconnected : (s.after env before).handle.isSome = true) :
    ((s.after env (before ++ listing :: between)).handle.isSome = true →
      AgreeOn n ((s.after env before).outcome env .listDatasets)
        ((s.after env (before ++ listing :: between)).outcome env (.findDataset n))) ∧
    ((s.after env (before ++ lookup :: between)).handle.isSome = true →
      AgreeOn n ((s.after env (before ++ lookup :: between)).outcome env .listDatasets)
        ((s.after env before).outcome env (.findDataset n))) := by
  have hs : (s.after env before).Presentable :=
    Presentable.after hdraws hbefore ⟨hfaults, hwriters, hcatalog⟩
  have hlater : ∀ {event : Event} {task : Task}, event.task? = some task →
      ((s.after env before).after env (event :: between)).Presentable := by
    intro event task htask
    refine hs.after hdraws fun e he => ?_
    rcases List.mem_cons.mp he with rfl | he
    · exact Event.harmless_of_task htask
    · exact hbetween e he
  rw [after_append, after_append]
  constructor
  · intro hstill
    obtain ⟨ds, hlisted, hpresents⟩ := hs.list hdraws hconnected
    rw [hlisted]
    exact (hpresents.completed (completed_to_later hdraws hs hlisting hbetween _)).agreeOn
      ((hlater hlisting).find hdraws hstill hwide)
  · intro hstill
    obtain ⟨ds, hlisted, hpresents⟩ := (hlater hlookup).list hdraws hstill
    rw [hlisted]
    exact hpresents.agreeOn ((hs.find hdraws hconnected hwide).completed
      (completed_to_later hdraws hs hlookup hbetween _))

/-- Two records share an id and have no identifier. The one that the id stands for is given the
second or the third that is drawn, by the look-up or by the listing. -/
theorem found_as_listed_duplicates :
    let env : Environment :=
      ⟨.standard, [], fun n => String.ofList (List.replicate n 'x' ++ ['y']), .counting 0⟩
    let s := Session.initial [[("id", .int 2), ("name", .str "a")],
      [("id", .int 1), ("name", .str "b"), ("uuid", .str "")],
      [("id", .int 1), ("name", .str "c"), ("uuid", .null)]] [] (some .standard) (.error {})
    let before := [Event.call (.findDataset 2)]
    let between := [Event.setClock (.error {}), .call (.listPolicies 1)]
    let listed := s.after env (before ++ .call .listDatasets :: between)
    let found := s.after env (before ++ .call (.findDataset 1) :: between)
    AgreeOn 1 ((s.after env before).outcome env .listDatasets)
        (listed.outcome env (.findDataset 1)) ∧
      AgreeOn 1 (found.outcome env .listDatasets)
        ((s.after env before).outcome env (.findDataset 1)) := by
  intro env s before between listed found
  have hdraws : ∀ n, env.identifier n ≠ "" := by
    intro n h
    have hlength := congrArg (·.toList.length) h
    simp [env] at hlength
  have hcatalog : ∀ r ∈ s.catalog, r.Presentable := by
    intro r hr
    simp only [s, Session.initial, List.mem_cons, List.not_mem_nil, or_false] at hr
    rcases hr with rfl | rfl | rfl
    · exact ⟨⟨⟨2, rfl⟩, Or.inl rfl⟩, by rintro _ ⟨⟩; rfl, ⟨"a", rfl⟩, ⟨"", rfl⟩⟩
    · exact ⟨⟨⟨1, rfl⟩, Or.inr ⟨"", rfl⟩⟩, by rintro _ ⟨⟩; rfl, ⟨"b", rfl⟩, ⟨"", rfl⟩⟩
    · exact ⟨⟨⟨1, rfl⟩, Or.inl rfl⟩, by rintro _ ⟨⟩; rfl, ⟨"c", rfl⟩, ⟨"", rfl⟩⟩
  have hbefore : ∀ event ∈ before, event.Harmless := by simp [before, Event.Harmless]
  have hbetween : ∀ event ∈ between, event.Harmless := by simp [between, Event.Harmless]
  have hlisting : (Event.call .listDatasets).task? = some .listDatasets := rfl
  have hlookup : (Event.call (.findDataset 1)).task? = some (.findDataset 1) := rfl
  obtain ⟨hlisted, hfound⟩ := found_as_listed hdraws rfl rfl hcatalog hbefore hbetween rfl hlisting
    hlookup (by decide)
  exact ⟨hlisted (by decide +kernel), hfound (by decide +kernel)⟩

end Session
end UsagePolicy
