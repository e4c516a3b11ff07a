import UsagePolicy.Proofs.Datasets.Lookup
import UsagePolicy.Proofs.Store.Servers

/-!
# Identifiers that are written back

The catalog is read as datasets, each with an identifier. A record without an identifier is to hold
that of its dataset from then on. This is so for the whole catalog exactly if each such record has a
number for its id and a blank for its identifier: the identifier is stored under the integer that
the id was read as, which may also be read from a text or a boolean, and it replaces only what is
blank, while other vacant values are taken for missing as well. Reading such a catalog again returns
the same datasets and changes nothing.
-/
namespace UsagePolicy

variable {given : String → Prop} {env : Environment} {s t : Session}

namespace Record

/-- If the record has no identifier, one can be stored for it: its id equals an integer, and what
stands for its identifier is blank. -/
def Fillable (r : Record) : Prop :=
  r.uuid.isVacant = true → r.uuid.isBlank = true ∧ ∃ id, (r.get "id").equalsInt id = true

/-- The record with the identifier of its dataset, if it had none. -/
def filled (r : Record) (d : Dataset) : Record :=
  if r.uuid.isVacant then r.setUuid (.str d.uuid) else r

end Record

namespace Catalog

variable {arrays : Bool} {c front back : Catalog} {r : Record} {id : Int}

theorem assign_append (hfront : ∀ x ∈ front, x.isOpen arrays = false)
    (hid : r.hasId arrays id = true) (hopen : r.isOpen arrays = true) (uuid : String) :
    assign arrays (front ++ r :: back) id uuid =
      (front ++ r.setUuid (.str uuid) :: back, true) := by
  induction front with
  | nil => simp [assign, modifyFirst, hid, hopen]
  | cons x rest ih =>
    have hrest := ih fun y hy => hfront y (by simp [hy])
    have hx : x.isOpen arrays = false := hfront x (by simp)
    simp only [assign] at hrest ⊢
    simp [modifyFirst, hx, hrest]

theorem mem_assign_of_not_fillable (hr : r ∈ c) (hflat : r.IsFlat) (hnot : ¬ r.Fillable)
    (uuid : String) : r ∈ (c.assign arrays id uuid).1 := by
  rcases c.assign_cases arrays id uuid with
    ⟨-, heq⟩ | ⟨front, found, back, rfl, -, hid, hopen, heq⟩
  · rwa [heq]
  · rw [heq]
    have hne : r ≠ found := by
      rintro rfl
      rw [hflat.hasId] at hid
      rw [hflat.isOpen] at hopen
      exact hnot fun _ => ⟨hopen, id, hid⟩
    rw [List.mem_append, List.mem_cons] at hr ⊢
    exact hr.imp_right fun h => Or.inr (h.resolve_left hne)

/-- The catalog holds at each place the identifier of the dataset at that place. -/
def HoldsEach (c : Catalog) (ds : List CatalogDataset) : Prop :=
  List.Forall₂ (fun r d => r.uuid = d.uuid) c ds

theorem HoldsEach.not_vacant {ds : List CatalogDataset} (h : c.HoldsEach ds)
    (hds : ∀ d ∈ ds, d.uuid.isVacant = false) : ∀ r ∈ c, r.uuid.isVacant = false := by
  intro r hr
  obtain ⟨d, hd, huuid⟩ := exists_left_of_forall₂ (List.Forall₂.flip h) hr
  rw [show r.uuid = d.uuid from huuid, hds d hd]

end Catalog

namespace Datasets

variable {record : Record} {d : Dataset} {c : CatalogDataset}

theorem Converted.not_vacant (hgiven : ¬ given "") (h : Converted given record d) :
    (Json.str d.uuid).isVacant = false := by
  cases hvacant : record.uuid.isVacant with
  | true =>
    have hne : d.uuid ≠ "" := fun heq => hgiven (heq ▸ h.drawn hvacant)
    simpa [Json.isVacant] using hne
  | false => rw [← h.own hvacant, hvacant]

theorem adopt_not_vacant (h : (Json.str d.uuid).isVacant = false) (stored : Option Record) :
    (adopt d stored).uuid.isVacant = false := by
  unfold adopt
  cases stored with
  | none => exact h
  | some r =>
    simp only [Option.map_some]
    split
    · exact h
    · next hvacant => rwa [Bool.not_eq_true] at hvacant

theorem run_settle_not_vacant (hgiven : ¬ given "") (hconverted : Converted given record d)
    (h : (settle record d).run env s = (.ok c, t)) : c.uuid.isVacant = false := by
  have hown := hconverted.not_vacant hgiven
  rcases run_settle_eq_ok h with ⟨-, rfl, -⟩ | ⟨-, rfl, -⟩ | ⟨-, _, stored, rfl, -⟩
  · exact hown
  · exact hown
  · exact adopt_not_vacant hown stored

/-- If no other writer waited, none waits now, and the records that could not be filled in are as
they were, those apart that a filter could enter. -/
def PassesOver (s t : Session) : Prop :=
  s.writers = [] → t.writers = [] ∧
    ∀ r ∈ s.catalog, r.IsFlat → ¬ r.Fillable → r ∈ t.catalog

theorem passesOver_perform (op : Operation) (env : Environment) (s : Session) :
    PassesOver s (op.perform env s).2 := by
  intro hs
  by_cases hnone : op.AssignsNone
  · obtain ⟨hcatalog, hwriters⟩ := Operation.catalogKept_perform hnone env s
    rw [hcatalog, hwriters]
    exact ⟨hs, fun r hr _ _ => hr⟩
  · cases op with
    | assignUuid id uuid =>
      simp only [Operation.perform]
      split
      · exact ⟨hs, fun r hr _ _ => hr⟩
      · refine Operation.guarded_session (P := fun t => t.writers = [] ∧
          ∀ r ∈ s.catalog, r.IsFlat → ¬ r.Fillable → r ∈ t.catalog) ⟨hs, fun r hr _ _ => hr⟩ ?_
        rw [Session.admitWriter_of_no_writers hs]
        exact ⟨hs, fun r hr hflat hnot => Catalog.mem_assign_of_not_fillable hr hflat hnot uuid⟩
    | _ => exact absurd trivial hnone

theorem PassesOver.trans {u : Session} (h : PassesOver s t) (h' : PassesOver t u) :
    PassesOver s u := by
  intro hs
  obtain ⟨hwriters, hkept⟩ := h hs
  obtain ⟨hwriters', hkept'⟩ := h' hwriters
  exact ⟨hwriters', fun r hr hflat hnot => hkept' r (hkept r hr hflat hnot) hflat hnot⟩

theorem passesOver_run {α : Type} (env : Environment) (p : Program α) (s : Session) :
    PassesOver s (p.run env s).2 :=
  p.session_run (R := PassesOver) (fun _ hs => ⟨hs, fun _ hr _ _ => hr⟩)
    (fun _ _ _ => PassesOver.trans) (fun op s => passesOver_perform op env s) s

theorem Converted.uuid_filled (h : Converted given record d) :
    (record.filled d).uuid = .str d.uuid := by
  unfold Record.filled
  split
  · exact Record.uuid_setUuid record _
  · next hvacant =>
    rw [Bool.not_eq_true] at hvacant
    exact h.own hvacant

theorem Converted.check_filled (h : Converted given record d) :
    Dataset.check .values (.obj (record.filled d)) = .accepted d := by
  unfold Record.filled
  split
  · exact h.accepted
  · next hvacant =>
    rw [Bool.not_eq_true] at hvacant
    exact Dataset.check_of_setUuid (h.own hvacant) h.accepted

theorem run_settle_filled {front back : Catalog} (hs : s.writers = [])
    (hcatalog : s.catalog = front ++ record :: back)
    (hfront : ∀ r ∈ front, r.isOpen env.server.arrays = false) (hfillable : record.Fillable)
    (hconverted : Converted given record d) (h : (settle record d).run env s = (.ok c, t)) :
    c = .ofDataset d ∧ t = { s with catalog := front ++ record.filled d :: back } := by
  have hassign : record.uuid.isVacant = true →
      s.catalog.assign env.server.arrays d.id d.uuid =
        (front ++ record.filled d :: back, true) := by
    intro hvacant
    obtain ⟨hblank, id, hequals⟩ := hfillable hvacant
    have hid := Record.hasId_of_equalsInt hequals env.server.arrays
    rw [← hconverted.id_eq hid] at hid
    rw [hcatalog, Record.filled, if_pos hvacant]
    exact Catalog.assign_append hfront hid (Record.isOpen_of_isBlank hblank) d.uuid
  rcases run_settle_cases hs h with
    ⟨hvacant, rfl, rfl⟩ | ⟨hvacant, -, rfl, rfl⟩ | ⟨hvacant, hnone, -, -⟩
  · have hsame : record.filled d = record := by simp [Record.filled, hvacant]
    rw [hsame, ← hcatalog]
    exact ⟨rfl, rfl⟩
  · rw [hassign hvacant]
    exact ⟨rfl, rfl⟩
  · rw [hassign hvacant] at hnone
    cases hnone

theorem run_settle_all (hgiven : ¬ given "") (front : Catalog) {records : Catalog}
    {ds : List Dataset} {cs : List CatalogDataset} (hs : s.writers = [])
    (hcatalog : s.catalog = front ++ records)
    (hfront : ∀ r ∈ front, r.isOpen env.server.arrays = false)
    (hfillable : ∀ r ∈ records, r.Fillable)
    (hds : List.Forall₂ (Converted given) records ds)
    (h : (Program.forEach (fun (record, dataset) => settle record dataset)
      (records.zip ds)).run env s = (.ok cs, t)) :
    cs = ds.map .ofDataset ∧
      t = { s with catalog := front ++ List.zipWith Record.filled records ds } := by
  -- Each record moves to `front` once it is settled, so that an assignment finds each record before
  -- the next one with an identifier.
  induction hds generalizing front s cs with
  | nil =>
    cases h
    refine ⟨rfl, ?_⟩
    rw [List.zipWith_nil_left, ← hcatalog]
  | @cons record d records ds hconverted _ ih =>
    obtain ⟨c, u, hsettle, h⟩ := Program.run_seq_eq_ok.mp h
    obtain ⟨rest, v, hrest, h⟩ := Program.run_seq_eq_ok.mp h
    cases h
    obtain ⟨rfl, rfl⟩ := run_settle_filled hs hcatalog hfront (hfillable record (by simp))
      hconverted hsettle
    have hopen : (record.filled d).isOpen env.server.arrays = false := by
      have hvacant := hconverted.not_vacant hgiven
      exact (Record.isOpen_of_str hconverted.uuid_filled).mpr
        (by simpa [Json.isVacant] using hvacant)
    have hfront' : ∀ r ∈ front ++ [record.filled d], r.isOpen env.server.arrays = false := by
      simpa [or_imp, forall_and, hopen] using hfront
    obtain ⟨rfl, rfl⟩ := ih (s := { s with catalog := front ++ record.filled d :: records })
      (front ++ [record.filled d]) hs (by simp) hfront'
      (fun r hr => hfillable r (by simp [hr])) hrest
    simp

/-- To read the whole catalog is to convert all records and then to settle each. -/
theorem run_list_eq_ok (hdraws : ∀ n, given (env.identifier n)) {cs : List CatalogDataset}
    (h : list.run env s = (.ok cs, t)) :
    s.handle.isSome = true ∧ s.faults.lookup .find = none ∧
      ∃ ds drawn, List.Forall₂ (Converted given) s.catalog ds ∧
        (Program.forEach (fun (record, dataset) => settle record dataset)
          (s.catalog.zip ds)).run env { s with drawn } = (.ok cs, t) := by
  obtain ⟨_, _, hconnection, h⟩ := Program.run_seq_eq_ok.mp h
  obtain ⟨hconnected, rfl⟩ := run_requireConnection_eq_ok.mp hconnection
  obtain ⟨records, u, hoperation, h⟩ := run_access_eq_ok.mp h
  obtain ⟨hfault, rfl, rfl⟩ :=
    Operation.listRecords_eq_ok.mp (Program.run_operation_eq_ok.mp hoperation)
  obtain ⟨ds, v, hconvert, h⟩ := Program.run_seq_eq_ok.mp h
  obtain ⟨_, w, hconnection, h⟩ := Program.run_seq_eq_ok.mp h
  obtain ⟨-, rfl⟩ := run_requireConnection_eq_ok.mp hconnection
  have hds : List.Forall₂ (Converted given) u.catalog ds :=
    (Program.run_forEach_eq_ok hconvert).imp
      fun _ _ ⟨_, _, hrun⟩ => (run_convert hdraws hrun).1
  obtain ⟨drawn, hdrawn⟩ := run_of_draws (Program.performs_forEach performs_convert u.catalog) u
  rw [convertAll] at hconvert
  rw [hconvert] at hdrawn
  subst hdrawn
  exact ⟨hconnected, hfault, ds, drawn, hds, h⟩

theorem run_list_of_ingest (hconnected : s.handle.isSome = true)
    (hfault : s.faults.lookup .find = none) {cs : List CatalogDataset}
    (h : (ingest s.catalog).run env s = (.ok cs, t)) : list.run env s = (.ok cs, t) := by
  have hconnection : requireConnection.run env s = (.ok (), s) :=
    run_requireConnection_eq_ok.mpr ⟨hconnected, rfl⟩
  have hoperation : (Program.operation .listRecords).run env s = (.ok (.ok s.catalog), s) :=
    Program.run_operation_eq_ok.mpr (Operation.listRecords_eq_ok.mpr ⟨hfault, rfl, rfl⟩)
  rw [list, Program.run_seq_of_ok hconnection, Program.run_seq_of_ok hoperation]
  exact h

theorem run_convert_of_check (hvacant : record.uuid.isVacant = false)
    (h : Dataset.check .values (.obj record) = .accepted d) (s : Session) :
    (convert record).run env s = (.ok d, s) := by
  obtain ⟨⟨id, hid, haccepted⟩, hname, hdescription, huuid⟩ := Dataset.check_obj_eq_accepted.mp h
  have hown : record.uuid = .str d.uuid := by simp [Record.uuid, Fields.get, huuid]
  have hidentifier : (identifierFor record).run env s = (.ok (.str d.uuid), s) := by
    rw [identifierFor, hvacant, hown]
    rfl
  have hchecked : Dataset.check .values (.obj [("id", id), ("name", .str d.name),
      ("description", .str d.description), ("uuid", .str d.uuid)]) = .accepted d :=
    Dataset.check_obj_eq_accepted.mpr ⟨⟨id, rfl, haccepted⟩, rfl, rfl, rfl⟩
  have hfieldId : (fieldOf record "id").run env s = (.ok id, s) := by simp [fieldOf, hid]
  have hfieldName : (fieldOf record "name").run env s = (.ok (.str d.name), s) := by
    simp [fieldOf, hname]
  rw [convert, Program.run_seq_of_ok hfieldId, Program.run_seq_of_ok hfieldName,
    Program.run_seq_of_ok hidentifier, hdescription, hchecked]
  rfl

theorem settle_of_not_vacant (h : record.uuid.isVacant = false) :
    settle record d = pure (.ofDataset d) := by
  rw [settle, h]
  rfl

theorem run_list_of_check {ds : List Dataset} (hconnected : s.handle.isSome = true)
    (hfault : s.faults.lookup .find = none)
    (h : List.Forall₂ (fun (r : Record) d => r.uuid.isVacant = false ∧
      Dataset.check .values (.obj r) = .accepted d) s.catalog ds) :
    list.run env s = (.ok (ds.map .ofDataset), s) := by
  have hconvert : (convertAll s.catalog).run env s = (.ok ds, s) :=
    Program.run_forEach_of_results (h.imp fun record d hr => run_convert_of_check hr.1 hr.2 s)
  have hsettle : (Program.forEach (fun (record, dataset) => settle record dataset)
      (s.catalog.zip ds)).run env s = (.ok (ds.map .ofDataset), s) := by
    apply Program.run_forEach_of_results
    -- No step of the loop changes the session, so the induction is over the records alone.
    clear hconvert
    generalize s.catalog = records at h
    induction h with
    | nil => exact List.Forall₂.nil
    | cons hr _ ih =>
      refine List.Forall₂.cons ?_ ih
      simp [settle_of_not_vacant hr.1]
  exact run_list_of_ingest hconnected hfault (run_ingest_of_ok hconvert hconnected hsettle)

theorem forall₂_filled {P : Record → Dataset → Prop} {records : List Record} {ds : List Dataset}
    (h : List.Forall₂ (Converted given) records ds)
    (hP : ∀ r d, Converted given r d → P (r.filled d) d) :
    List.Forall₂ P (List.zipWith Record.filled records ds) ds := by
  induction h with
  | nil => exact List.Forall₂.nil
  | cons hr _ ih => exact List.Forall₂.cons (hP _ _ hr) ih

/-- Where each record without an identifier can be filled in, the catalog holds what reading it
returns, and to read it again changes nothing. -/
theorem run_list_of_fillable (hgiven : ¬ given "") (hdraws : ∀ n, given (env.identifier n))
    (hs : s.writers = []) {cs : List CatalogDataset} (h : list.run env s = (.ok cs, t))
    (hfillable : ∀ r ∈ s.catalog, r.Fillable) :
    t.catalog.HoldsEach cs ∧ list.run env t = (.ok cs, t) := by
  obtain ⟨hconnected, hfault, ds, drawn, hds, hsettle⟩ := run_list_eq_ok hdraws h
  obtain ⟨rfl, rfl⟩ := run_settle_all (s := { s with drawn }) hgiven [] hs rfl (by simp)
    hfillable hds hsettle
  have hfilled : List.Forall₂ (fun (r : Record) (d : Dataset) => r.uuid = .str d.uuid ∧
      r.uuid.isVacant = false ∧ Dataset.check .values (.obj r) = .accepted d)
      (List.zipWith Record.filled s.catalog ds) ds := by
    refine forall₂_filled hds fun r d hconverted =>
      ⟨hconverted.uuid_filled, ?_, hconverted.check_filled⟩
    rw [hconverted.uuid_filled]
    exact hconverted.not_vacant hgiven
  constructor
  · exact List.forall₂_map_right_iff.mpr (hfilled.imp fun _ _ h => h.1)
  · exact run_list_of_check hconnected hfault (hfilled.imp fun _ _ h => h.2)

/-- A catalog that holds what reading it has returned had no record without an identifier that
could not be filled in: such a record is passed over and stays without one. -/
theorem fillable_of_holdsEach (hgiven : ¬ given "") (hdraws : ∀ n, given (env.identifier n))
    (hs : s.writers = []) {cs : List CatalogDataset} (h : list.run env s = (.ok cs, t))
    (hholds : t.catalog.HoldsEach cs) : ∀ r ∈ s.catalog, r.Fillable := by
  obtain ⟨-, -, ds, drawn, hds, hsettle⟩ := run_list_eq_ok hdraws h
  have hcs : ∀ c ∈ cs, c.uuid.isVacant = false := by
    intro c hc
    obtain ⟨pair, hpair, u, v, hrun⟩ :=
      exists_left_of_forall₂ (Program.run_forEach_eq_ok hsettle) hc
    exact run_settle_not_vacant hgiven ((List.forall₂_iff_zip.mp hds).2 hpair) hrun
  have hpassed := (passesOver_run env list s hs).2
  rw [h] at hpassed
  intro r hr
  obtain ⟨d, -, hconverted⟩ := exists_left_of_forall₂ (List.Forall₂.flip hds) hr
  by_contra hnot
  have hvacant : r.uuid.isVacant = true := by
    by_contra hown
    exact hnot fun hvacant => absurd hvacant hown
  rw [hholds.not_vacant hcs r (hpassed r hr hconverted.isFlat hnot)] at hvacant
  cases hvacant

/-- Reading the catalog writes all identifiers back exactly if each record without one can be filled
in. Once the catalog holds the identifiers that were returned, reading it again returns the same
datasets and changes nothing. -/
theorem identifiers_written_back (hdraws : ∀ n, env.identifier n ≠ "") (hwriters : s.writers = [])
    {ds : List CatalogDataset} (h : list.run env s = (.ok ds, t)) :
    (t.catalog.HoldsEach ds ↔ ∀ r ∈ s.catalog, r.Fillable) ∧
      (t.catalog.HoldsEach ds → list.run env t = (.ok ds, t)) := by
  have hback := run_list_of_fillable not_proper_empty hdraws hwriters h
  have hforth := fillable_of_holdsEach not_proper_empty hdraws hwriters h
  exact ⟨⟨hforth, fun hfillable => (hback hfillable).1⟩, fun hholds => (hback (hforth hholds)).2⟩

/-- Two records share an id, and a third one has an identifier of its own. -/
theorem identifiers_written_back_duplicates :
    let env : Environment :=
      ⟨.standard, [], fun n => if n = 1 then "first" else "second", .counting 0⟩
    let s := Session.initial [[("id", .int 1), ("name", .str "a")],
      [("id", .int 1), ("name", .str "b"), ("uuid", .null)],
      [("id", .int 2), ("name", .str "c"), ("uuid", .str "own")]] [] (some .standard) (.error {})
    ∃ ds t, list.run env s = (.ok ds, t) ∧
      ds.map (·.dataset.uuid) = ["first", "second", "own"] ∧ t.catalog.HoldsEach ds ∧
      list.run env t = (.ok ds, t) := by
  intro env s
  have hdraws : ∀ n, env.identifier n ≠ "" := by
    intro n
    simp only [env]
    split <;> decide
  have hfillable : ∀ r ∈ s.catalog, r.Fillable := by
    intro r hr
    simp only [s, Session.initial, List.mem_cons, List.not_mem_nil, or_false] at hr
    rcases hr with rfl | rfl | rfl
    · exact fun _ => ⟨rfl, 1, rfl⟩
    · exact fun _ => ⟨rfl, 1, rfl⟩
    · intro hvacant
      cases hvacant
  have h : list.run env s = (.ok _, (list.run env s).2) := rfl
  obtain ⟨hiff, hagain⟩ := identifiers_written_back hdraws rfl h
  exact ⟨_, _, h, rfl, hiff.mpr hfillable, hagain (hiff.mpr hfillable)⟩

/-- A text is read as an id, but no record is found under it when the identifier is stored. -/
theorem text_id_not_written_back :
    let env : Environment :=
      ⟨.standard, [], fun n => if n = 1 then "first" else "second", .counting 0⟩
    let s := Session.initial [[("id", .str "1"), ("name", .str "a")]] [] (some .standard)
      (.error {})
    ∃ ds t later u, list.run env s = (.ok ds, t) ∧ ¬ t.catalog.HoldsEach ds ∧
      list.run env t = (.ok later, u) ∧ ds.map (·.dataset.uuid) = ["first"] ∧
      later.map (·.dataset.uuid) = ["second"] := by
  intro env s
  refine ⟨_, _, _, _, rfl, ?_, rfl, rfl, rfl⟩
  intro h
  cases h with
  | cons huuid _ =>
    have hnull : Json.null = .str "first" := huuid
    cases hnull

end Datasets
end UsagePolicy
