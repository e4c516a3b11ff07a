import Mathlib.Data.List.Nodup
import Mathlib.Data.List.Perm.Subperm
import UsagePolicy.Proofs.Datasets.WriteBack
import UsagePolicy.Proofs.Service.Refusals

/-!
# Distinct identifiers

If no identifier is drawn twice and none is drawn that the catalog has already, the identifiers in
the catalog stay distinct, whatever requests, calls and faults there are. Reading the records of a
catalog draws one identifier for each record that has none, and each of them is stored at most once,
also if the reading fails before all of them are stored. What has been drawn in vain is not drawn
again. So the datasets of a catalog whose blanks can all be filled in have distinct identifiers.
-/
namespace UsagePolicy

open List (Subperm)

variable {env : Environment} {s t : Session}

namespace Catalog

/-- The identifiers of the catalog that are not blank, in order. -/
def identifiers (c : Catalog) : List Json :=
  (c.map Record.uuid).filter fun uuid => !uuid.isBlank

theorem identifiers_append (c c' : Catalog) :
    identifiers (c ++ c') = c.identifiers ++ c'.identifiers := by
  simp [identifiers]

theorem identifiers_cons (r : Record) (c : Catalog) :
    identifiers (r :: c) = if r.uuid.isBlank then c.identifiers else r.uuid :: c.identifiers := by
  cases h : r.uuid.isBlank <;> simp [identifiers, h]

theorem identifiers_assign (arrays : Bool) (c : Catalog) (id : Int) (uuid : String) :
    Subperm (c.assign arrays id uuid).1.identifiers (.str uuid :: c.identifiers) := by
  rcases c.assign_cases arrays id uuid with ⟨-, heq⟩ | ⟨front, r, back, rfl, -, -, -, heq⟩
  · rw [heq]
    exact List.Subperm.cons_self
  · have hback : (identifiers back).Sublist (identifiers (r :: back)) := by
      rw [identifiers_cons]
      split
      · exact List.Sublist.refl _
      · exact List.sublist_cons_self _ _
    have hset : (identifiers (r.setUuid (.str uuid) :: back)).Sublist
        (.str uuid :: identifiers (r :: back)) := by
      rw [identifiers_cons, Record.uuid_setUuid]
      split
      · exact hback.trans (List.sublist_cons_self _ _)
      · exact hback.cons_cons _
    rw [heq, identifiers_append, identifiers_append]
    exact (hset.append_left _).subperm.trans List.perm_middle.subperm

end Catalog

namespace Session

/-- The identifiers that are about to be stored and those that the catalog has. -/
def claimed (s : Session) (pending : List String) : List Json :=
  pending.map .str ++ s.catalog.identifiers

/-- Nobody else is about to write, the identifiers that are claimed are distinct, and none of them
will be drawn again. -/
structure Distinct (env : Environment) (pending : List String) (s : Session) : Prop where
  writers : s.writers = []
  nodup : (s.claimed pending).Nodup
  undrawn : ∀ n, s.drawn < n → .str (env.identifier n) ∉ s.claimed pending

namespace Distinct

variable {pending later : List String} {uuid : String}

theorem mono (h : Distinct env pending s) (hwriters : t.writers = s.writers)
    (hclaimed : Subperm (t.claimed later) (s.claimed pending)) (hdrawn : s.drawn ≤ t.drawn) :
    Distinct env later t where
  writers := hwriters.trans h.writers
  nodup := by
    obtain ⟨l, hperm, hsublist⟩ := hclaimed
    exact hperm.nodup (h.nodup.sublist hsublist)
  undrawn n hn hmem := h.undrawn n (hdrawn.trans_lt hn) (List.Subperm.subset hclaimed hmem)

/-- A pending identifier may be stored, or it is given up. -/
theorem stored {c : Catalog} (h : Distinct env (uuid :: pending) s)
    (hc : Subperm c.identifiers (.str uuid :: s.catalog.identifiers)) :
    Distinct env pending { s with catalog := c } := by
  refine h.mono rfl ?_ le_rfl
  have hclaimed : Subperm (pending.map .str ++ c.identifiers)
      (pending.map .str ++ .str uuid :: s.catalog.identifiers) :=
    (List.subperm_append_left _).mpr hc
  exact List.Subperm.trans hclaimed List.perm_middle.subperm

theorem draw (hinjective : Function.Injective env.identifier) (h : Distinct env pending s) :
    Distinct env (env.identifier (s.drawn + 1) :: pending) { s with drawn := s.drawn + 1 } where
  writers := h.writers
  nodup := List.nodup_cons.mpr ⟨h.undrawn _ (Nat.lt_succ_self _), h.nodup⟩
  undrawn n hn hmem := by
    rcases List.mem_cons.mp hmem with heq | hmem
    · rw [Json.str.injEq] at heq
      exact absurd (hinjective heq) (Nat.ne_of_gt hn)
    · exact h.undrawn n (Nat.lt_of_succ_lt hn) hmem

end Distinct

end Session

theorem Operation.drawn_le_perform (op : Operation) (env : Environment) (s : Session) :
    s.drawn ≤ (op.perform env s).2.drawn := by
  rcases op.perform_session_cases env s with ⟨access, heq⟩ | ⟨-, -, hdrawn⟩
  · rw [heq]
  · exact hdrawn

namespace Session

variable {pending : List String} {uuid : String}

theorem Distinct.perform {op : Operation} (h : Distinct env pending s) (hop : op.AssignsNone) :
    Distinct env pending (op.perform env s).2 := by
  obtain ⟨hcatalog, hwriters⟩ := Operation.catalogKept_perform hop env s
  refine h.mono hwriters ?_ (op.drawn_le_perform env s)
  rw [claimed, claimed, hcatalog]

theorem Distinct.assign (h : Distinct env (uuid :: pending) s) (id : Int) :
    Distinct env pending ((Operation.assignUuid id uuid).perform env s).2 := by
  have hgivenUp : Distinct env pending s := h.stored List.Subperm.cons_self
  simp only [Operation.perform]
  split
  · exact hgivenUp
  · refine Operation.guarded_session (hgivenUp.mono rfl (List.Subperm.refl _) le_rfl) ?_
    rw [admitWriter_of_no_writers h.writers]
    exact h.stored (s.catalog.identifiers_assign env.server.arrays id uuid)

theorem Distinct.run {α : Type} {p : Program α} (h : Distinct env pending s)
    (hp : p.Performs env Operation.AssignsNone) : Distinct env pending (p.run env s).2 :=
  hp.run_related (R := fun s t => Distinct env pending s → Distinct env pending t)
    (fun _ h => h) (fun _ _ _ h h' hs => h' (h hs)) (fun _ _ hop h => h.perform hop) s h

end Session

namespace Datasets

open Program

variable {given : String → Prop} {record : Record} {d : Dataset} {pending : List String}

def drawnFor (record : Record) (d : Dataset) : List String :=
  if record.uuid.isVacant then [d.uuid] else []

theorem run_convert_cases (h : (convert record).run env s = (.ok d, t)) :
    (record.uuid.isVacant = false ∧ t = s) ∨
      record.uuid.isVacant = true ∧ d.uuid = env.identifier (s.drawn + 1) ∧
        t = { s with drawn := s.drawn + 1 } := by
  obtain ⟨id, u, hfieldId, h⟩ := run_seq_eq_ok.mp h
  obtain ⟨hid, rfl⟩ := Policies.run_fieldOf_eq_ok.mp hfieldId
  obtain ⟨name, u, hfieldName, h⟩ := run_seq_eq_ok.mp h
  obtain ⟨hname, rfl⟩ := Policies.run_fieldOf_eq_ok.mp hfieldName
  obtain ⟨uuid, v, hidentifier, h⟩ := run_seq_eq_ok.mp h
  obtain ⟨hchecked, rfl⟩ := run_ofChecked_eq_ok.mp h
  obtain ⟨huuid, -⟩ := accepted_of_parts hid hname hchecked
  unfold identifierFor at hidentifier
  split at hidentifier
  · next hvacant =>
    cases hidentifier
    exact Or.inr ⟨hvacant, (Json.str.inj huuid).symm, rfl⟩
  · next hvacant =>
    cases hidentifier
    exact Or.inl ⟨by simpa using hvacant, rfl⟩

theorem distinct_convert (hinjective : Function.Injective env.identifier)
    (hs : s.Distinct env pending) (h : (convert record).run env s = (.ok d, t)) :
    t.Distinct env (drawnFor record d ++ pending) := by
  rcases run_convert_cases h with ⟨hvacant, rfl⟩ | ⟨hvacant, huuid, rfl⟩
  · simpa [drawnFor, hvacant] using hs
  · simpa [drawnFor, hvacant, huuid] using hs.draw hinjective

def drawnForAll (records : List Record) (ds : List Dataset) : List String :=
  (records.zip ds).flatMap fun (record, d) => drawnFor record d

theorem distinct_convertAll (hinjective : Function.Injective env.identifier)
    {records : List Record} {ds : List Dataset} (hs : s.Distinct env pending)
    (h : (convertAll records).run env s = (.ok ds, t)) :
    t.Distinct env (drawnForAll records ds ++ pending) := by
  induction records generalizing s pending ds with
  | nil =>
    cases h
    exact hs
  | cons record rest ih =>
    obtain ⟨d, u, hconvert, h⟩ := run_seq_eq_ok.mp h
    obtain ⟨restDs, v, hrest, h⟩ := run_seq_eq_ok.mp h
    cases h
    have hall := ih (distinct_convert hinjective hs hconvert) hrest
    refine hall.mono rfl (List.Perm.subperm ?_) le_rfl
    have hswap : (drawnForAll (record :: rest) (d :: restDs) ++ pending).Perm
        (drawnForAll rest restDs ++ (drawnFor record d ++ pending)) := by
      simp only [drawnForAll, List.zip_cons_cons, List.flatMap_cons, List.append_assoc]
      exact List.perm_append_comm_assoc _ _ _
    exact (hswap.map _).append_right _

/-- Settling a record stores what was drawn for it or, if it fails, gives it up. -/
theorem distinct_settle (hs : s.Distinct env (drawnFor record d ++ pending)) :
    ((settle record d).run env s).2.Distinct env pending := by
  unfold settle
  split
  · next hvacant =>
    rw [drawnFor, if_pos hvacant] at hs
    have hassigned := hs.assign d.id
    refine session_run_seq hassigned fun reply u hrun hu => hu.run ?_
    refine (performs_ofExcept _ reply).bind fun assigned => ?_
    split
    · exact performs_pure _
    · refine Performs.bind (performs_operation trivial) fun found => ?_
      exact (performs_ofExcept _ found).bind fun stored => performs_pure _
  · next hvacant =>
    rw [drawnFor, if_neg hvacant] at hs
    exact hs

theorem distinct_settleAll {pairs : List (Record × Dataset)}
    (hs : s.Distinct env (pairs.flatMap fun (record, d) => drawnFor record d)) :
    ((forEach (fun (record, d) => settle record d) pairs).run env s).2.Distinct env [] := by
  induction pairs generalizing s with
  | nil => exact hs
  | cons pair rest ih =>
    have hgivenUp : ∀ {t : Session} {more : List String},
        t.Distinct env more → t.Distinct env [] :=
      fun ht => ht.mono rfl (List.sublist_append_right _ _).subperm le_rfl
    have hfirst := distinct_settle hs
    refine session_run_seq (hgivenUp hfirst) fun c t hrun _ => ?_
    rw [hrun] at hfirst
    exact session_run_seq (ih hfirst) fun cs u _ hu => hu

theorem distinct_ingest (hinjective : Function.Injective env.identifier)
    (hs : s.Distinct env []) (records : List Record) :
    ((ingest records).run env s).2.Distinct env [] := by
  have hconverted := hs.run (performs_convertAll records)
  refine session_run_seq hconverted fun ds t hrun ht => ?_
  have hpending := distinct_convertAll hinjective hs hrun
  rw [List.append_nil] at hpending
  refine session_run_seq (ht.run performs_requireConnection.assignsNone) fun _ u hconnected _ => ?_
  obtain ⟨-, rfl⟩ := run_requireConnection_eq_ok.mp hconnected
  exact distinct_settleAll hpending

theorem distinct_list (hinjective : Function.Injective env.identifier) (hs : s.Distinct env []) :
    (list.run env s).2.Distinct env [] := by
  refine session_run_seq (hs.run performs_requireConnection.assignsNone) fun _ t _ ht => ?_
  refine session_run_seq (ht.run (performs_operation trivial)) fun reply u _ hu => ?_
  refine session_run_seq (hu.run (performs_ofExcept _ reply)) fun records v _ hv => ?_
  exact distinct_ingest hinjective hv records

theorem distinct_find (hinjective : Function.Injective env.identifier) (hs : s.Distinct env [])
    (id : Int) : ((find id).run env s).2.Distinct env [] := by
  refine session_run_seq (hs.run performs_requireConnection.assignsNone) fun _ t _ ht => ?_
  refine session_run_seq (ht.run (performs_operation trivial)) fun reply u _ hu => ?_
  refine session_run_seq (hu.run (performs_ofExcept _ reply)) fun found v _ hv => ?_
  split
  · exact hv
  · refine session_run_seq (distinct_ingest hinjective hv _) fun ds w _ hw => ?_
    split <;> exact hw

end Datasets

namespace Session

open Program

/-- A task may store what it draws, and nothing else. -/
theorem Distinct.task (hinjective : Function.Injective env.identifier) (hs : s.Distinct env [])
    (task : Task) : (task.program.run env s).2.Distinct env [] := by
  cases task with
  | start => exact hs.run (Lifecycle.performs_start.bind fun _ => performs_pure _)
  | stop => exact hs.run (Lifecycle.performs_stop.bind fun _ => performs_pure _)
  | database => exact hs.run (Lifecycle.performs_database.assignsNone.bind fun _ => performs_pure _)
  | listDatasets =>
    refine session_run_seq (Datasets.distinct_list hinjective hs) fun ds t _ ht => ht.run ?_
    exact (performs_forEach Datasets.performs_present ds).bind fun _ => performs_pure _
  | findDataset id =>
    refine session_run_seq (Datasets.distinct_find hinjective hs id) fun d t _ ht => ht.run ?_
    exact (Datasets.performs_present d).bind fun _ => performs_pure _
  | generate request =>
    exact hs.run ((Policies.performs_generate trivial _ _ _).bind fun _ => performs_pure _)
  | generateFor datasetId config =>
    have hgenerate : ((Policies.generateFor datasetId config).run env s).2.Distinct env [] :=
      session_run_seq (Datasets.distinct_find hinjective hs datasetId) fun d t _ ht =>
        ht.run (Policies.performs_generate trivial _ _ _)
    exact session_run_seq hgenerate fun documents t _ ht => ht.run (performs_pure _)
  | save request =>
    have hsave : ((Policies.save request).run env s).2.Distinct env [] :=
      session_run_seq (Datasets.distinct_find hinjective hs request.datasetId) fun d t _ ht =>
        ht.run (Policies.performs_saveOn d request.config)
    exact session_run_seq hsave fun id t _ ht => ht.run (performs_pure _)
  | listPolicies datasetId =>
    exact hs.run ((Policies.performs_list datasetId).assignsNone.bind fun _ => performs_pure _)
  | delete reference =>
    exact hs.run ((Policies.performs_delete reference).bind fun _ => performs_pure _)

theorem distinct_step (hinjective : Function.Injective env.identifier) {event : Event}
    (halone : event.Alone) (hs : s.Distinct env []) : (s.step env event).2.Distinct env [] := by
  have hcleared : s.cleared.Distinct env [] := ⟨hs.writers, hs.nodup, hs.undrawn⟩
  cases htask : event.task? with
  | some task =>
    rw [step_task htask]
    exact hcleared.task hinjective task
  | none =>
    rw [step_no_task htask]
    cases event with
    | expectWriter writer => exact halone.elim
    | request _ | call _ => exact hcleared
    | setClock _ | expectFault _ _ => exact ⟨hs.writers, hs.nodup, hs.undrawn⟩

theorem distinct_after (hinjective : Function.Injective env.identifier) {events : List Event}
    (halone : ∀ event ∈ events, event.Alone) (hs : s.Distinct env []) :
    (s.after env events).Distinct env [] := by
  induction events generalizing s with
  | nil => exact hs
  | cons event rest ih =>
    have hevent := distinct_step hinjective (halone event (by simp)) hs
    exact ih (fun e he => halone e (by simp [he])) hevent

end Session

/-- The record has the parts of the dataset, and its identifier unless the record has none. -/
structure Record.Describes (r : Record) (d : Dataset) : Prop where
  id : r.get "id" = .int d.id
  name : r.get? "name" = some (.str d.name)
  description : (r.get? "description").getD (.str "") = .str d.description
  uuid : r.uuid.isBlank = false → r.uuid = .str d.uuid

/-- An identifier can be stored for a record, and a dataset be read from it, under the integer that
is its id. -/
structure Record.Regular (r : Record) : Prop where
  id : ∃ id, r.get "id" = .int id
  plainUuid : r.HasPlainUuid

namespace Record.Regular

variable {arrays : Bool} {given : String → Prop} {r r' : Record}

theorem isFlat (h : r.Regular) : r.IsFlat where
  hasId arrays id := by
    obtain ⟨m, hm⟩ := h.id
    simp [Record.hasId, hm, Json.meets]
  isOpen arrays := by
    rw [← Record.isOpen_false, ← h.plainUuid.isVacant_eq, ← h.plainUuid.isVacant_eq]

theorem completed (h : r.Regular) (hr : Record.Completed arrays given r r') : r'.Regular where
  id := by
    rw [Fields.get, hr.get? (by decide)]
    exact h.id
  plainUuid := hr.hasPlainUuid h.plainUuid

theorem fillable (h : r.Regular) : r.Fillable := by
  intro hvacant
  obtain ⟨id, hid⟩ := h.id
  rw [h.plainUuid.isVacant_eq, Record.isOpen_false] at hvacant
  exact ⟨hvacant, id, by simp [hid, Json.equalsInt]⟩

theorem describes (h : r.Regular) (hr : Record.Completed arrays given r r') {d : Dataset}
    (hconverted : Datasets.Converted given r' d) : r.Describes d := by
  obtain ⟨-, hname, hdescription, -⟩ := Dataset.check_obj_eq_accepted.mp hconverted.accepted
  rw [setUuid, Fields.get?_put_of_ne r' _ (by decide), hr.get? (by decide)] at hname hdescription
  obtain ⟨id, hget⟩ := h.id
  have hid : r'.hasId arrays id = true := by
    rw [hr.hasId, h.isFlat.hasId, hget]
    simp [Json.equalsInt]
  refine ⟨by rw [hget, hconverted.id_eq hid], hname, hdescription, fun hblank => ?_⟩
  rw [← h.isFlat.isOpen arrays] at hblank
  rw [hr.eq_of_not_open hblank] at hconverted
  exact hconverted.own (h.plainUuid.isVacant_eq.trans hblank)

end Record.Regular

namespace Datasets

open Program

variable {given : String → Prop}

theorem identifiers_filled (hgiven : ¬ given "") {records : Catalog} {ds : List Dataset}
    (hds : List.Forall₂ (Converted given) records ds) :
    Catalog.identifiers (List.zipWith Record.filled records ds) =
      (ds.map (·.uuid)).map .str := by
  induction hds with
  | nil => rfl
  | cons hr _ ih =>
    have hvacant := hr.not_vacant hgiven
    have hblank : (Json.str _).isBlank = false := hvacant
    rw [List.zipWith_cons_cons, Catalog.identifiers_cons, hr.uuid_filled, hblank, ih]
    rfl

theorem describes_of_completed {records : Catalog} {c : Catalog} {ds : List Dataset}
    (hregular : ∀ r ∈ records, r.Regular) {arrays : Bool}
    (hcompleted : records.Completed arrays given c)
    (hds : List.Forall₂ (Converted given) c ds) : List.Forall₂ Record.Describes records ds := by
  induction hcompleted generalizing ds with
  | nil =>
    cases hds
    exact List.Forall₂.nil
  | cons hr _ ih =>
    cases hds with
    | cons hconverted hrest =>
      rw [List.forall_mem_cons] at hregular
      exact List.Forall₂.cons (hregular.1.describes hr hconverted) (ih hregular.2 hrest)

/-- A catalog whose blanks can all be filled in is read as datasets with distinct identifiers. -/
theorem run_list_distinct (hgiven : ¬ given "") (hdraws : ∀ n, given (env.identifier n))
    (hinjective : Function.Injective env.identifier) (hs : s.Distinct env [])
    (hfillable : ∀ r ∈ s.catalog, r.Fillable) {cs : List CatalogDataset}
    (h : list.run env s = (.ok cs, t)) :
    ∃ ds : List Dataset, cs = ds.map .ofDataset ∧ List.Forall₂ (Converted given) s.catalog ds ∧
      (ds.map (·.uuid)).Nodup := by
  have ht := distinct_list hinjective hs
  obtain ⟨-, -, ds, drawn, hds, hsettle⟩ := run_list_eq_ok hdraws h
  obtain ⟨rfl, rfl⟩ := run_settle_all (s := { s with drawn }) hgiven [] hs.writers rfl (by simp)
    hfillable hds hsettle
  refine ⟨ds, rfl, hds, ?_⟩
  rw [h] at ht
  have hnodup := ht.nodup
  simp only [Session.claimed, List.map_nil, List.nil_append, identifiers_filled hgiven hds]
    at hnodup
  exact List.Nodup.of_map Json.str hnodup

theorem run_present_all (ds : List Dataset) :
    (forEach present (ds.map .ofDataset)).run env s = (.ok (ds.map Dataset.toJson), s) := by
  apply run_forEach_of_results
  rw [List.forall₂_map_left_iff, List.forall₂_map_right_iff, List.forall₂_same]
  intro d _
  rfl

end Datasets

namespace Session

open Program

variable {given : String → Prop}

/-- From one session on, whatever is done and whatever fails, the identifiers in the catalog stay
distinct if they are distinct there and none of them is drawn later on, nor any identifier twice. If
the records moreover have integers as ids and texts as identifiers, or none, then listing the
datasets, unless it fails, shows one for each record, in order, and these have distinct identifiers
as well. -/
theorem identifiers_stay_distinct (hinjective : Function.Injective env.identifier)
    (hwriters : s.writers = []) (hnodup : s.catalog.identifiers.Nodup)
    (hundrawn : ∀ n, s.drawn < n → .str (env.identifier n) ∉ s.catalog.identifiers)
    {events : List Event} (halone : ∀ event ∈ events, event.Alone) :
    (s.after env events).catalog.identifiers.Nodup ∧
    ((∀ n, env.identifier n ≠ "") → (∀ r ∈ s.catalog, r.Regular) →
      ∀ result, (s.after env events).outcome env .listDatasets = .ok result →
        ∃ ds : List Dataset, result = .datasets (ds.map Dataset.toJson) ∧
          List.Forall₂ Record.Describes s.catalog ds ∧
          (ds.map (·.uuid)).Nodup ∧ ∀ d ∈ ds, d.uuid ≠ "") := by
  have hafter := distinct_after hinjective halone (s := s) ⟨hwriters, hnodup, hundrawn⟩
  refine ⟨hafter.nodup, fun hdraws hregular result houtcome => ?_⟩
  have hcompleted := (completed_after not_proper_empty hdraws halone s hwriters).2
  have hfillable : ∀ r ∈ (s.after env events).catalog, r.Fillable := by
    intro r' hr'
    obtain ⟨r, hr, hcompleted⟩ := exists_left_of_forall₂ hcompleted hr'
    exact ((hregular r hr).completed hcompleted).fillable
  have hrun : Task.listDatasets.program.run env (s.after env events).cleared = (.ok result, _) :=
    Prod.ext houtcome rfl
  obtain ⟨cs, t, hlist, h⟩ := run_seq_eq_ok.mp hrun
  have hcleared : (s.after env events).cleared.Distinct env [] :=
    ⟨hafter.writers, hafter.nodup, hafter.undrawn⟩
  obtain ⟨ds, rfl, hds, hdistinct⟩ :=
    Datasets.run_list_distinct not_proper_empty hdraws hinjective hcleared hfillable hlist
  rw [run_seq_of_ok (Datasets.run_present_all ds)] at h
  cases h
  refine ⟨ds, rfl, ?_, hdistinct, ?_⟩
  · exact Datasets.describes_of_completed hregular hcompleted hds
  · intro d hd
    obtain ⟨r, -, hconverted⟩ := exists_left_of_forall₂ hds hd
    simpa [Json.isVacant] using hconverted.not_vacant not_proper_empty

/-- Three records, of which two share an id and have no identifier. The database fails when the
first identifier is stored, and the catalog is listed once more. -/
theorem identifiers_stay_distinct_fault :
    let env : Environment :=
      ⟨.standard, [], fun n => String.ofList (List.replicate (n + 1) 'x'), .counting 0⟩
    let s := Session.initial [[("id", .int 1), ("name", .str "a")],
      [("id", .int 2), ("name", .str "b"), ("uuid", .str "x")],
      [("id", .int 1), ("name", .str "c"), ("uuid", .null)]] [] (some .standard) (.error {})
    let events := [Event.expectFault .update "down", .call .listDatasets]
    s.catalog.identifiers.Nodup ∧ (s.after env events).catalog.identifiers.Nodup ∧
      ∃ ds : List Dataset, (s.after env events).outcome env .listDatasets =
          .ok (.datasets (ds.map Dataset.toJson)) ∧
        List.Forall₂ Record.Describes s.catalog ds ∧ (ds.map (·.uuid)).Nodup ∧
        ∀ d ∈ ds, d.uuid ≠ "" := by
  intro env s events
  have hinjective : Function.Injective env.identifier := by
    intro m n h
    have hlength := congrArg (·.toList.length) h
    simpa [env] using hlength
  have hdraws : ∀ n, env.identifier n ≠ "" := by
    intro n h
    have hlength := congrArg (·.toList.length) h
    simp [env] at hlength
  have hundrawn : ∀ n, s.drawn < n → .str (env.identifier n) ∉ s.catalog.identifiers := by
    intro n hn hmem
    have heq : env.identifier n = env.identifier 0 := Json.str.inj (List.mem_singleton.mp hmem)
    exact absurd (hinjective heq) (Nat.ne_of_gt hn)
  have hregular : ∀ r ∈ s.catalog, r.Regular := by
    intro r hr
    simp only [s, Session.initial, List.mem_cons, List.not_mem_nil, or_false] at hr
    rcases hr with rfl | rfl | rfl
    · exact ⟨⟨1, rfl⟩, Or.inl rfl⟩
    · exact ⟨⟨2, rfl⟩, Or.inr ⟨"x", rfl⟩⟩
    · exact ⟨⟨1, rfl⟩, Or.inl rfl⟩
  have halone : ∀ event ∈ events, event.Alone := by simp [events, Event.Alone]
  have hnodup : s.catalog.identifiers.Nodup := List.nodup_singleton _
  obtain ⟨hstays, hlisted⟩ := identifiers_stay_distinct hinjective rfl hnodup hundrawn halone
  refine ⟨hnodup, hstays, ?_⟩
  have hok : ((s.after env events).outcome env .listDatasets).isOk = true := by decide +kernel
  cases houtcome : (s.after env events).outcome env .listDatasets with
  | error failure =>
    rw [houtcome] at hok
    cases hok
  | ok result =>
    obtain ⟨ds, rfl, hrest⟩ := hlisted hdraws hregular result houtcome
    exact ⟨ds, rfl, hrest⟩

end Session
end UsagePolicy
