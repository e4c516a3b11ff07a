import UsagePolicy.Proofs.Datasets.Conversion

/-!
# Ingestion among others

While records are turned into datasets, others may complete the catalog as well. An assignment of
an identifier then settles the record or finds it settled, in which case the identifier is read
back. Either way the dataset ends with the identifier that the catalog holds for its id, and since
that is not replaced any more, what was settled stays settled while the remaining records are
treated.
-/
namespace UsagePolicy

variable {arrays : Bool} {given : String → Prop} {s t : Session} {env : Environment}

namespace Session

/-- The session is one whose catalog only needs to be completed: ids are distinct, identifiers are
texts where they are given, and no writer waits to replace one. -/
structure Orderly (s : Session) : Prop where
  writers : s.writers = []
  distinctIds : s.catalog.DistinctIds
  plainUuids : s.catalog.PlainUuids

theorem Orderly.completed (h : s.Orderly) (hc : s.Completed arrays given t) : t.Orderly := by
  obtain ⟨hwriters, hcatalog⟩ := hc h.writers
  exact ⟨hwriters, hcatalog.distinctIds h.distinctIds, hcatalog.plainUuids h.plainUuids⟩

/-- The record was read from the catalog, which has been completed at most since. -/
def Shows (arrays : Bool) (given : String → Prop) (s : Session) (record : Record) : Prop :=
  ∃ id r, record.hasId arrays id = true ∧ s.catalog.findId? arrays id = some r ∧
    record.Completed arrays given r

theorem Shows.completed (hgiven : ¬ given "") {record : Record} (h : s.Shows arrays given record)
    (hs : s.writers = []) (hc : s.Completed arrays given t) : t.Shows arrays given record := by
  obtain ⟨id, r, hid, hr, hcompleted⟩ := h
  obtain ⟨r', hr', hcompleted'⟩ := (hc hs).2.findId? hr
  exact ⟨id, r', hid, hr', hcompleted.trans hgiven hcompleted'⟩

theorem Orderly.shows_of_mem (h : s.Orderly) {record : Record} (hr : record ∈ s.catalog) :
    s.Shows arrays given record := by
  obtain ⟨id, hid⟩ := h.distinctIds.get_id hr
  have hhas : record.hasId arrays id = true := by
    simp [Record.hasId, hid, Json.meets, Json.equalsInt]
  exact ⟨id, record, hhas, h.distinctIds.findId?_of_mem hr hhas, record.completed_refl⟩

end Session

/-- Others may complete the catalog, and do anything outside of it. -/
def Interference.completing (arrays : Bool) (given : String → Prop) (hgiven : ¬ given "") :
    Interference where
  moves := Session.Completed arrays given
  refl := Session.completed_refl
  trans := Session.Completed.trans hgiven

namespace Datasets

/-- The dataset has the identifier that the catalog holds for its id, in a session in which nobody
replaces it. -/
structure Settled (arrays : Bool) (s : Session) (d : CatalogDataset) : Prop where
  orderly : s.Orderly
  held : ∃ uuid, d.uuid = .str uuid ∧ s.catalog.Holds arrays d.id uuid

theorem Settled.completed {d : CatalogDataset} (h : Settled arrays s d)
    (hc : s.Completed arrays given t) :
    Settled arrays t d := by
  obtain ⟨uuid, huuid, hholds⟩ := h.held
  exact ⟨h.orderly.completed hc, uuid, huuid, hholds.completed (hc h.orderly.writers).2⟩

variable {record : Record} {d : Dataset}

theorem settled_own (hs : s.Orderly) (hshows : s.Shows env.server.arrays given record)
    (hplain : record.HasPlainUuid) (hconverted : Converted given record d)
    (hvacant : record.uuid.isVacant = false) : Settled env.server.arrays s (.ofDataset d) := by
  obtain ⟨id, r, hid, hr, hcompleted⟩ := hshows
  have hopen : record.isOpen env.server.arrays = false := by rw [← hplain.isVacant_eq, hvacant]
  have huuid := hconverted.own hvacant
  have hne : d.uuid ≠ "" := (Record.isOpen_of_str huuid).mp hopen
  rw [hcompleted.eq_of_not_open hopen] at hr
  rw [← hconverted.id_eq hid] at hr
  exact ⟨hs, d.uuid, rfl, hne, record, hr, huuid⟩

theorem settled_of_assigned (hs : s.Orderly) (hgives : given d.uuid) (hne : d.uuid ≠ "")
    (h : (Operation.assignUuid d.id d.uuid).perform env s = (.ok true, t)) :
    Settled env.server.arrays t (.ofDataset d) := by
  obtain ⟨-, -, hassigned, rfl⟩ := (Operation.assignUuid_eq_ok hs.writers).mp h
  obtain ⟨r, hr, huuid⟩ := hs.distinctIds.findId?_assign hassigned.symm
  have hcompleted : s.catalog.Completed env.server.arrays given
      (s.catalog.assign env.server.arrays d.id d.uuid).1 :=
    s.catalog.completed_assign hgives
  exact ⟨hs.completed fun h => ⟨h, hcompleted⟩, d.uuid, rfl, hne, r, hr, huuid⟩

/-- An assignment that found nothing blank has found an identifier in place. -/
theorem holds_of_not_assigned (hs : s.Orderly) (hshows : s.Shows env.server.arrays given record)
    (hconverted : Converted given record d) (hgives : given d.uuid)
    (h : (Operation.assignUuid d.id d.uuid).perform env s = (.ok false, t)) :
    ∃ uuid, t.catalog.Holds env.server.arrays d.id uuid := by
  obtain ⟨-, -, hassigned, rfl⟩ := (Operation.assignUuid_eq_ok hs.writers).mp h
  obtain ⟨id, r, hid, hr, -⟩ := hshows
  rw [← hconverted.id_eq hid] at hr
  cases hblank : r.isOpen env.server.arrays with
  | true =>
    rw [(Catalog.assign_of_findId? hr hblank d.uuid).1] at hassigned
    cases hassigned
  | false =>
    obtain ⟨uuid, huuid, hne⟩ :=
      (hs.plainUuids r (List.mem_of_find?_eq_some hr)).text_of_not_open hblank
    have hholds : s.catalog.Holds env.server.arrays d.id uuid := ⟨hne, r, hr, huuid⟩
    exact ⟨uuid, hholds.completed (s.catalog.completed_assign hgives)⟩

theorem settled_adopt (hs : s.Orderly) {uuid : String}
    (hholds : s.catalog.Holds env.server.arrays d.id uuid) :
    Settled env.server.arrays s (adopt d (s.catalog.findId? env.server.arrays d.id)) := by
  obtain ⟨hne, r, hr, huuid⟩ := hholds
  have hvacant : (Json.str uuid).isVacant = false := by simpa [Json.isVacant] using hne
  have hadopt : adopt d (s.catalog.findId? env.server.arrays d.id) =
      { CatalogDataset.ofDataset d with uuid := .str uuid } := by
    simp [adopt, hr, huuid, hvacant]
  rw [hadopt]
  exact ⟨hs, uuid, rfl, hne, r, hr, huuid⟩

theorem ensures_readBack (hgiven : ¬ given "") (hs : s.Orderly) {uuid : String}
    (hholds : s.catalog.Holds env.server.arrays d.id uuid) :
    (do return adopt d (← access (← Program.operation (.findRecord d.id)))).Ensures env
      (.completing env.server.arrays given hgiven) (fun op _ => op.Reads given)
      (Program.returning fun c t => Settled env.server.arrays t c) s := by
  refine Program.Ensures.bind_returning (Program.ensures_operation fun t hst => ⟨trivial, ?_⟩)
  intro u hmoved
  generalize hperform : (Operation.findRecord d.id).perform env t = performed at *
  obtain ⟨reply, after⟩ := performed
  apply Program.Ensures.bind_returning
  apply ensures_access
  rintro stored rfl v huv
  obtain ⟨-, -, rfl, rfl⟩ := Operation.findRecord_eq_ok.mp hperform
  have hsettled := settled_adopt (hs.completed hst) (hholds.completed (hst hs.writers).2)
  apply Program.ensures_pure
  intro w hvw
  exact ((hsettled.completed hmoved).completed huv).completed hvw

/-- Settling a record that the catalog shows returns a settled dataset, whoever else completes the
catalog in the meantime. -/
theorem ensures_settle (hgiven : ¬ given "") (hs : s.Orderly)
    (hshows : s.Shows env.server.arrays given record)
    (hplain : record.HasPlainUuid) (hconverted : Converted given record d) :
    (settle record d).Ensures env (.completing env.server.arrays given hgiven)
      (fun op _ => op.Reads given)
      (Program.returning fun c t => Settled env.server.arrays t c) s := by
  unfold settle
  split
  · next hvacant =>
    have hgives := hconverted.drawn hvacant
    have hne : d.uuid ≠ "" := fun h => hgiven (h ▸ hgives)
    refine Program.Ensures.bind_returning (Program.ensures_operation fun t hst => ⟨hgives, ?_⟩)
    intro u hmoved
    have ht := hs.completed hst
    have hassign :
        t.Completed env.server.arrays given ((Operation.assignUuid d.id d.uuid).perform env t).2 :=
      Operation.completed_assignUuid hgives
    generalize hperform : (Operation.assignUuid d.id d.uuid).perform env t = performed at *
    obtain ⟨reply, after⟩ := performed
    apply Program.Ensures.bind_returning
    apply ensures_access
    rintro assigned rfl v huv
    have hafter := ht.completed hassign
    cases assigned with
    | true =>
      have hsettled := settled_of_assigned ht hgives hne hperform
      apply Program.ensures_pure
      intro w hvw
      exact ((hsettled.completed hmoved).completed huv).completed hvw
    | false =>
      obtain ⟨uuid, hholds⟩ := holds_of_not_assigned ht
        (hshows.completed hgiven hs.writers hst) hconverted hgives hperform
      have hstays := hmoved.trans hgiven huv
      exact ensures_readBack hgiven (hafter.completed hstays)
        (hholds.completed (hstays hafter.writers).2)
  · next hvacant =>
    apply Program.ensures_pure
    intro t hst
    rw [Bool.not_eq_true] at hvacant
    exact (settled_own hs hshows hplain hconverted hvacant).completed hst

theorem performs_settle (h : record.uuid.isVacant = true → given d.uuid) :
    (settle record d).Performs env (Operation.Reads given) := by
  unfold settle
  split
  · next hvacant =>
    apply Program.Performs.bind (Program.performs_operation (h hvacant))
    intro reply
    apply Program.Performs.bind (Program.performs_ofExcept _ reply)
    intro assigned
    split
    · exact Program.performs_pure _
    · apply Program.Performs.bind (Program.performs_operation trivial)
      intro found
      exact (Program.performs_ofExcept _ found).bind fun stored => Program.performs_pure _
  · exact Program.performs_pure _

theorem performs_requireConnection :
    requireConnection.Performs env (Operation.Reads given) := by
  apply Program.Performs.bind (Program.performs_operation trivial)
  intro handle
  split
  · exact Program.performs_pure ()
  · exact Program.performs_failed _

theorem performs_ingest (hdraws : ∀ n, given (env.identifier n)) (records : List Record) :
    (ingest records).Performs env (Operation.Reads given) := by
  refine Program.performs_of_ensures fun s => Program.Ensures.bind_returning
    ((ensures_convertAll trivial (fun _ _ _ => trivial) hdraws records).weaken ?_)
  rintro result t hds ds rfl
  have hds := hds ds rfl
  refine Program.Ensures.bind_returning
    (ensures_requireConnection (fun _ => trivial) fun u _ => ?_)
  refine (Program.Ensures.forEach (R := fun _ _ _ => True) (fun _ _ _ _ _ _ => trivial)
    (fun _ _ _ => trivial) ?_).weaken fun _ _ _ _ _ => trivial
  rintro ⟨record, d⟩ hmem v -
  exact (performs_settle ((List.forall₂_iff_zip.mp hds).2 hmem).drawn).ensures .any v

theorem performs_list (hdraws : ∀ n, given (env.identifier n)) :
    list.Performs env (Operation.Reads given) := by
  apply Program.Performs.bind performs_requireConnection
  intro _
  apply Program.Performs.bind (Program.performs_operation trivial)
  intro reply
  exact (Program.performs_ofExcept _ reply).bind fun records => performs_ingest hdraws records

theorem performs_find (hdraws : ∀ n, given (env.identifier n)) (id : Int) :
    (find id).Performs env (Operation.Reads given) := by
  apply Program.Performs.bind performs_requireConnection
  intro _
  apply Program.Performs.bind (Program.performs_operation trivial)
  intro reply
  apply Program.Performs.bind (Program.performs_ofExcept _ reply)
  intro found
  split
  · exact Program.performs_failed _
  · apply Program.Performs.bind (performs_ingest hdraws _)
    intro ds
    split
    · exact Program.performs_pure _
    · exact Program.performs_failed _

theorem ensures_ingest (hgiven : ¬ given "") (hdraws : ∀ n, given (env.identifier n))
    (hs : s.Orderly) {records : List Record}
    (hshows : ∀ record ∈ records, s.Shows env.server.arrays given record)
    (hplain : ∀ record ∈ records, record.HasPlainUuid) :
    (ingest records).Ensures env (.completing env.server.arrays given hgiven)
      (fun op _ => op.Reads given)
      (Program.returning fun ds t => ∀ d ∈ ds, Settled env.server.arrays t d) s := by
  have hmoves : ∀ op t, Operation.Reads given op →
      (Interference.completing env.server.arrays given hgiven).moves t (op.perform env t).2 :=
    fun op t hop => Operation.completed_perform hop.completes env t
  have hconvert := ensures_convertAll (s := s) trivial hmoves hdraws records
  refine Program.Ensures.bind_returning ((hconvert.reached hmoves).weaken ?_)
  rintro result t ⟨hds, hst⟩ ds rfl
  have hds := hds ds rfl
  refine Program.Ensures.bind_returning
    (ensures_requireConnection (fun _ => trivial) fun u htu => ?_)
  have hsu := hst.trans hgiven htu
  have hsettle : ∀ pair ∈ records.zip ds, ∀ v, u.Completed env.server.arrays given v →
      (settle pair.1 pair.2).Ensures env (.completing env.server.arrays given hgiven)
        (fun op _ => op.Reads given)
        (Program.returning fun c w => Settled env.server.arrays w c) v := by
    rintro ⟨record, d⟩ hmem v huv
    have hrecord := (List.of_mem_zip hmem).1
    have hsv := hsu.trans hgiven huv
    exact ensures_settle hgiven (hs.completed hsv)
      ((hshows record hrecord).completed hgiven hs.writers hsv) (hplain record hrecord)
      ((List.forall₂_iff_zip.mp hds).2 hmem)
  refine (Program.Ensures.forEach (R := fun _ c w => Settled env.server.arrays w c)
    (fun _ _ _ _ h hm => h.completed hm) hmoves hsettle).weaken ?_
  intro result v hforall cs hcs c hc
  obtain ⟨_, -, hsettled⟩ := exists_left_of_forall₂ (hforall cs hcs) hc
  exact hsettled

theorem ensures_list (hgiven : ¬ given "") (hdraws : ∀ n, given (env.identifier n))
    (hs : s.Orderly) :
    list.Ensures env (.completing env.server.arrays given hgiven) (fun op _ => op.Reads given)
      (Program.returning fun ds t => ∀ d ∈ ds, Settled env.server.arrays t d) s := by
  refine Program.Ensures.bind_returning
    (ensures_requireConnection (fun _ => trivial) fun t hst => ?_)
  refine Program.Ensures.bind_returning (Program.ensures_operation fun u htu => ⟨trivial, ?_⟩)
  intro v hmoved
  generalize hperform : Operation.listRecords.perform env u = performed at *
  obtain ⟨reply, after⟩ := performed
  apply Program.Ensures.bind_returning
  apply ensures_access
  rintro records rfl w hvw
  obtain ⟨-, rfl, rfl⟩ := Operation.listRecords_eq_ok.mp hperform
  have hu := (hs.completed hst).completed htu
  have hlater := hmoved.trans hgiven hvw
  refine ensures_ingest hgiven hdraws (hu.completed hlater) ?_ hu.plainUuids
  intro record hrecord
  exact (hu.shows_of_mem hrecord).completed hgiven hu.writers hlater

theorem ensures_find (hgiven : ¬ given "") (hdraws : ∀ n, given (env.identifier n))
    (hs : s.Orderly) (id : Int) :
    (find id).Ensures env (.completing env.server.arrays given hgiven) (fun op _ => op.Reads given)
      (Program.returning fun d t => Settled env.server.arrays t d) s := by
  refine Program.Ensures.bind_returning
    (ensures_requireConnection (fun _ => trivial) fun t hst => ?_)
  refine Program.Ensures.bind_returning (Program.ensures_operation fun u htu => ⟨trivial, ?_⟩)
  intro v hmoved
  generalize hperform : (Operation.findRecord id).perform env u = performed at *
  obtain ⟨reply, after⟩ := performed
  apply Program.Ensures.bind_returning
  apply ensures_access
  rintro found rfl w hvw
  obtain ⟨-, -, rfl, rfl⟩ := Operation.findRecord_eq_ok.mp hperform
  have hu := (hs.completed hst).completed htu
  have hlater := hmoved.trans hgiven hvw
  split
  · exact Program.ensures_failed
  · next record hrecord =>
    have hmem := List.mem_of_find?_eq_some hrecord
    have hshows := (hu.shows_of_mem hmem).completed hgiven hu.writers hlater
    have hingest := ensures_ingest hgiven hdraws (hu.completed hlater)
      (List.forall_mem_singleton.mpr hshows)
      (List.forall_mem_singleton.mpr (hu.plainUuids record hmem))
    refine Program.Ensures.bind_returning ((hingest.reached ?_).weaken ?_)
    · intro op t hop
      exact Operation.completed_perform hop.completes env t
    · rintro result x ⟨hsettled, hx⟩ ds rfl
      split
      · next d rest =>
        apply Program.ensures_pure
        intro y hxy
        exact (hsettled (d :: rest) rfl d (by simp)).completed hxy
      · exact Program.ensures_failed

end Datasets
end UsagePolicy
