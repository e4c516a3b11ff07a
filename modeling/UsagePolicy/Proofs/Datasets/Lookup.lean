import UsagePolicy.Proofs.Datasets.Ingestion
import UsagePolicy.Proofs.Program.Runs

/-!
# Looking a dataset up

Where nobody else writes, the dataset that is found is the one that the catalog describes
afterwards: a record that had no identifier has been given the one that the dataset has.
-/
namespace UsagePolicy

def Catalog.dataset? (arrays : Bool) (c : Catalog) (id : Int) : Option Dataset :=
  (c.findId? arrays id).bind fun r => (Dataset.check .values (.obj r)).value?

theorem Catalog.dataset?_eq_some {arrays : Bool} {c : Catalog} {id : Int} {d : Dataset} :
    c.dataset? arrays id = some d ↔
      ∃ r, c.findId? arrays id = some r ∧ Dataset.check .values (.obj r) = .accepted d := by
  simp [Catalog.dataset?, Option.bind_eq_some_iff]

theorem Dataset.check_of_setUuid {r : Record} {d : Dataset} (huuid : r.uuid = .str d.uuid)
    (h : Dataset.check .values (.obj (r.setUuid (.str d.uuid))) = .accepted d) :
    Dataset.check .values (.obj r) = .accepted d := by
  have hget : r.get? "uuid" = some (.str d.uuid) := by
    cases hv : r.get? "uuid" with
    | none => simp [Record.uuid, Fields.get, hv] at huuid
    | some v => simpa [Record.uuid, Fields.get, hv] using huuid
  rw [Dataset.check_obj_eq_accepted] at h ⊢
  simpa [Record.setUuid, Fields.get?_put_of_ne, Fields.get?_put_self, hget] using h

/-- The record describes a dataset with the id, once it has been given an identifier. -/
structure Record.WellFormed (r : Record) (n : Int) : Prop where
  id : Schema.integer (r.get "id") = .accepted n
  name : ∃ name, r.get? "name" = some (.str name)
  description : ∃ text, (r.get? "description").getD (.str "") = .str text
  plainUuid : r.HasPlainUuid

/-- The id that a record has is accepted unless it is -2^63, which only as an integer is. -/
theorem Record.wellFormed_of_equalsInt {r : Record} {n : Int}
    (hid : (r.get "id").equalsInt n = true)
    (hlow : -0x8000000000000000 < n) (hwide : tooWide n = false)
    (hname : ∃ name, r.get? "name" = some (.str name))
    (hdescription : ∃ text, (r.get? "description").getD (.str "") = .str text)
    (hplain : r.HasPlainUuid) : r.WellFormed n where
  id := by
    refine Schema.integer_eq_accepted_of_equalsInt hid hlow ?_
    simp only [tooWide, Bool.or_eq_false_iff, decide_eq_false_iff_not] at hwide
    omega
  name := hname
  description := hdescription
  plainUuid := hplain

/-- The record describes a dataset with the id, its identifier aside. -/
structure Record.HasParts (r : Record) (n : Int) : Prop where
  id : Schema.integer (r.get "id") = .accepted n
  name : ∃ name, r.get? "name" = some (.str name)
  description : ∃ text, (r.get? "description").getD (.str "") = .str text

/-- The record is converted to a dataset with the id: of an identifier it has a text, or nothing. -/
structure Record.Convertible (r : Record) (n : Int) : Prop extends r.HasParts n where
  uuid : r.uuid.isVacant = true ∨ ∃ text, r.uuid = .str text

section Completed

variable {arrays : Bool} {given : String → Prop} {r r' : Record} {n : Int}

theorem Record.HasParts.completed (h : r.HasParts n) (hr : Record.Completed arrays given r r') :
    r'.HasParts n where
  id := by
    rw [Fields.get, hr.get? (by decide)]
    exact h.id
  name := by
    rw [hr.get? (by decide)]
    exact h.name
  description := by
    rw [hr.get? (by decide)]
    exact h.description

theorem Record.WellFormed.hasParts (h : r.WellFormed n) : r.HasParts n :=
  ⟨h.id, h.name, h.description⟩

theorem Record.WellFormed.completed (h : r.WellFormed n) (hr : Record.Completed arrays given r r') :
    r'.WellFormed n := by
  obtain ⟨hid, hname, hdescription⟩ := h.hasParts.completed hr
  exact ⟨hid, hname, hdescription, hr.hasPlainUuid h.plainUuid⟩

theorem Record.WellFormed.convertible (h : r.WellFormed n) : r.Convertible n where
  toHasParts := h.hasParts
  uuid := by
    cases hvacant : r.uuid.isVacant with
    | true => exact Or.inl rfl
    | false =>
      have hopen : r.isOpen false = false := by rw [← h.plainUuid.isVacant_eq, hvacant]
      obtain ⟨text, htext, -⟩ := h.plainUuid.text_of_not_open hopen
      exact Or.inr ⟨text, htext⟩

theorem Record.Convertible.completed (h : r.Convertible n)
    (hr : Record.Completed arrays given r r') :
    r'.Convertible n where
  toHasParts := h.toHasParts.completed hr
  uuid := by
    rcases hr with rfl | ⟨-, uuid, -, rfl⟩
    · exact h.uuid
    · exact Or.inr ⟨uuid, uuid_setUuid r (.str uuid)⟩

end Completed

theorem Catalog.Completed.dataset? {arrays : Bool} {given : String → Prop} {c c' : Catalog}
    (h : Catalog.Completed arrays given c c') {id : Int} {d : Dataset}
    (hd : c.dataset? arrays id = some d)
    (hne : d.uuid ≠ "") : c'.dataset? arrays id = some d := by
  obtain ⟨r, hr, haccepted⟩ := Catalog.dataset?_eq_some.mp hd
  obtain ⟨r', hr', hcompleted⟩ := h.findId? hr
  have huuid : r.uuid = .str d.uuid := by
    obtain ⟨-, -, -, hget⟩ := Dataset.check_obj_eq_accepted.mp haccepted
    simp [Record.uuid, Fields.get, hget]
  have hsame := hcompleted.eq_of_not_open ((Record.isOpen_of_str huuid).mpr hne)
  exact Catalog.dataset?_eq_some.mpr ⟨r', hr', hsame ▸ haccepted⟩

namespace Datasets

variable {given : String → Prop} {env : Environment} {s t : Session} {record : Record}
  {d : Dataset}

theorem run_requireConnection (s : Session) :
    requireConnection.run env s =
      (if s.handle.isSome = true then .ok () else .error .notConnected, s) := by
  change (match s.handle with
    | some _ => pure ()
    | none => Program.failed .notConnected : Program Unit).run env s = _
  cases s.handle <;> rfl

theorem run_requireConnection_eq_ok {u : Unit} :
    requireConnection.run env s = (.ok u, t) ↔ s.handle.isSome = true ∧ s = t := by
  rw [run_requireConnection]
  split <;> simp [*]

theorem run_access_eq_ok {α β : Type} {p : Program (Except DatabaseError α)} {f : α → Program β}
    {b : β} :
    (p >>= fun reply => access reply >>= f).run env s = (.ok b, t) ↔
      ∃ a u, p.run env s = (.ok (.ok a), u) ∧ (f a).run env u = (.ok b, t) := by
  constructor
  · intro h
    obtain ⟨reply, u, hp, h⟩ := Program.run_seq_eq_ok.mp h
    obtain ⟨a, v, haccess, h⟩ := Program.run_seq_eq_ok.mp h
    obtain ⟨rfl, rfl⟩ := Program.run_ofExcept_eq_ok.mp haccess
    exact ⟨a, u, hp, h⟩
  · rintro ⟨a, u, hp, h⟩
    rw [Program.run_seq_of_ok hp]
    exact h

theorem run_of_draws {α : Type} {p : Program α}
    (h : p.Performs env fun op => op = .drawIdentifier) (s : Session) :
    ∃ drawn, (p.run env s).2 = { s with drawn } := by
  refine h.run_related (R := fun s t => ∃ drawn, t = { s with drawn }) ?_ ?_ ?_ s
  · intro s
    exact ⟨s.drawn, rfl⟩
  · rintro s _ _ ⟨_, rfl⟩ ⟨drawn, rfl⟩
    exact ⟨drawn, rfl⟩
  · rintro _ t rfl
    exact ⟨t.drawn + 1, rfl⟩

theorem performs_convert (record : Record) :
    (convert record).Performs env fun op => op = .drawIdentifier := by
  intro s
  have hensures : (convert record).Ensures env .any (fun op _ => op = .drawIdentifier)
      (Program.returning fun d _ => Converted (fun _ => True) record d) s :=
    ensures_convert (fun _ => rfl) fun _ => trivial
  exact hensures.weaken fun _ _ _ => trivial

theorem run_convert (hdraws : ∀ n, given (env.identifier n))
    (h : (convert record).run env s = (.ok d, t)) :
    Converted given record d ∧ ∃ drawn, t = { s with drawn } := by
  have hensures : (convert record).Ensures env .any (fun op _ => op = .drawIdentifier)
      (Program.returning fun d _ => Converted given record d) s :=
    ensures_convert (fun _ => rfl) hdraws
  have hconverted := hensures.run
  have hdrawn := run_of_draws (@performs_convert env record) s
  rw [h] at hconverted hdrawn
  exact ⟨hconverted d rfl, hdrawn⟩

theorem run_settle_eq_ok {c : CatalogDataset} (h : (settle record d).run env s = (.ok c, t)) :
    (record.uuid.isVacant = false ∧ c = .ofDataset d ∧ t = s) ∨
    (record.uuid.isVacant = true ∧ c = .ofDataset d ∧
      (Operation.assignUuid d.id d.uuid).perform env s = (.ok true, t)) ∨
    record.uuid.isVacant = true ∧ ∃ u stored, c = adopt d stored ∧
      (Operation.assignUuid d.id d.uuid).perform env s = (.ok false, u) ∧
      (Operation.findRecord d.id).perform env u = (.ok stored, t) := by
  unfold settle at h
  split at h
  · next hvacant =>
    obtain ⟨assigned, u, hassign, h⟩ := run_access_eq_ok.mp h
    cases assigned with
    | true =>
      cases h
      exact Or.inr (Or.inl ⟨hvacant, rfl, Program.run_operation_eq_ok.mp hassign⟩)
    | false =>
      obtain ⟨stored, v, hfind, h⟩ := run_access_eq_ok.mp h
      cases h
      exact Or.inr (Or.inr ⟨hvacant, u, stored, rfl, Program.run_operation_eq_ok.mp hassign,
        Program.run_operation_eq_ok.mp hfind⟩)
  · next hvacant =>
    cases h
    rw [Bool.not_eq_true] at hvacant
    exact Or.inl ⟨hvacant, rfl, rfl⟩

/-- Where nobody else writes, a record without an identifier is settled with what the catalog holds:
its own identifier is assigned, or no record with the id is blank. -/
theorem run_settle_cases (hs : s.writers = []) {c : CatalogDataset}
    (h : (settle record d).run env s = (.ok c, t)) :
    (record.uuid.isVacant = false ∧ c = .ofDataset d ∧ t = s) ∨
    (record.uuid.isVacant = true ∧ (s.catalog.assign env.server.arrays d.id d.uuid).2 = true ∧
      c = .ofDataset d ∧
      t = { s with catalog := (s.catalog.assign env.server.arrays d.id d.uuid).1 }) ∨
    record.uuid.isVacant = true ∧ (s.catalog.assign env.server.arrays d.id d.uuid).2 = false ∧
      c = adopt d (s.catalog.findId? env.server.arrays d.id) ∧ t = s := by
  rcases run_settle_eq_ok h with
    hown | ⟨hvacant, rfl, hassign⟩ | ⟨hvacant, u, stored, rfl, hassign, hfind⟩
  · exact Or.inl hown
  · obtain ⟨-, -, hassigned, rfl⟩ := (Operation.assignUuid_eq_ok hs).mp hassign
    exact Or.inr (Or.inl ⟨hvacant, hassigned.symm, rfl, rfl⟩)
  · obtain ⟨-, -, hassigned, rfl⟩ := (Operation.assignUuid_eq_ok hs).mp hassign
    obtain ⟨-, -, rfl, rfl⟩ := Operation.findRecord_eq_ok.mp hfind
    have hsame : s.catalog.assign env.server.arrays d.id d.uuid = (s.catalog, false) := by
      rcases s.catalog.assign_cases env.server.arrays d.id d.uuid with
        ⟨-, heq⟩ | ⟨_, _, _, -, -, -, -, heq⟩
      · exact heq
      · rw [heq] at hassigned
        cases hassigned
    rw [hsame]
    exact Or.inr (Or.inr ⟨hvacant, rfl, rfl, rfl⟩)

theorem run_settle (hgiven : ¬ given "") (hs : s.writers = []) (hplain : record.HasPlainUuid)
    {id : Int} (hr : s.catalog.findId? env.server.arrays id = some record)
    (hconverted : Converted given record d)
    {c : CatalogDataset} (h : (settle record d).run env s = (.ok c, t)) :
    c = .ofDataset d ∧ d.uuid ≠ "" ∧ t.catalog.dataset? env.server.arrays id = some d := by
  have hid := hconverted.id_eq (Catalog.findId?_hasId hr)
  have hassign : record.uuid.isVacant = true →
      (s.catalog.assign env.server.arrays d.id d.uuid).2 = true ∧
      (s.catalog.assign env.server.arrays d.id d.uuid).1.findId? env.server.arrays d.id =
        some (record.setUuid (.str d.uuid)) :=
    fun hvacant => Catalog.assign_of_findId? (hid ▸ hr) (hplain.isVacant_eq ▸ hvacant) d.uuid
  rcases run_settle_cases hs h with
    ⟨hvacant, rfl, rfl⟩ | ⟨hvacant, -, rfl, rfl⟩ | ⟨hvacant, hnone, -, -⟩
  · have huuid := hconverted.own hvacant
    have hopen : record.isOpen env.server.arrays = false := by rw [← hplain.isVacant_eq, hvacant]
    refine ⟨rfl, (Record.isOpen_of_str huuid).mp hopen, Catalog.dataset?_eq_some.mpr ?_⟩
    exact ⟨record, hr, Dataset.check_of_setUuid huuid hconverted.accepted⟩
  · have hne : d.uuid ≠ "" := fun h => hgiven (h ▸ hconverted.drawn hvacant)
    refine ⟨rfl, hne, Catalog.dataset?_eq_some.mpr ⟨_, ?_, hconverted.accepted⟩⟩
    rw [← hid]
    exact (hassign hvacant).2
  · rw [(hassign hvacant).1] at hnone
    cases hnone

theorem run_ingest_singleton {ds : List CatalogDataset}
    (h : (ingest [record]).run env s = (.ok ds, t)) :
    ∃ d u c, (convert record).run env s = (.ok d, u) ∧
      (settle record d).run env u = (.ok c, t) ∧ ds = [c] := by
  obtain ⟨datasets, u, hconvert, h⟩ := Program.run_seq_eq_ok.mp h
  obtain ⟨_, v, hconnected, h⟩ := Program.run_seq_eq_ok.mp h
  obtain ⟨-, rfl⟩ := run_requireConnection_eq_ok.mp hconnected
  obtain ⟨d, w, hconvert, hpure⟩ := Program.run_seq_eq_ok.mp hconvert
  cases hpure
  obtain ⟨c, x, hsettle, hpure⟩ := Program.run_seq_eq_ok.mp h
  cases hpure
  exact ⟨d, _, c, hconvert, hsettle, rfl⟩

theorem run_find_eq_ok (hdraws : ∀ n, given (env.identifier n)) (hs : s.writers = []) {id : Int}
    {c : CatalogDataset} (h : (find id).run env s = (.ok c, t)) :
    ∃ record d drawn, s.catalog.findId? env.server.arrays id = some record ∧
      Converted given record d ∧
      d.id = id ∧ c = .ofDataset d ∧ (settle record d).run env { s with drawn } = (.ok c, t) := by
  obtain ⟨_, _, hconnected, h⟩ := Program.run_seq_eq_ok.mp h
  obtain ⟨-, rfl⟩ := run_requireConnection_eq_ok.mp hconnected
  obtain ⟨found, u, hoperation, h⟩ := run_access_eq_ok.mp h
  obtain ⟨-, -, rfl, rfl⟩ :=
    Operation.findRecord_eq_ok.mp (Program.run_operation_eq_ok.mp hoperation)
  split at h
  · cases h
  · next record hrecord =>
    obtain ⟨ds, w, hingest, h⟩ := Program.run_seq_eq_ok.mp h
    obtain ⟨d, x, c', hconvert, hsettle, rfl⟩ := run_ingest_singleton hingest
    cases h
    obtain ⟨hconverted, drawn, rfl⟩ := run_convert hdraws hconvert
    have hid := hconverted.id_eq (Catalog.findId?_hasId hrecord)
    refine ⟨record, d, drawn, hrecord, hconverted, hid, ?_, hsettle⟩
    rcases run_settle_cases (s := { u with drawn }) hs hsettle with
      ⟨-, rfl, -⟩ | ⟨-, -, rfl, -⟩ | ⟨hvacant, -, rfl, -⟩
    · rfl
    · rfl
    · -- The record that is looked up again is the same one, which has no identifier to adopt.
      change adopt d (u.catalog.findId? env.server.arrays d.id) = _
      rw [hid, hrecord]
      simp [adopt, hvacant]

/-- The dataset found under an id is the one that the catalog describes once it has been found. -/
theorem run_find (hgiven : ¬ given "") (hdraws : ∀ n, given (env.identifier n))
    (hs : s.writers = []) {id : Int}
    (hplain : ∀ record, s.catalog.findId? env.server.arrays id = some record → record.HasPlainUuid)
    {c : CatalogDataset} (h : (find id).run env s = (.ok c, t)) :
    ∃ d, c = .ofDataset d ∧ d.id = id ∧ d.uuid ≠ "" ∧
      t.catalog.dataset? env.server.arrays id = some d := by
  obtain ⟨record, d, drawn, hrecord, hconverted, hid, rfl, hsettle⟩ := run_find_eq_ok hdraws hs h
  obtain ⟨-, hne, hdataset⟩ := run_settle (s := { s with drawn }) hgiven hs
    (hplain record hrecord) hrecord hconverted hsettle
  exact ⟨d, rfl, hid, hne, hdataset⟩

/-- A record that was converted once can be converted again. -/
theorem Converted.convertible (h : Converted given record d) : record.Convertible d.id := by
  obtain ⟨⟨id, hid, hinteger⟩, hname, hdescription, -⟩ :=
    Dataset.check_obj_eq_accepted.mp h.accepted
  rw [Record.setUuid, Fields.get?_put_of_ne record _ (by decide)] at hid hname hdescription
  refine ⟨⟨by simpa [Fields.get, hid] using hinteger, ⟨_, hname⟩, ⟨_, hdescription⟩⟩, ?_⟩
  cases hvacant : record.uuid.isVacant with
  | true => exact Or.inl rfl
  | false => exact Or.inr ⟨d.uuid, h.own hvacant⟩

theorem run_convert_of_convertible {n : Int} (h : record.Convertible n) (env : Environment)
    (s : Session) : ∃ d t, (convert record).run env s = (.ok d, t) := by
  obtain ⟨name, hname⟩ := h.name
  obtain ⟨description, hdescription⟩ := h.description
  obtain ⟨id, hid⟩ : ∃ id, record.get? "id" = some id := by
    cases hget : record.get? "id" with
    | none =>
      have hinteger := h.id
      rw [Fields.get, hget] at hinteger
      cases hinteger
    | some id => exact ⟨id, rfl⟩
  have hinteger : Schema.integer id = .accepted n := by simpa [Fields.get, hid] using h.id
  obtain ⟨uuid, t, hidentifier⟩ :
      ∃ uuid t, (identifierFor record).run env s = (.ok (.str uuid), t) := by
    unfold identifierFor
    cases hvacant : record.uuid.isVacant with
    | true => exact ⟨_, _, rfl⟩
    | false =>
      rcases h.uuid with htrue | ⟨uuid, huuid⟩
      · rw [hvacant] at htrue
        cases htrue
      · exact ⟨uuid, s, by rw [huuid]; rfl⟩
  have hchecked : Dataset.check .values (.obj [("id", id), ("name", .str name),
      ("description", .str description), ("uuid", .str uuid)]) =
        .accepted ⟨n, name, description, uuid⟩ :=
    Dataset.check_obj_eq_accepted.mpr ⟨⟨id, rfl, hinteger⟩, rfl, rfl, rfl⟩
  have hfieldId : (fieldOf record "id").run env s = (.ok id, s) := by simp [fieldOf, hid]
  have hfieldName : (fieldOf record "name").run env s = (.ok (.str name), s) := by
    simp [fieldOf, hname]
  refine ⟨⟨n, name, description, uuid⟩, t, ?_⟩
  rw [convert, Program.run_seq_of_ok hfieldId, Program.run_seq_of_ok hfieldName,
    Program.run_seq_of_ok hidentifier, hdescription, hchecked]
  rfl

theorem run_settle_of_no_faults (hs : s.writers = []) (hfaults : s.faults = [])
    (hwide : tooWide d.id = false) (record : Record) (env : Environment) :
    ∃ c t, (settle record d).run env s = (.ok c, t) := by
  unfold settle
  split
  · have hassign : (Operation.assignUuid d.id d.uuid).perform env s =
        (.ok (s.catalog.assign env.server.arrays d.id d.uuid).2,
          { s with catalog := (s.catalog.assign env.server.arrays d.id d.uuid).1 }) :=
      (Operation.assignUuid_eq_ok hs).mpr ⟨hwide, by rw [hfaults]; rfl, rfl, rfl⟩
    cases hassigned : (s.catalog.assign env.server.arrays d.id d.uuid).2 with
    | true =>
      rw [hassigned] at hassign
      exact ⟨_, _, run_access_eq_ok.mpr ⟨_, _, Program.run_operation_eq_ok.mpr hassign, rfl⟩⟩
    | false =>
      have hfind : ∀ t : Session, t.faults = [] →
          (Operation.findRecord d.id).perform env t =
            (.ok (t.catalog.findId? env.server.arrays d.id), t) :=
        fun t ht => Operation.findRecord_eq_ok.mpr ⟨hwide, by rw [ht]; rfl, rfl, rfl⟩
      rw [hassigned] at hassign
      exact ⟨_, _, run_access_eq_ok.mpr ⟨_, _, Program.run_operation_eq_ok.mpr hassign,
        run_access_eq_ok.mpr ⟨_, _, Program.run_operation_eq_ok.mpr (hfind _ hfaults), rfl⟩⟩⟩
  · exact ⟨_, _, rfl⟩

theorem run_ingest_of_ok {records : List Record} {ds : List Dataset} {cs : List CatalogDataset}
    {u : Session} (hconvert : (convertAll records).run env s = (.ok ds, u))
    (hconnected : u.handle.isSome = true)
    (hsettle : (Program.forEach (fun (record, d) => settle record d) (records.zip ds)).run env u =
      (.ok cs, t)) : (ingest records).run env s = (.ok cs, t) := by
  have hconnection : requireConnection.run env u = (.ok (), u) :=
    run_requireConnection_eq_ok.mpr ⟨hconnected, rfl⟩
  rw [ingest, Program.run_seq_of_ok hconvert, Program.run_seq_of_ok hconnection]
  exact hsettle

theorem run_find_of_convertible (hs : s.writers = []) (hfaults : s.faults = [])
    (hconnected : s.handle.isSome = true) {n : Int} (hwide : tooWide n = false)
    (hr : s.catalog.findId? env.server.arrays n = some record) (h : record.Convertible n) :
    ∃ c t, (find n).run env s = (.ok c, t) := by
  have hconnection : requireConnection.run env s = (.ok (), s) :=
    run_requireConnection_eq_ok.mpr ⟨hconnected, rfl⟩
  have hoperation : (Program.operation (.findRecord n)).run env s = (.ok (.ok (some record)), s) :=
    Program.run_operation_eq_ok.mpr
      (Operation.findRecord_eq_ok.mpr ⟨hwide, by rw [hfaults]; rfl, hr.symm, rfl⟩)
  obtain ⟨d, t, hconvert⟩ := run_convert_of_convertible h env s
  obtain ⟨hconverted, drawn, rfl⟩ :
      Converted (fun _ => True) record d ∧ ∃ drawn, t = { s with drawn } :=
    run_convert (fun _ => trivial) hconvert
  have hid := hconverted.id_eq (Catalog.findId?_hasId hr)
  obtain ⟨c, u, hsettle⟩ := run_settle_of_no_faults (s := { s with drawn }) (d := d) hs hfaults
    (hid ▸ hwide) record env
  have hall : (convertAll [record]).run env s = (.ok [d], { s with drawn }) := by
    simp [convertAll, Program.forEach, Program.run_bind, hconvert]
  have hingest : (ingest [record]).run env s = (.ok [c], u) :=
    run_ingest_of_ok hall hconnected (by simp [Program.forEach, Program.run_bind, hsettle])
  refine ⟨c, u, ?_⟩
  rw [find, Program.run_seq_of_ok hconnection, Program.run_seq_of_ok hoperation]
  change (ingest [record] >>= _).run env s = _
  rw [Program.run_seq_of_ok hingest]
  rfl

end Datasets
end UsagePolicy
