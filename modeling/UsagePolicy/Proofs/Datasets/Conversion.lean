import UsagePolicy.Proofs.Schema.Acceptance
import UsagePolicy.Proofs.Store.Operations
import UsagePolicy.Service.Datasets

/-!
# From records to datasets

A record is converted to the dataset that its fields describe. Its identifier is the record's own
or, where the record has none, one that was drawn for it. Conversion does nothing but draw
identifiers, so it ensures this among any others.
-/
namespace UsagePolicy
namespace Datasets

/-- The dataset is the one that the record describes, once a record without an identifier has been
given one. -/
structure Converted (given : String → Prop) (record : Record) (d : Dataset) : Prop where
  accepted : Dataset.check .values (.obj (record.setUuid (.str d.uuid))) = .accepted d
  own : record.uuid.isVacant = false → record.uuid = .str d.uuid
  drawn : record.uuid.isVacant = true → given d.uuid

variable {given : String → Prop} {record : Record} {d : Dataset}

theorem Converted.id_eq (h : Converted given record d) {arrays : Bool} {id : Int}
    (hid : record.hasId arrays id = true) : d.id = id := by
  obtain ⟨⟨v, hv, haccepted⟩, -⟩ := Dataset.check_obj_eq_accepted.mp h.accepted
  rw [Record.setUuid, Fields.get?_put_of_ne record _ (by decide)] at hv
  rw [Record.hasId, Fields.get, hv, Option.getD_some] at hid
  rw [Schema.meets_of_integer haccepted] at hid
  exact Schema.integer_of_equalsInt haccepted hid

/-- A record that is converted has no array for its id, and none with items for its identifier. -/
theorem Converted.isFlat (h : Converted given record d) : record.IsFlat where
  hasId arrays id := by
    obtain ⟨⟨v, hv, haccepted⟩, -⟩ := Dataset.check_obj_eq_accepted.mp h.accepted
    rw [Record.setUuid, Fields.get?_put_of_ne record _ (by decide)] at hv
    rw [Record.hasId, Fields.get, hv, Option.getD_some, Schema.meets_of_integer haccepted]
  isOpen arrays := by
    cases hvacant : record.uuid.isVacant with
    | false =>
      rw [Record.isOpen, h.own hvacant]
      simp [Json.meets]
    | true =>
      rw [Record.isOpen]
      revert hvacant
      cases record.uuid with
      | arr items =>
        intro hvacant
        simp [List.isEmpty_iff.mp hvacant, Json.meets, Json.isBlank]
      | null | bool b | int n | float x | str s | obj fields => simp [Json.meets]

theorem accepted_of_parts {id name uuid : Json} (hid : record.get? "id" = some id)
    (hname : record.get? "name" = some name)
    (h : Dataset.check .values (.obj [("id", id), ("name", name),
      ("description", (record.get? "description").getD (.str "")), ("uuid", uuid)]) =
        .accepted d) :
    uuid = .str d.uuid ∧
      Dataset.check .values (.obj (record.setUuid (.str d.uuid))) = .accepted d := by
  rw [Dataset.check_obj_eq_accepted] at h
  obtain ⟨⟨v, hv, haccepted⟩, hn, hdescription, huuid⟩ := h
  simp only [Fields.get?, List.lookup_cons, beq_self_eq_true, Option.some.injEq] at hv hn
  have hu : uuid = .str d.uuid := by simpa [Fields.get?, List.lookup_cons] using huuid
  refine ⟨hu, Dataset.check_obj_eq_accepted.mpr ⟨⟨v, ?_, haccepted⟩, ?_, ?_, ?_⟩⟩
  · rw [Record.setUuid, Fields.get?_put_of_ne record _ (by decide), hid, hv]
  · rw [Record.setUuid, Fields.get?_put_of_ne record _ (by decide), hname]
    simpa using hn
  · rw [Record.setUuid, Fields.get?_put_of_ne record _ (by decide)]
    simpa [Fields.get?, List.lookup_cons] using hdescription
  · rw [Record.setUuid, Fields.get?_put_self]

section Ensures

variable {env : Environment} {others : Interference} {allowed : Operation → Session → Prop}
  {s : Session}

theorem ensures_access {α : Type} {post : α → Session → Prop} {reply : Except DatabaseError α}
    (h : ∀ a, reply = .ok a → ∀ t, others.moves s t → post a t) :
    (access reply).Ensures env others allowed (Program.returning post) s :=
  Program.ensures_ofExcept h

theorem ensures_fieldOf {name : String} {post : Json → Session → Prop}
    (h : ∀ v, record.get? name = some v → ∀ t, others.moves s t → post v t) :
    (fieldOf record name).Ensures env others allowed (Program.returning post) s := by
  unfold fieldOf
  cases hfield : record.get? name with
  | none => exact Program.ensures_failed
  | some v => exact Program.ensures_pure (h v hfield)

theorem ensures_requireConnection {post : Unit → Session → Prop}
    (hallowed : ∀ t, allowed .handle t) (h : ∀ t, others.moves s t → post () t) :
    requireConnection.Ensures env others allowed (Program.returning post) s := by
  apply Program.Ensures.bind_returning
  apply Program.ensures_operation
  intro t ht
  refine ⟨hallowed t, fun u hu => ?_⟩
  split
  · exact Program.ensures_pure fun v hv => h v (others.trans (others.trans ht hu) hv)
  · exact Program.ensures_failed

theorem ensures_identifierFor (hallowed : ∀ t, allowed .drawIdentifier t)
    (hdraws : ∀ n, given (env.identifier n)) :
    (identifierFor record).Ensures env others allowed (Program.returning fun v _ =>
      (record.uuid.isVacant = false → v = record.uuid) ∧
        (record.uuid.isVacant = true → ∃ uuid, v = .str uuid ∧ given uuid)) s := by
  unfold identifierFor
  split
  · next hvacant =>
    apply Program.Ensures.bind_returning
    apply Program.ensures_operation
    intro t _
    refine ⟨hallowed t, fun u _ => Program.ensures_pure fun v _ => ⟨?_, ?_⟩⟩
    · rw [hvacant]
      intro h
      cases h
    · intro _
      exact ⟨_, rfl, hdraws _⟩
  · next hvacant =>
    refine Program.ensures_pure fun v _ => ⟨fun _ => rfl, ?_⟩
    intro h
    exact absurd h hvacant

theorem ensures_convert (hallowed : ∀ t, allowed .drawIdentifier t)
    (hdraws : ∀ n, given (env.identifier n)) :
    (convert record).Ensures env others allowed
      (Program.returning fun d _ => Converted given record d) s := by
  apply Program.Ensures.bind_returning
  apply ensures_fieldOf
  intro id hid t _
  apply Program.Ensures.bind_returning
  apply ensures_fieldOf
  intro name hname u _
  refine Program.Ensures.bind_returning
    ((ensures_identifierFor hallowed hdraws).weaken fun result v hresult uuid hok => ?_)
  obtain ⟨hown, hdrawn⟩ := hresult uuid hok
  apply Program.ensures_ofChecked
  intro d hchecked w _
  obtain ⟨huuid, haccepted⟩ := accepted_of_parts hid hname hchecked
  refine ⟨haccepted, fun h => ?_, fun h => ?_⟩
  · rw [← hown h, huuid]
  · obtain ⟨text, htext, hgiven⟩ := hdrawn h
    rw [huuid, Json.str.injEq] at htext
    exact htext ▸ hgiven

theorem ensures_convertAll {reads : Operation → Prop} (hallowed : reads .drawIdentifier)
    (hmoves : ∀ op t, reads op → others.moves t (op.perform env t).2)
    (hdraws : ∀ n, given (env.identifier n)) (records : List Record) :
    (convertAll records).Ensures env others (fun op _ => reads op)
      (Program.returning fun ds _ => List.Forall₂ (Converted given) records ds) s := by
  refine Program.Ensures.forEach (R := fun record d _ => Converted given record d)
    (fun _ _ _ _ h _ => h) hmoves ?_
  intro record _ t _
  exact ensures_convert (fun _ => hallowed) hdraws

end Ensures

end Datasets
end UsagePolicy
