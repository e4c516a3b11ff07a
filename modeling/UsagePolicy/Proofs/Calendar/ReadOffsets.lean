import UsagePolicy.Proofs.Calendar.ReadBack

/-!
# Offsets of timestamps that are read

A timestamp that is read, from a text or from a count, has an offset of whole minutes, if it has
one at all. So its interchange form leaves nothing out.
-/
namespace UsagePolicy.Timestamp

/-- The offset of the timestamp, if it has one, is a whole count of minutes. -/
def OnWholeMinutes (t : Timestamp) : Prop :=
  ∀ o ∈ t.offset, o.IsWholeMinutes

variable {t : Timestamp}

theorem offset_of_of? {year month day hour minute second microsecond : Nat} {offset : Option Int}
    (h : of? year month day hour minute second microsecond offset = some t) :
    t.offset.map Offset.seconds = offset := by
  simp only [of?, Option.bind_eq_bind, Option.bind_eq_some_iff] at h
  obtain ⟨date, -, h⟩ := h
  split at h
  · cases offset with
    | none =>
      cases h
      rfl
    | some seconds =>
      obtain ⟨o, ho, rfl⟩ := Option.map_eq_some_iff.mp h
      unfold Offset.of? at ho
      split at ho
      · cases ho
        rfl
      · cases ho
  · cases h

theorem readOffset?_whole {cs : List Char} {seconds : Int}
    (h : readOffset? cs = some (some seconds)) : seconds % 60 = 0 := by
  unfold readOffset? at h
  split at h
  · cases h
  · cases h
    rfl
  · cases h
    rfl
  · simp only at h
    split at h
    · split at h
      · cases h
        unfold Numeral.signed
        split <;> omega
      · cases h
    · cases h
  · cases h

theorem readFull?_whole {cs : List Char} {m : Moment} (h : readFull? cs = some m) :
    ∀ seconds ∈ m.offset, seconds % 60 = 0 := by
  unfold readFull? at h
  split at h
  · cases h
  · split at h
    · split at h
      · simp only [Option.bind_eq_bind, Option.bind_eq_some_iff] at h
        obtain ⟨hour, -, minute, -, ⟨⟨second, microsecond⟩, rest⟩, -, offset, hoffset, h⟩ := h
        split at h
        · cases h
          rintro seconds rfl
          exact readOffset?_whole hoffset
        · cases h
      · cases h
    · cases h

theorem onWholeMinutes_of_ofMoment {m : Moment} (hm : ∀ seconds ∈ m.offset, seconds % 60 = 0)
    (h : ofMoment m = .ok t) : t.OnWholeMinutes := by
  unfold ofMoment at h
  split at h
  · next hof =>
    cases h
    intro o ho
    refine hm o.seconds ?_
    rw [← offset_of_of? hof, Option.mem_def.mp ho]
    rfl
  · cases h

theorem onWholeMinutes_of_ofSeconds {seconds : Int} {microseconds : Nat}
    (h : ofSeconds seconds microseconds = .ok t) : t.OnWholeMinutes := by
  unfold ofSeconds at h
  simp only at h
  split at h
  · cases h
  split at h
  · cases h
  split at h
  · next u _ =>
    cases h
    exact u.isWholeMinutes
  · cases h

theorem onWholeMinutes_of_ofCount {count : Int} {microseconds : Nat}
    (h : ofCount count microseconds = .ok t) : t.OnWholeMinutes := by
  unfold ofCount at h
  split at h <;> exact onWholeMinutes_of_ofSeconds h

theorem onWholeMinutes_of_ofNumber {x : Binary64} (h : ofNumber x = .ok t) :
    t.OnWholeMinutes := by
  cases x with
  | nan | infinity negative => cases h
  | finite negative significand exponent =>
    unfold ofNumber at h
    simp only at h
    split at h <;> exact onWholeMinutes_of_ofSeconds h

theorem onWholeMinutes_of_readMidnight {cs : List Char} {count : Option MomentFault}
    (h : readMidnight cs count = .ok t) : t.OnWholeMinutes := by
  unfold readMidnight at h
  split at h
  · exact onWholeMinutes_of_ofMoment (by simp) h
  · cases h

theorem onWholeMinutes_of_readText {text : String} (h : readText text = .ok t) :
    t.OnWholeMinutes := by
  unfold readText at h
  simp only at h
  split at h
  · next hfull => exact onWholeMinutes_of_ofMoment (readFull?_whole hfull) h
  split at h
  · split at h
    · next hcount =>
      cases h
      exact onWholeMinutes_of_ofCount hcount
    · cases h
    · exact onWholeMinutes_of_readMidnight h
  split at h
  · split at h
    · next hnumber =>
      cases h
      exact onWholeMinutes_of_ofNumber hnumber
    · cases h
    · exact onWholeMinutes_of_readMidnight h
  · exact onWholeMinutes_of_readMidnight h

end UsagePolicy.Timestamp
