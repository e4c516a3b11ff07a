import UsagePolicy.Proofs.Policies.Submissions

/-!
# Documents that are read back

The text of an agreement is read back as the agreement that was compiled, whatever stands in the
identifier, the name or the parameters. A client that asks for documents reads twice: the body of
the response is the text of an object that holds the texts of both agreements. Nothing is lost or
added on the way, and the counts that clients submit are never too long for it.
-/
namespace UsagePolicy

structure Documents.ReadAs (documents : Documents) (ids odrl : Json) : Prop where
  idsPolicy : Json.parse documents.idsPolicy = .ok ids
  odrlPolicy : Json.parse documents.odrlPolicy = .ok odrl

/-- A client that reads the body, and then the texts in it, has these two agreements. -/
structure Http.Exchange.ShowsAgreements (exchange : Exchange) (ids odrl : Json) : Prop where
  status : exchange.response.status = 200
  body : ∃ (fields : Fields) (idsText odrlText : String),
    Json.parse exchange.response.body = .ok (.obj fields) ∧
    fields.get? "idsPolicy" = some (.str idsText) ∧
    fields.get? "odrlPolicy" = some (.str odrlText) ∧
    Json.parse idsText = .ok ids ∧ Json.parse odrlText = .ok odrl

section Documents

variable {config : PolicyConfig} {d : Dataset} {t : Timestamp} {odrl : Fields}
  {documents : Documents}

theorem Documents.readAs_of_compile (hcount : config.CountIsShort)
    (h : Odrl.compile d config t = .ok odrl) :
    ∃ documents, generate d config t = .ok documents ∧
      documents.ReadAs (.obj (Ids.compile d config)) (.obj odrl) := by
  have hodrl : (Json.obj odrl).Readable ∧ (Json.obj odrl).nesting ≤ 7 := by
    rw [Odrl.compile] at h
    cases htext : t.issuedText with
    | error _ =>
      rw [htext] at h
      cases h
    | ok text =>
      rw [htext] at h
      cases h
      exact ⟨Odrl.readable_agreement d hcount.countFault? text,
        Odrl.nesting_agreement d config text⟩
  have hlimit : 7 ≤ Json.nestingLimit := by decide
  exact ⟨_, generate_eq_ok.mpr ⟨hcount.countFault?, odrl, h, rfl⟩,
    Json.parse_render (Ids.readable_compile d config)
      (Nat.le_trans (Ids.nesting_compile d config) hlimit),
    Json.parse_render hodrl.1 (Nat.le_trans hodrl.2 hlimit)⟩

theorem Http.Exchange.Carries.showsAgreements {exchange : Exchange} {ids odrl : Json}
    (h : exchange.Carries 200 documents.toJson) (hread : documents.ReadAs ids odrl) :
    exchange.ShowsAgreements ids odrl :=
  ⟨h.status, _, documents.idsPolicy, documents.odrlPolicy, h.body, rfl, rfl, hread.idsPolicy,
    hread.odrlPolicy⟩

end Documents

namespace Session

variable {env : Environment} {s : Session} {request : Http.Request}

theorem reply_generate {g : GenerateRequest} (htask : request.task? = some (.generate g))
    {t : Timestamp} (htime : g.issueTime s.clock = .ok t) {odrl : Fields}
    (hodrl : Odrl.compile g.dataset g.config t = .ok odrl) :
    (s.reply env request).ShowsAgreements (.obj (Ids.compile g.dataset g.config)) (.obj odrl) := by
  have hcount := Http.Request.countIsShort htask rfl
  obtain ⟨documents, hdocuments, hread⟩ := Documents.readAs_of_compile hcount hodrl
  rcases outcome_generate hcount env s with
    ⟨t', documents', htime', hin, hdocuments', houtcome⟩ | ⟨hnot, -⟩
  · obtain rfl : t = t' := Except.ok.inj (htime.symm.trans htime')
    obtain rfl : documents = documents' := Except.ok.inj (hdocuments.symm.trans hdocuments')
    rw [reply_of_task htask, houtcome]
    exact (Http.carries_documents documents).showsAgreements hread
  · rcases Documents.generate_cases hcount g.dataset t with ⟨hin, -⟩ | ⟨-, herror⟩
    · exact absurd ⟨t, htime, hin⟩ hnot
    · rw [hdocuments] at herror
      cases herror

theorem reply_generateFor {n : Int} {config : PolicyConfig}
    (htask : request.task? = some (.generateFor n config))
    (hstatus : (s.reply env request).response.status = 200) :
    ∃ c u time odrl, (Datasets.find n).run env s.cleared = (.ok c, u) ∧ s.clock = .ok time ∧
      Odrl.compile c.dataset config (UniversalTime.toTimestamp time) = .ok odrl ∧
      (s.reply env request).ShowsAgreements (.obj (Ids.compile c.dataset config)) (.obj odrl) := by
  obtain ⟨c, u, time, documents, hfind, hclock, hdocuments, hcarries⟩ :=
    reply_generateFor_of_answered htask hstatus
  obtain ⟨-, odrl, hodrl, -⟩ := Documents.generate_eq_ok.mp hdocuments
  obtain ⟨documents', hdocuments', hread⟩ :=
    Documents.readAs_of_compile (Http.Request.countIsShort htask rfl) hodrl
  obtain rfl : documents = documents' := Except.ok.inj (hdocuments.symm.trans hdocuments')
  exact ⟨c, u, time, odrl, hfind, hclock, hodrl, hcarries.showsAgreements hread⟩

end Session

/-- A value that holds what can be read is written, and read back from its text, if it is nested no
deeper than there is room for; one that is nested deeper is not written. Both agreements are read
back, from the documents and from the body of a response in which they are embedded. The count that
a client has submitted can always be read. -/
theorem rendering_lossless :
    (∀ v : Json, v.Readable →
      (∀ room, v.nesting ≤ room → v.indentedWithin room = .ok v.indentedText ∧
        Json.parseWithin (some room) v.indentedText = .ok v) ∧
      ∀ room, room < v.nesting → v.indentedWithin room = .error .tooDeep) ∧
    (∀ d config t odrl, PolicyConfig.CountIsShort config → Odrl.compile d config t = .ok odrl →
      ∃ documents, Documents.generate d config t = .ok documents ∧
        documents.ReadAs (.obj (Ids.compile d config)) (.obj odrl) ∧
        ∀ origins request,
          (Http.exchange origins request (.ok (.documents documents))).ShowsAgreements
            (.obj (Ids.compile d config)) (.obj odrl)) ∧
    (∀ env (s : Session) request g t odrl, request.task? = some (.generate g) →
      g.issueTime s.clock = .ok t → Odrl.compile g.dataset g.config t = .ok odrl →
      (s.reply env request).ShowsAgreements (.obj (Ids.compile g.dataset g.config)) (.obj odrl)) ∧
    ∀ env (s : Session) request n config, request.task? = some (.generateFor n config) →
      (s.reply env request).response.status = 200 →
      ∃ c u time odrl, (Datasets.find n).run env s.cleared = (.ok c, u) ∧ s.clock = .ok time ∧
        Odrl.compile c.dataset config (UniversalTime.toTimestamp time) = .ok odrl ∧
        (s.reply env request).ShowsAgreements (.obj (Ids.compile c.dataset config))
          (.obj odrl) := by
  refine ⟨fun v hv => ⟨fun room hroom => ⟨?_, ?_⟩, fun room hroom => ?_⟩, ?_,
    fun env s request g t odrl htask htime hodrl => Session.reply_generate htask htime hodrl,
    fun env s request n config htask hstatus => Session.reply_generateFor htask hstatus⟩
  · rw [Json.indentedWithin_of_readable hv, if_pos hroom]
  · exact Json.parseWithin_render hv (Json.Room.holds_some.mpr hroom)
  · rw [Json.indentedWithin_of_readable hv, if_neg (Nat.not_le.mpr hroom)]
  · intro d config t odrl hcount hodrl
    obtain ⟨documents, hdocuments, hread⟩ := Documents.readAs_of_compile hcount hodrl
    exact ⟨documents, hdocuments, hread, fun origins request =>
      (Http.carries_documents documents).showsAgreements hread⟩

/-- Two thousand arrays around a null are more than can be written. -/
theorem deep_arrays_unwritten :
    (Json.nest 2000 .null).Readable ∧ (Json.nest 2000 .null).indented = .error .tooDeep := by
  have hreadable : (Json.nest 2000 .null).Readable :=
    Json.readable_nest (show Json.null.Readable from trivial) 2000
  have hdeep : Json.nestingLimit < (Json.nest 2000 .null).nesting := by
    rw [Json.nesting_nest]
    decide
  refine ⟨hreadable, ?_⟩
  rw [Json.indented, Json.indentedWithin_of_readable hreadable, if_neg (Nat.not_le.mpr hdeep)]

namespace Sample

/-- A dataset whose name and identifier would end the texts that they stand in. -/
def quotedDataset : Dataset :=
  ⟨1, "\"é\u2028\\", "", "u\"\x7d"⟩

def quotedConfig : PolicyConfig :=
  ⟨.timeLimit, [], [], "\", \"", "\n\\u0022", some 1⟩

/-- A request for the documents of that policy on that dataset. -/
def quotedRequest : Http.Request :=
  post "/policies/generate" ("\x7b\"dataset\": \x7b\"id\": 1, " ++
    "\"name\": \"\\\"\\u00e9\\u2028\\\\\", " ++
    "\"uuid\": \"u\\\"\x7d\"\x7d, \"config\": \x7b\"type\": \"time_limit\", " ++
    "\"startTime\": \"\\\", \\\"\", \"endTime\": \"\\n\\\\u0022\"\x7d\x7d")

theorem task?_quotedRequest :
    quotedRequest.task? = some (.generate ⟨quotedDataset, quotedConfig, none⟩) := by
  obtain ⟨v, hcontent, hcheck⟩ := exists_of_accepts
    (show accepts quotedRequest ⟨quotedDataset, quotedConfig, none⟩ = true by decide +kernel)
  exact Session.task?_generate rfl rfl hcontent hcheck

end Sample

/-- Quotes, backslashes and line separators are no way out of a text, neither in the value itself
nor in the response to a client who submits them. -/
theorem rendering_lossless_quotes :
    let v : Json :=
      .obj [("\"", .arr [.str "\\\u2028\x01é", .obj [], .arr [], .int (-7)]), ("", .null)]
    let s := Sample.session (Sample.noon 0 0)
    (v.Readable ∧ v.nesting ≤ Json.nestingLimit ∧ Json.parse v.indentedText = .ok v) ∧
    (v.nesting = 3 ∧ v.indentedWithin 2 = .error .tooDeep) ∧
    ∃ odrl, Sample.quotedConfig.CountIsShort ∧
      Odrl.compile Sample.quotedDataset Sample.quotedConfig (Sample.noon 0 0).toTimestamp =
        .ok odrl ∧
      (∃ documents : Documents,
        documents.ReadAs (.obj (Ids.compile Sample.quotedDataset Sample.quotedConfig))
          (.obj odrl)) ∧
      (s.reply Sample.environment Sample.quotedRequest).ShowsAgreements
        (.obj (Ids.compile Sample.quotedDataset Sample.quotedConfig)) (.obj odrl) ∧
      (s.reply Sample.environment Sample.previewRequest).response.status = 200 ∧
      ∃ d odrl, (s.reply Sample.environment Sample.previewRequest).ShowsAgreements
        (.obj (Ids.compile d .initial)) (.obj odrl) := by
  intro v s
  have hseven : (Numeral.ofNat 7).length ≤ Numeral.digitLimit := by decide
  have hv : v.Readable := by
    simp [v, Json.Readable, Json.ReadableFields, Json.ReadableItems, hseven]
  have hcount : Sample.quotedConfig.CountIsShort := by
    rintro _ ⟨⟩
    decide
  have hstatus : (s.reply Sample.environment Sample.previewRequest).response.status = 200 := by
    decide +kernel
  obtain ⟨hvalues, hdocuments, hinline, hcatalog⟩ := rendering_lossless
  have htext : (Sample.noon 0 0).toTimestamp.issuedText = .ok "2024-03-01T12:00:00.000Z" := by
    decide +kernel
  have hodrl : Odrl.compile Sample.quotedDataset Sample.quotedConfig
      (Sample.noon 0 0).toTimestamp = .ok (Odrl.agreement Sample.quotedDataset Sample.quotedConfig
        "2024-03-01T12:00:00.000Z") := by
    rw [Odrl.compile, htext]
    rfl
  obtain ⟨documents, -, hread, -⟩ := hdocuments _ _ _ _ hcount hodrl
  obtain ⟨c, _, _, odrl, -, -, -, hshows⟩ := hcatalog Sample.environment s Sample.previewRequest 1
    .initial (Sample.asksPreview.task?_eq rfl) hstatus
  have hnesting : v.nesting = 3 := by decide
  have hroom : v.nesting ≤ Json.nestingLimit := by
    rw [hnesting]
    decide
  exact ⟨⟨hv, hroom, ((hvalues v hv).1 _ hroom).2⟩,
    ⟨hnesting, (hvalues v hv).2 2 (by rw [hnesting]; decide)⟩, _, hcount, hodrl, ⟨documents, hread⟩,
    hinline _ s _ _ _ _ Sample.task?_quotedRequest rfl hodrl, hstatus, c.dataset, odrl, hshows⟩

end UsagePolicy
