import UsagePolicy.Proofs.Calendar.DayNumbers
import UsagePolicy.Proofs.Http.Bodies
import UsagePolicy.Proofs.Policies.Consistency
import UsagePolicy.Proofs.Policy.CountReading
import UsagePolicy.Proofs.Service.Replies

/-!
# Generating documents on request

A request for documents that passes its check is answered with both of them if the time of issue
lies in the calendar of universal time. This holds of whatever the clock shows and of every time
without an offset. A time with an offset may denote an instant before the year 1 or after the year
9999, which no agreement can state: then, and only then, the request ends with an internal error.
-/
namespace UsagePolicy

/-- The time at which documents are issued: the one that is asked for, or what the clock shows. -/
def GenerateRequest.issueTime (g : GenerateRequest) (clock : ClockReading) :
    Except GenerationFault Timestamp :=
  match g.issued with
  | some t => .ok t
  | none => (clock.map UniversalTime.toTimestamp).mapError fun _ => .dateOutOfRange

def GenerateRequest.Datable (g : GenerateRequest) (clock : ClockReading) : Prop :=
  ∃ t, g.issueTime clock = .ok t ∧ t.InCalendar

theorem GenerateRequest.datable_of_clock {g : GenerateRequest} {time : UniversalTime}
    (h : g.issued = none) : g.Datable (.ok time) :=
  ⟨time.toTimestamp, by rw [issueTime, h]; rfl, time.inCalendar⟩

/-- A policy that is accepted from a value within the limits has a count that can be written. -/
theorem PolicyConfig.countIsShort_of_checkForm {source : Schema.Source} {v : Json}
    {config : PolicyConfig}
    (hv : v.Limited) (h : checkForm source v = .accepted config) : config.CountIsShort := by
  obtain ⟨fields, rfl⟩ := exists_fields_of_checkForm h
  obtain ⟨-, n, -, hn, hsubmitted⟩ := parts_of_checkForm h
  intro m hm
  obtain rfl : n = m := Option.some_inj.mp (hn.symm.trans hm)
  unfold UsageCount.submitted at hsubmitted
  split at hsubmitted
  · next count hcount => exact UsageCount.length_le_of_ofJson (hv.get? hcount) hsubmitted
  · cases hsubmitted
    decide

/-- Documents whose count can be written are generated exactly if the time of issue lies in the
calendar. -/
theorem Documents.generate_cases {config : PolicyConfig} (hcount : config.CountIsShort)
    (d : Dataset) (t : Timestamp) :
    (t.InCalendar ∧ ∃ documents, generate d config t = .ok documents) ∨
      ¬ t.InCalendar ∧ generate d config t = .error .dateOutOfRange := by
  rcases t.issuedText_cases with ⟨h, text, htext⟩ | ⟨h, htext⟩
  · refine Or.inl ⟨h, _,
      generate_eq_ok.mpr ⟨hcount.countFault?, Odrl.agreement d config text, ?_, rfl⟩⟩
    rw [Odrl.compile, htext]
    rfl
  · refine Or.inr ⟨h, ?_⟩
    rw [generate, Ids.text_eq, hcount.countFault?, Odrl.text, Odrl.compile, htext]
    rfl

namespace Session

variable {env : Environment} {s : Session} {g : GenerateRequest}

theorem run_issued {α : Type} (g : GenerateRequest)
    (issue : Timestamp → Except GenerationFault α) (s : Session) :
    ((match g.issued with
      | some t => pure t
      | none => Policies.now) >>= fun t =>
        Program.ofExcept GenerationFault.failure (issue t)).run env s =
      ((g.issueTime s.clock >>= issue).mapError GenerationFault.failure, s) := by
  have hrun : ∀ t, (Program.ofExcept GenerationFault.failure (issue t)).run env s =
      ((issue t).mapError GenerationFault.failure, s) := by
    intro t
    cases issue t <;> rfl
  unfold GenerateRequest.issueTime
  cases g.issued with
  | some t => exact hrun t
  | none =>
    rw [Program.run_seq, Policies.run_now]
    cases s.clock with
    | error _ => rfl
    | ok time => exact hrun time.toTimestamp

theorem run_generate_request (g : GenerateRequest) (s : Session) :
    (Policies.generate g.dataset g.config g.issued).run env s =
      ((g.issueTime s.clock >>= Documents.generate g.dataset g.config).mapError
        GenerationFault.failure, s) := by
  obtain ⟨d, config, issued⟩ := g
  cases issued with
  | none => exact run_issued ⟨d, config, none⟩ (Documents.generate d config) s
  | some t => exact run_issued ⟨d, config, some t⟩ (Documents.generate d config) s

theorem outcome_generate_eq (g : GenerateRequest) (env : Environment) (s : Session) :
    s.outcome env (.generate g) =
      ((g.issueTime s.clock >>= Documents.generate g.dataset g.config).mapError
        GenerationFault.failure).map .documents := by
  have hclock : s.cleared.clock = s.clock := rfl
  rw [outcome, Task.program, Program.run_seq, @run_generate_request env g s.cleared, hclock]
  cases g.issueTime s.clock >>= Documents.generate g.dataset g.config <;> rfl

theorem outcome_generate_cases (g : GenerateRequest) (env : Environment) (s : Session) :
    (∃ t documents, Documents.generate g.dataset g.config t = .ok documents ∧
      s.outcome env (.generate g) = .ok (.documents documents)) ∨
    ∃ failure, s.outcome env (.generate g) = .error failure := by
  rw [outcome_generate_eq]
  cases htime : g.issueTime s.clock with
  | error fault => exact Or.inr ⟨_, rfl⟩
  | ok t =>
    cases hdocuments : Documents.generate g.dataset g.config t with
    | error fault =>
      refine Or.inr ⟨fault.failure, ?_⟩
      simp [bind, Except.bind, hdocuments, Except.mapError, Except.map]
    | ok documents =>
      refine Or.inl ⟨t, documents, hdocuments, ?_⟩
      simp [bind, Except.bind, hdocuments, Except.mapError, Except.map]

/-- A request for documents whose count can be written comes to both of them, or to the failure to
state when they are issued. -/
theorem outcome_generate (hcount : g.config.CountIsShort) (env : Environment) (s : Session) :
    (∃ t documents, g.issueTime s.clock = .ok t ∧ t.InCalendar ∧
      Documents.generate g.dataset g.config t = .ok documents ∧
      s.outcome env (.generate g) = .ok (.documents documents)) ∨
    ¬ g.Datable s.clock ∧ s.outcome env (.generate g) = .error .dateOutOfRange := by
  rw [outcome_generate_eq]
  cases htime : g.issueTime s.clock with
  | error fault =>
    have hfault : fault = .dateOutOfRange := by
      unfold GenerateRequest.issueTime at htime
      split at htime
      · cases htime
      · cases hclock : s.clock with
        | error _ =>
          rw [hclock] at htime
          cases htime
          rfl
        | ok time =>
          rw [hclock] at htime
          cases htime
    refine Or.inr ⟨?_, by rw [hfault]; rfl⟩
    rintro ⟨t, ht, -⟩
    rw [htime] at ht
    cases ht
  | ok t =>
    rcases Documents.generate_cases hcount g.dataset t with
      ⟨hin, documents, hdocuments⟩ | ⟨hout, herror⟩
    · refine Or.inl ⟨t, documents, rfl, hin, hdocuments, ?_⟩
      simp [bind, Except.bind, hdocuments, Except.mapError, Except.map]
    · refine Or.inr ⟨?_, ?_⟩
      · rintro ⟨t', ht, hin⟩
        rw [htime] at ht
        cases ht
        exact hout hin
      · simp [bind, Except.bind, herror, Except.mapError, Except.map, GenerationFault.failure]

theorem task?_generate {request : Http.Request} {v : Json} (hmethod : request.method = "POST")
    (hpath : request.path = "/policies/generate") (hcontent : request.content = .value (some v))
    (hcheck : GenerateRequest.check .requestBody v = .accepted g) :
    request.task? = some (.generate g) := by
  have hpreflight : request.preflight? = none := by simp [Http.Request.preflight?, hmethod]
  have hdestination : Http.destination "POST" "/policies/generate" = .endpoint .generate "" := by
    decide +kernel
  simp [Http.Request.task?, hpreflight, hmethod, hpath, hdestination, Http.Endpoint.task?, hcontent,
    Http.Content.bind?, Http.checkBody, hcheck, Checked.within, Checked.value?]

theorem countIsShort_of_check {v : Json} (hv : v.Limited)
    (hcheck : GenerateRequest.check .requestBody v = .accepted g) : g.config.CountIsShort := by
  obtain ⟨fields, c, rfl, hc, hconfig⟩ := GenerateRequest.config_of_check hcheck
  exact PolicyConfig.countIsShort_of_checkForm (Json.LimitedFields.get? hv hc) hconfig

/-- A request for documents whose body has passed its check is answered with both of them if its
time of issue lies in the calendar. Only if it does not, the request fails. -/
theorem generation_answered {request : Http.Request} {v : Json} (hmethod : request.method = "POST")
    (hpath : request.path = "/policies/generate") (hsubmits : request.Submits v)
    (hcheck : GenerateRequest.check .requestBody v = .accepted g) (env : Environment)
    (s : Session) :
    ∃ exchange, (s.step env (.request request)).1 = .exchange exchange ∧
      (g.Datable s.clock → ∃ t documents, g.issueTime s.clock = .ok t ∧
        Documents.generate g.dataset g.config t = .ok documents ∧
        exchange.Carries 200 documents.toJson) ∧
      (¬ g.Datable s.clock →
        exchange.response.status = 500 ∧ exchange.raised = some .dateOutOfRange) := by
  refine ⟨_, step_request (task?_generate hmethod hpath hsubmits.content hcheck) s, ?_⟩
  rcases outcome_generate (countIsShort_of_check hsubmits.limited hcheck) env s with
    ⟨t, documents, htime, hin, hdocuments, houtcome⟩ | ⟨hnot, houtcome⟩
  · rw [houtcome]
    exact ⟨fun _ => ⟨t, documents, htime, hdocuments, Http.carries_documents documents⟩,
      fun hnot => absurd ⟨t, htime, hin⟩ hnot⟩
  · rw [houtcome]
    exact ⟨fun h => absurd h hnot, fun _ => ⟨rfl, rfl⟩⟩

end Session

namespace Sample

def post (path body : String) : Http.Request :=
  ⟨"POST", path, "", [("content-type", "application/json")], body⟩

theorem isJson_post (path body : String) : (post path body).isJson = true := by
  have htype : Http.isJsonType (Http.mediaType "application/json") = true := by decide +kernel
  have hname : "content-type".toLower = "content-type" := by decide +kernel
  simp [Http.Request.isJson, Http.Request.header?, post, hname, htype]

theorem submits_post {path body : String} {v : Json} (hbody : body ≠ "")
    (hcontent : (post path body).content = .value (some v))
    (hpaired : (post path body).PairsSurrogates) : (post path body).Submits v :=
  Http.Request.submits_of_content hbody (isJson_post path body) hcontent hpaired

/-- A request for documents with a time of issue on the first of January of year 1. -/
def firstDay (time : String) : Http.Request :=
  post "/policies/generate" ("\x7b\"dataset\": \x7b\"id\": 1, \"name\": \"a\", " ++
    "\"uuid\": \"u\"\x7d, \"config\": \x7b\x7d, \"issued\": \"0001-01-01T" ++ time ++ "\"\x7d")

def firstDayRequest (time : TimeOfDay) (offset : Offset) : GenerateRequest :=
  ⟨⟨1, "a", "", "u"⟩, .initial, some ⟨⟨1, 1, 1, by decide, by decide⟩, time, some offset⟩⟩

/-- The content of the request is accepted as asking for this. -/
def accepts (request : Http.Request) (g : GenerateRequest) : Bool :=
  match request.content with
  | .value (some v) => (GenerateRequest.check .requestBody v).value? == some g
  | _ => false

theorem exists_of_accepts {request : Http.Request} {g : GenerateRequest}
    (h : accepts request g = true) :
    ∃ v, request.content = .value (some v) ∧
      GenerateRequest.check .requestBody v = .accepted g := by
  unfold accepts at h
  split at h
  · next v hcontent => exact ⟨v, hcontent, Checked.value?_eq_some.mp (by simpa using h)⟩
  · cases h

theorem exists_firstDay {time : String} {g : GenerateRequest}
    (hpaired : (firstDay time).PairsSurrogates) (h : accepts (firstDay time) g = true) :
    ∃ v, (firstDay time).Submits v ∧ GenerateRequest.check .requestBody v = .accepted g := by
  obtain ⟨v, hcontent, hcheck⟩ := exists_of_accepts h
  exact ⟨v, submits_post (by simp) hcontent hpaired, hcheck⟩

end Sample

namespace Session

/-- Midnight in universal time is the first moment that can be stated. -/
theorem generation_answered_first_moment :
    let request := Sample.firstDay "00:00:00Z"
    let g := Sample.firstDayRequest .midnight .utc
    let s := Sample.session (Sample.noon 0 0)
    (∃ v, request.Submits v ∧ GenerateRequest.check .requestBody v = .accepted g) ∧
    ∃ exchange documents,
      (s.step Sample.environment (.request request)).1 = .exchange exchange ∧
      Documents.generate g.dataset g.config
        ⟨⟨1, 1, 1, by decide, by decide⟩, .midnight, some .utc⟩ = .ok documents ∧
      exchange.Carries 200 documents.toJson := by
  intro request g s
  have hpaired : request.PairsSurrogates := by decide +kernel
  obtain ⟨v, hsubmits, hcheck⟩ := Sample.exists_firstDay hpaired
    (show Sample.accepts request g = true by decide +kernel)
  obtain ⟨exchange, hstep, hanswered, -⟩ :=
    generation_answered rfl rfl hsubmits hcheck Sample.environment s
  obtain ⟨t, documents, htime, hdocuments, hcarries⟩ := hanswered ⟨_, rfl, by decide⟩
  cases htime
  exact ⟨⟨v, hsubmits, hcheck⟩, exchange, documents, hstep, hdocuments, hcarries⟩

/-- At midnight where clocks are a minute ahead, universal time is still in the year before. -/
theorem minute_before_calendar_fails :
    let request := Sample.firstDay "00:00:00+00:01"
    let g := Sample.firstDayRequest .midnight ⟨60, by decide⟩
    let s := Sample.session (Sample.noon 0 0)
    (∃ v, request.Submits v ∧ GenerateRequest.check .requestBody v = .accepted g) ∧
    ∃ exchange, (s.step Sample.environment (.request request)).1 = .exchange exchange ∧
      exchange.response.status = 500 ∧ exchange.raised = some .dateOutOfRange := by
  intro request g s
  have hpaired : request.PairsSurrogates := by decide +kernel
  obtain ⟨v, hsubmits, hcheck⟩ := Sample.exists_firstDay hpaired
    (show Sample.accepts request g = true by decide +kernel)
  have htask := task?_generate rfl rfl hsubmits.content hcheck
  refine ⟨⟨v, hsubmits, hcheck⟩, _, step_request htask s, ?_⟩
  rcases outcome_generate (countIsShort_of_check hsubmits.limited hcheck) Sample.environment s with
    ⟨t, _, htime, hin, -⟩ | ⟨-, houtcome⟩
  · cases htime
    exact absurd hin (by decide)
  · rw [houtcome]
    exact ⟨rfl, rfl⟩

end Session
end UsagePolicy
