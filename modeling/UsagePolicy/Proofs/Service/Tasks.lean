import UsagePolicy.Proofs.Program.Runs
import UsagePolicy.Proofs.Schema.Acceptance
import UsagePolicy.Run

/-!
# The tasks of events

An event does to a session what its task does, or nothing if its arguments are refused or it leads
nowhere, and its answer says no more than what the task has come to.
-/
namespace UsagePolicy

namespace Call

def task? : Call → Option Task
  | start => some .start
  | stop => some .stop
  | database => some .database
  | listDatasets => some .listDatasets
  | findDataset id => some (.findDataset id)
  | generateFor datasetId config =>
    (PolicyConfig.checkForm .values config).value?.map (.generateFor datasetId)
  | savePolicy request => (SaveRequest.check .values request).value?.map .save
  | listPolicies datasetId => some (.listPolicies datasetId)
  | deletePolicy reference => some (.delete reference)

theorem program_cases (call : Call) :
    (∃ task, call.task? = some task ∧ call.program = task.program) ∨
      call.task? = none ∧ ∃ failure, call.program = .failed failure := by
  cases call with
  | generateFor datasetId config =>
    cases h : PolicyConfig.checkForm .values config with
    | accepted config =>
      exact Or.inl ⟨.generateFor datasetId config, by simp [task?, h, Checked.value?],
        by simp only [program, h]; rfl⟩
    | refused issues =>
      exact Or.inr ⟨by simp [task?, h, Checked.value?], _, by simp only [program, h]; rfl⟩
  | savePolicy request =>
    cases h : SaveRequest.check .values request with
    | accepted request =>
      exact Or.inl ⟨.save request, by simp [task?, h, Checked.value?],
        by simp only [program, h]; rfl⟩
    | refused issues =>
      exact Or.inr ⟨by simp [task?, h, Checked.value?], _, by simp only [program, h]; rfl⟩
  | _ => exact Or.inl ⟨_, rfl, rfl⟩

end Call

def Failure.status : Failure → Nat
  | .refused refusal => refusal.status
  | _ => 500

theorem Failure.status_ge (failure : Failure) : 400 ≤ failure.status := by
  cases failure with
  | refused refusal => cases refusal <;> simp [status, Refusal.status]
  | _ => simp [status]

namespace Http

/-- What the content of a body gives rise to; nothing if it could not be read. -/
def Content.bind? {α : Type} (content : Content) (f : Option Json → Option α) : Option α :=
  match content with
  | .value body => f body
  | _ => none

theorem Content.bind?_eq_some {α : Type} {content : Content} {f : Option Json → Option α} {a : α} :
    content.bind? f = some a ↔ ∃ body, content = .value body ∧ f body = some a := by
  cases content <;> simp [bind?]

/-- The task that an endpoint is asked for, unless the input is refused. -/
def Endpoint.task? (request : Request) (argument : String) : Endpoint → Option Task
  | .listDatasets => some .listDatasets
  | .getDataset => (checkDatasetId argument).value?.map .findDataset
  | .listPolicyTypes => none
  | .generate =>
    request.content.bind? fun body => (checkBody GenerateRequest.check body).value?.map .generate
  | .generateForDataset =>
    request.content.bind? fun body =>
      ((checkDatasetId argument).both (checkBody PolicyConfig.checkForm body)).value?.map
        fun (id, config) => .generateFor id config
  | .savePolicy =>
    request.content.bind? fun body => (checkBody SaveRequest.check body).value?.map .save
  | .listPolicies => (checkDatasetId argument).value?.map .listPolicies
  | .deletePolicy => some (.delete (.text argument))

/-- The task of a request, if it leads to an endpoint that accepts its input. -/
def Request.task? (request : Request) : Option Task :=
  match request.preflight?, destination request.method request.path with
  | none, .endpoint endpoint argument => endpoint.task? request argument
  | _, _ => none

/-- The program answers with what the task returns or, without a task, answers or fails at once. -/
def AnswersFor (task : Option Task) (p : Program Response) : Prop :=
  match task with
  | some task => p = perform task
  | none => ∃ result, p = .ofExcept id result

theorem answersFor_onAccepted {α : Type} {checked : Checked α} {next : α → Program Response}
    {f : α → Task} (h : ∀ a, AnswersFor (some (f a)) (next a)) :
    AnswersFor (checked.value?.map f) (onAccepted checked next) := by
  cases checked with
  | accepted a => exact h a
  | refused issues => exact ⟨reportIssues issues, rfl⟩

theorem answersFor_onContent {request : Request} {next : Option Json → Program Response}
    {f : Option Json → Option Task} (h : ∀ body, AnswersFor (f body) (next body)) :
    AnswersFor (request.content.bind? f) (onContent request next) := by
  unfold onContent
  cases request.content with
  | value body => exact h body
  | malformed error => exact ⟨.ok (reportMalformed error), rfl⟩
  | undecodable => exact ⟨.ok unreadableBody, rfl⟩

theorem answersFor_answer (request : Request) (argument : String) (endpoint : Endpoint) :
    AnswersFor (endpoint.task? request argument) (answer request argument endpoint) := by
  cases endpoint with
  | listPolicyTypes => exact ⟨.ok _, rfl⟩
  | listDatasets | deletePolicy => exact rfl
  | getDataset | listPolicies => exact answersFor_onAccepted fun a => rfl
  | generate | generateForDataset | savePolicy =>
    exact answersFor_onContent fun body => answersFor_onAccepted fun a => rfl

/-- The exchange in which a client learns what a task has come to. -/
def exchange (origins : List String) (request : Request) : Except Failure TaskResult → Exchange
  | .ok r => ⟨decorate origins request (render r), none⟩
  | .error (.refused refusal) =>
    ⟨decorate origins request (.detail refusal.status refusal.detail), none⟩
  | .error failure => ⟨.plainText 500 "Internal Server Error", some failure⟩

/-- The exchange of a request with a task tells what the task has come to. -/
theorem serve_task {request : Request} {task : Task} (h : request.task? = some task) :
    serve env request s = (exchange env.origins request (task.program.run env s).1,
      (task.program.run env s).2) := by
  unfold Request.task? at h
  split at h
  · next endpoint argument hpreflight hdestination =>
    have hanswer : answer request argument endpoint = perform task := by
      have hanswers := answersFor_answer request argument endpoint
      rwa [h] at hanswers
    simp only [serve, respond, hpreflight, dispatch, hdestination, hanswer, perform,
      Program.run_bind, Program.run_recover, Program.run_seq]
    obtain ⟨outcome, t⟩ := task.program.run env s
    rcases outcome with failure | result
    · cases failure <;> rfl
    · rfl
  · cases h

theorem status_decorate (origins : List String) (request : Request) (response : Response) :
    (decorate origins request response).status = response.status := by
  unfold decorate
  cases request.header? "origin" <;> rfl

theorem body_decorate (origins : List String) (request : Request) (response : Response) :
    (decorate origins request response).body = response.body := by
  unfold decorate
  cases request.header? "origin" <;> rfl

theorem status_render (r : TaskResult) : (render r).status = 200 ∨ (render r).status = 201 := by
  cases r with
  | saved id => exact Or.inr rfl
  | datasets | dataset | documents | policies | deleted | started | stopped | database =>
    exact Or.inl rfl

theorem status_exchange_error (origins : List String) (request : Request) (failure : Failure) :
    (exchange origins request (.error failure)).response.status = failure.status := by
  cases failure with
  | refused refusal => exact status_decorate origins request _
  | _ => rfl

/-- A client learns of a failure, and of nothing else, by a status of at least 400. -/
theorem status_exchange {origins : List String} {request : Request}
    {outcome : Except Failure TaskResult} :
    400 ≤ (exchange origins request outcome).response.status ↔
      ∃ failure, outcome = .error failure := by
  cases outcome with
  | ok r =>
    have hrender := status_render r
    simp only [exchange, status_decorate]
    constructor
    · omega
    · rintro ⟨_, h⟩
      cases h
  | error failure =>
    rw [status_exchange_error]
    exact iff_of_true failure.status_ge ⟨failure, rfl⟩

/-- A request without a task has one exchange in every session, and leaves each as it is. -/
theorem exists_exchange_of_no_task {request : Request} (h : request.task? = none)
    (env : Environment) : ∃ exchange, ∀ s, serve env request s = (exchange, s) := by
  have hdispatch : request.preflight? = none →
      ∃ result, ∀ s, (dispatch request).run env s = (result, s) := by
    intro hpreflight
    unfold dispatch
    split
    · next endpoint argument hdestination =>
      simp only [Request.task?, hpreflight, hdestination] at h
      have hanswer := answersFor_answer request argument endpoint
      rw [h] at hanswer
      obtain ⟨result, hanswer⟩ := hanswer
      simp only [hanswer, Program.run_recover]
      rcases result with failure | response
      · cases failure <;> exact ⟨_, fun _ => rfl⟩
      · exact ⟨_, fun _ => rfl⟩
    · exact ⟨_, fun _ => rfl⟩
    · split <;> exact ⟨_, fun _ => rfl⟩
  unfold serve respond
  cases hpreflight : request.preflight? with
  | some preflight => exact ⟨_, fun _ => rfl⟩
  | none =>
    obtain ⟨result, hresult⟩ := hdispatch hpreflight
    simp only [Program.run_bind, hresult]
    cases result <;> exact ⟨_, fun _ => rfl⟩

theorem serve_no_task {request : Request} (h : request.task? = none) :
    (serve env request s).2 = s := by
  obtain ⟨exchange, hserve⟩ := exists_exchange_of_no_task h env
  rw [hserve]

end Http

def Event.task? : Event → Option Task
  | .request r => r.task?
  | .call c => c.task?
  | _ => none

def Task.opens? : Task → Option Bool
  | start => some true
  | stop => some false
  | _ => none

/-- Whether the event opens the database or closes it. Any other event does neither. -/
def Event.opens? : Event → Option Bool
  | call .start => some true
  | call .stop => some false
  | _ => none

theorem Http.Request.opens?_of_task? {request : Request} {task : Task}
    (h : request.task? = some task) : task.opens? = none := by
  unfold Request.task? at h
  split at h
  · next endpoint argument _ _ =>
    cases endpoint with
    | listPolicyTypes => cases h
    | listDatasets | deletePolicy =>
      cases h
      rfl
    | getDataset | listPolicies =>
      obtain ⟨a, -, rfl⟩ := Option.map_eq_some_iff.mp h
      rfl
    | generate | generateForDataset | savePolicy =>
      obtain ⟨body, -, hbody⟩ := Content.bind?_eq_some.mp h
      obtain ⟨a, -, rfl⟩ := Option.map_eq_some_iff.mp hbody
      rfl
  · cases h

theorem Event.opens?_eq (event : Event) : event.opens? = event.task?.bind Task.opens? := by
  cases event with
  | request request =>
    change none = request.task?.bind Task.opens?
    cases h : request.task? with
    | none => rfl
    | some task => exact (Http.Request.opens?_of_task? h).symm
  | call call =>
    cases call with
    | generateFor datasetId config =>
      change none = ((PolicyConfig.checkForm .values config).value?.map _).bind Task.opens?
      cases (PolicyConfig.checkForm .values config).value? <;> rfl
    | savePolicy request =>
      change none = ((SaveRequest.check .values request).value?.map _).bind Task.opens?
      cases (SaveRequest.check .values request).value? <;> rfl
    | start | stop | database | listDatasets | findDataset | listPolicies | deletePolicy => rfl
  | setClock reading | expectFault access message | expectWriter writer => rfl

/-- The answer reports an error: a failure, or a status of at least 400. -/
def Answer.Fails : Answer → Prop
  | .exchange reached => 400 ≤ reached.response.status
  | .outcome result => ∃ failure, result = .error failure
  | .noted => False

namespace Session

variable {env : Environment} {event : Event} {task : Task}

/-- The session in which an event is dealt with: the lines of the event before are gone. -/
def cleared (s : Session) : Session :=
  { s with log := [] }

def outcome (env : Environment) (s : Session) (task : Task) : Except Failure TaskResult :=
  (task.program.run env s.cleared).1

theorem step_task (h : event.task? = some task) (s : Session) :
    (s.step env event).2 = (task.program.run env s.cleared).2 := by
  cases event with
  | request request =>
    change (Http.serve env request s.cleared).2 = _
    rw [Http.serve_task h]
  | call call =>
    rcases call.program_cases with ⟨other, hother, hprogram⟩ | ⟨hnone, _⟩
    · obtain rfl : other = task := Option.some_inj.mp (hother.symm.trans h)
      change (call.program.run env s.cleared).2 = _
      rw [hprogram]
    · rw [Event.task?, hnone] at h
      cases h
  | setClock reading | expectFault access message | expectWriter writer => cases h

theorem step_no_task (h : event.task? = none) (s : Session) :
    (s.step env event).2 = match event with
      | .setClock reading => { s.cleared with clock := reading }
      | .expectFault access message => s.cleared.expectFault access message
      | .expectWriter writer => s.cleared.expectWriter writer
      | _ => s.cleared := by
  cases event with
  | request request => exact Http.serve_no_task h
  | call call =>
    rcases call.program_cases with ⟨task, htask, _⟩ | ⟨_, failure, hprogram⟩
    · rw [Event.task?, htask] at h
      cases h
    · change (call.program.run env s.cleared).2 = s.cleared
      rw [hprogram]
      rfl
  | setClock reading | expectFault access message | expectWriter writer => rfl

theorem step_call {call : Call} (h : call.task? = some task) (s : Session) :
    (s.step env (.call call)).1 = .outcome (s.outcome env task) := by
  rcases call.program_cases with ⟨other, hother, hprogram⟩ | ⟨hnone, _⟩
  · obtain rfl : other = task := Option.some_inj.mp (hother.symm.trans h)
    change Answer.outcome (call.program.run env s.cleared).1 = _
    rw [hprogram]
    rfl
  · rw [hnone] at h
    cases h

theorem step_request {request : Http.Request} (h : request.task? = some task) (s : Session) :
    (s.step env (.request request)).1 =
      .exchange (Http.exchange env.origins request (s.outcome env task)) := by
  change Answer.exchange (Http.serve env request s.cleared).1 = _
  rw [Http.serve_task h]
  rfl

theorem step_fails_iff (h : event.task? = some task) (s : Session) :
    (s.step env event).1.Fails ↔ ∃ failure, s.outcome env task = .error failure := by
  cases event with
  | request request =>
    rw [step_request h]
    exact Http.status_exchange
  | call call =>
    rw [step_call h]
    exact Iff.rfl
  | setClock reading | expectFault access message | expectWriter writer => cases h

/-- If the task of an event runs a program and only renames what it returns, the event does what the
program does and comes to what it returns. -/
theorem step_of_run {α : Type} {p : Program α} {f : α → TaskResult} {result : Except Failure α}
    {s t : Session} (h : event.task? = some task)
    (hprogram : task.program = p >>= fun a => pure (f a))
    (hrun : p.run env s.cleared = (result, t)) :
    (s.step env event).2 = t ∧ s.outcome env task = result.map f := by
  rw [step_task h, outcome, hprogram, Program.run_seq, hrun]
  cases result <;> exact ⟨rfl, rfl⟩

end Session
end UsagePolicy
