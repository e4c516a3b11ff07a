import UsagePolicy.Proofs.Policies.Frame
import UsagePolicy.Proofs.Policies.Routes
import UsagePolicy.Proofs.Policy.ActiveParameters
import UsagePolicy.Proofs.Policy.CountReading

/-!
# Policies that are submitted

A policy is submitted with a request for its documents or with a request to save it, by a client or
from inside. In whatever session this happens, either the event fails and the stored policies stay
as they are, or the policy has passed its check, its documents are generated, and the event shows
them or stores them. So what can be said of all documents of a policy holds of those that a client
is given and of those that are stored.
-/
namespace UsagePolicy

open Schema

def Task.config? : Task → Option PolicyConfig
  | generate request => some request.config
  | generateFor _ config => some config
  | save request => some request.config
  | _ => none

/-- The policy in a body for an endpoint that takes one, before it is checked. -/
def Http.Endpoint.policy? (body : Json) : Endpoint → Option Json
  | .generateForDataset => some body
  | .generate | .savePolicy =>
    match body with
    | .obj fields => Fields.get? fields "config"
    | _ => none
  | _ => none

def Http.Request.policy? (request : Request) : Option Json :=
  match request.preflight?, destination request.method request.path, request.content with
  | none, .endpoint endpoint _, .value (some body) => endpoint.policy? body
  | _, _, _ => none

/-- The policy that an event submits, before it is checked. -/
def Event.policy? : Event → Option Json
  | .request r => r.policy?
  | .call (.generateFor _ config) => some config
  | .call (.savePolicy (.obj fields)) => Fields.get? fields "config"
  | _ => none

namespace Http

variable {request : Request} {argument : String} {endpoint : Endpoint} {task : Task}
  {config : PolicyConfig}

theorem checkBody_eq_accepted {α : Type} {check : Source → Json → Checked α} {body : Option Json}
    {a : α} : checkBody check body = .accepted a ↔
      ∃ v, body = some v ∧ check .requestBody v = .accepted a := by
  cases body <;> simp [checkBody]

theorem Endpoint.policy_of_task? (htask : endpoint.task? request argument = some task)
    (hconfig : task.config? = some config) :
    ∃ body v, request.content = .value (some body) ∧ endpoint.policy? body = some v ∧
      PolicyConfig.checkForm .requestBody v = .accepted config := by
  cases endpoint with
  | generate =>
    obtain ⟨body, hcontent, hbody⟩ := Content.bind?_eq_some.mp htask
    obtain ⟨g, hg, rfl⟩ := Option.map_eq_some_iff.mp hbody
    obtain ⟨v, rfl, hv⟩ := checkBody_eq_accepted.mp (Checked.value?_eq_some.mp hg)
    obtain ⟨fields, c, rfl, hc, hcheck⟩ := GenerateRequest.config_of_check hv
    cases hconfig
    exact ⟨_, c, hcontent, hc, hcheck⟩
  | generateForDataset =>
    obtain ⟨body, hcontent, hbody⟩ := Content.bind?_eq_some.mp htask
    obtain ⟨⟨id, c⟩, hchecked, rfl⟩ := Option.map_eq_some_iff.mp hbody
    obtain ⟨-, hc⟩ := Checked.both_eq_accepted.mp (Checked.value?_eq_some.mp hchecked)
    obtain ⟨v, rfl, hv⟩ := checkBody_eq_accepted.mp hc
    cases hconfig
    exact ⟨v, v, hcontent, rfl, hv⟩
  | savePolicy =>
    obtain ⟨body, hcontent, hbody⟩ := Content.bind?_eq_some.mp htask
    obtain ⟨r, hr, rfl⟩ := Option.map_eq_some_iff.mp hbody
    obtain ⟨v, rfl, hv⟩ := checkBody_eq_accepted.mp (Checked.value?_eq_some.mp hr)
    obtain ⟨fields, c, rfl, hc, hcheck⟩ := SaveRequest.config_of_check hv
    cases hconfig
    exact ⟨_, c, hcontent, hc, hcheck⟩
  | listDatasets | getDataset | listPolicyTypes | listPolicies | deletePolicy =>
    cases task <;> simp [task?, Task.config?] at htask hconfig

theorem answer_of_no_task {body v : Json} (hcontent : request.content = .value (some body))
    (hpolicy : endpoint.policy? body = some v) (htask : endpoint.task? request argument = none) :
    ∃ result, answer request argument endpoint = .ofExcept id result ∧
      ∀ r, result = .ok r → 400 ≤ r.status := by
  have hissues : ∀ issues r, reportIssues issues = .ok r → 400 ≤ r.status := by
    intro issues r h
    simp only [reportIssues] at h
    split at h
    · cases h
      exact (by decide : 400 ≤ 422)
    · cases h
  have hrefused : ∀ {α : Type} {checked : Checked α} {f : α → Task} (next : α → Program Response),
      checked.value?.map f = none →
      ∃ result, onAccepted checked next = .ofExcept id result ∧
        ∀ r, result = .ok r → 400 ≤ r.status := by
    intro α checked f next h
    cases checked with
    | accepted a => cases h
    | refused issues => exact ⟨_, rfl, hissues issues⟩
  cases endpoint with
  | generate | generateForDataset | savePolicy =>
    simp only [Endpoint.task?, hcontent, Content.bind?] at htask
    simp only [answer, onContent, hcontent]
    exact hrefused _ htask
  | listDatasets | getDataset | listPolicyTypes | listPolicies | deletePolicy => cases hpolicy

theorem Endpoint.exists_config {body v : Json} (hpolicy : endpoint.policy? body = some v)
    (htask : endpoint.task? request argument = some task) :
    ∃ config, task.config? = some config := by
  cases endpoint with
  | generate | generateForDataset | savePolicy =>
    obtain ⟨_, -, hbody⟩ := Content.bind?_eq_some.mp htask
    obtain ⟨_, -, rfl⟩ := Option.map_eq_some_iff.mp hbody
    exact ⟨_, rfl⟩
  | listDatasets | getDataset | listPolicyTypes | listPolicies | deletePolicy => cases hpolicy

theorem Request.policy?_eq_some {v : Json} : request.policy? = some v ↔
    ∃ endpoint argument body, request.preflight? = none ∧
      destination request.method request.path = .endpoint endpoint argument ∧
      request.content = .value (some body) ∧ endpoint.policy? body = some v := by
  unfold policy?
  constructor
  · intro h
    split at h
    · next endpoint argument body hpreflight hdestination hcontent =>
      exact ⟨endpoint, argument, body, hpreflight, hdestination, hcontent, h⟩
    · cases h
  · rintro ⟨endpoint, argument, body, hpreflight, hdestination, hcontent, h⟩
    simp only [hpreflight, hdestination, hcontent, h]

theorem Request.countIsShort (htask : request.task? = some task)
    (hconfig : task.config? = some config) : config.CountIsShort := by
  simp only [Request.task?] at htask
  split at htask
  · next endpoint argument _ _ =>
    obtain ⟨body, v, hcontent, hpolicy, hcheck⟩ := Endpoint.policy_of_task? htask hconfig
    have hbody := request.limited_content hcontent
    refine PolicyConfig.countIsShort_of_checkForm ?_ hcheck
    cases endpoint with
    | generateForDataset =>
      cases hpolicy
      exact hbody
    | generate | savePolicy =>
      cases body with
      | obj fields => exact Json.LimitedFields.get? hbody hpolicy
      | null | bool b | int n | float x | str s | arr items => cases hpolicy
    | listDatasets | getDataset | listPolicyTypes | listPolicies | deletePolicy => cases hpolicy
  · cases htask

theorem serve_of_no_task {v : Json} (hpolicy : request.policy? = some v)
    (htask : request.task? = none) (env : Environment) (s : Session) :
    400 ≤ (serve env request s).1.response.status := by
  obtain ⟨endpoint, argument, body, hpreflight, hdestination, hcontent, hbody⟩ :=
    Request.policy?_eq_some.mp hpolicy
  simp only [Request.task?, hpreflight, hdestination] at htask
  obtain ⟨result, hanswer, hstatus⟩ := answer_of_no_task hcontent hbody htask
  simp only [serve, respond, hpreflight, dispatch, hdestination, hanswer, Program.run_bind,
    Program.run_recover]
  cases result with
  | ok response =>
    have hresponse : 400 ≤ (decorate env.origins request response).status := by
      rw [status_decorate]
      exact hstatus response rfl
    exact hresponse
  | error failure =>
    have hfailure := failure.status_ge
    cases failure with
    | refused refusal =>
      have hresponse : 400 ≤ (decorate env.origins request
          (.detail refusal.status refusal.detail)).status := by
        rw [status_decorate]
        exact hfailure
      exact hresponse
    | _ => exact hfailure

end Http

namespace Event

variable {env : Environment} {event : Event} {task : Task} {config : PolicyConfig} {v : Json}

theorem policy_of_task? (htask : event.task? = some task) (hconfig : task.config? = some config) :
    ∃ source v, event.policy? = some v ∧ PolicyConfig.checkForm source v = .accepted config := by
  cases event with
  | request r =>
    simp only [Event.task?, Http.Request.task?] at htask
    split at htask
    · next endpoint argument hpreflight hdestination =>
      obtain ⟨body, v, hcontent, hpolicy, hcheck⟩ :=
        Http.Endpoint.policy_of_task? htask hconfig
      exact ⟨.requestBody, v, Http.Request.policy?_eq_some.mpr
        ⟨endpoint, argument, body, hpreflight, hdestination, hcontent, hpolicy⟩, hcheck⟩
    · cases htask
  | call c =>
    cases c with
    | generateFor id v =>
      obtain ⟨c, hc, rfl⟩ := Option.map_eq_some_iff.mp htask
      cases hconfig
      exact ⟨.values, v, rfl, Checked.value?_eq_some.mp hc⟩
    | savePolicy v =>
      obtain ⟨r, hr, rfl⟩ := Option.map_eq_some_iff.mp htask
      cases hconfig
      obtain ⟨fields, c, rfl, hc, hcheck⟩ :=
        SaveRequest.config_of_check (Checked.value?_eq_some.mp hr)
      exact ⟨.values, c, hc, hcheck⟩
    | start | stop | database | listDatasets | findDataset | listPolicies | deletePolicy =>
      cases htask
      cases hconfig
  | setClock reading | expectFault access message | expectWriter writer => cases htask

theorem exists_config (h : event.policy? = some v) (htask : event.task? = some task) :
    ∃ config, task.config? = some config := by
  cases event with
  | request r =>
    obtain ⟨endpoint, argument, body, hpreflight, hdestination, -, hbody⟩ :=
      Http.Request.policy?_eq_some.mp h
    simp only [Event.task?, Http.Request.task?, hpreflight, hdestination] at htask
    exact Http.Endpoint.exists_config hbody htask
  | call c =>
    cases c with
    | generateFor | savePolicy =>
      obtain ⟨_, -, rfl⟩ := Option.map_eq_some_iff.mp htask
      exact ⟨_, rfl⟩
    | start | stop | database | listDatasets | findDataset | listPolicies | deletePolicy => cases h
  | setClock reading | expectFault access message | expectWriter writer => cases h

theorem fails_of_no_task (h : event.policy? = some v) (htask : event.task? = none)
    (env : Environment) (s : Session) : (s.step env event).1.Fails := by
  cases event with
  | request r => exact Http.serve_of_no_task h htask env s.cleared
  | call c =>
    rcases c.program_cases with ⟨task, hsome, -⟩ | ⟨-, failure, hprogram⟩
    · rw [Event.task?, hsome] at htask
      cases htask
    · change ∃ failure, (c.program.run env s.cleared).1 = .error failure
      rw [hprogram]
      exact ⟨failure, rfl⟩
  | setClock reading | expectFault access message | expectWriter writer => cases h

/-- An event that submits a policy has a task with a policy, or fails at once. -/
theorem task_of_policy? (h : event.policy? = some v) :
    (∃ task config, event.task? = some task ∧ task.config? = some config) ∨
      event.task? = none ∧ ∀ env (s : Session), (s.step env event).1.Fails := by
  cases htask : event.task? with
  | some task =>
    obtain ⟨config, hconfig⟩ := exists_config h htask
    exact Or.inl ⟨task, config, rfl, hconfig⟩
  | none => exact Or.inr ⟨rfl, fails_of_no_task h htask⟩

end Event

def Answer.Shows : Answer → Documents → Prop
  | .exchange reached, documents => reached.Carries 200 documents.toJson
  | .outcome result, documents => result = .ok (.documents documents)
  | .noted, _ => False

structure StoredPolicy.Holds (stored : StoredPolicy) (documents : Documents) : Prop where
  idsPolicy : stored.document.get? "idsPolicy" = some (.str documents.idsPolicy)
  odrlPolicy : stored.document.get? "odrlPolicy" = some (.str documents.odrlPolicy)

/-- The event shows the documents and stores no policy, or stores one that holds them. -/
def Session.Delivers (env : Environment) (s : Session) (event : Event)
    (documents : Documents) : Prop :=
  (s.step env event).1.Shows documents ∧ (s.step env event).2.policies = s.policies ∨
    ∃ stored : StoredPolicy, stored.Holds documents ∧ ¬ (s.step env event).1.Fails ∧
      (s.step env event).2.policies = s.policies ++ [stored]

theorem SavedPolicy.holds_fieldsFor (p : SavedPolicy) (id : PolicyId) (written : Json) :
    StoredPolicy.Holds ⟨id, p.fieldsFor written⟩ p.documents :=
  ⟨rfl, rfl⟩

namespace Session

variable {env : Environment} {s t : Session} {event : Event} {task : Task} {config : PolicyConfig}
  {documents : Documents}

theorem shows_of_outcome (htask : event.task? = some task)
    (h : s.outcome env task = .ok (.documents documents)) :
    (s.step env event).1.Shows documents := by
  cases event with
  | request r =>
    rw [step_request htask, h]
    exact Http.carries_documents documents
  | call c =>
    rw [step_call htask, h]
    exact rfl
  | setClock reading | expectFault access message | expectWriter writer => cases htask

theorem outcome_generateFor (n : Int) (config : PolicyConfig) (env : Environment) (s : Session) :
    (∃ failure, s.outcome env (.generateFor n config) = .error failure) ∨
    ∃ c u time documents, (Datasets.find n).run env s.cleared = (.ok c, u) ∧ s.clock = .ok time ∧
      Documents.generate c.dataset config time.toTimestamp = .ok documents ∧
      s.outcome env (.generateFor n config) = .ok (.documents documents) := by
  have hreads : (Datasets.find n).Performs env (Operation.Reads fun _ => True) :=
    Datasets.performs_find (fun _ => trivial) n
  have huntouched := Operation.Reads.untouched_run hreads s.cleared
  rw [outcome, Task.program, Policies.generateFor]
  cases hfind : (Datasets.find n).run env s.cleared with
  | mk result u =>
    rw [hfind] at huntouched
    cases result with
    | error failure =>
      have hrun := Program.run_seq_of_error hfind fun c => Policies.generate c.dataset config none
      rw [Program.run_seq_of_error hrun]
      exact Or.inl ⟨failure, rfl⟩
    | ok c =>
      rcases @Policies.run_generate env c.dataset config u with
        ⟨failure, hgenerate⟩ | ⟨p, hp, hgenerate⟩
      · rw [Program.run_seq, Program.run_seq_of_ok hfind, hgenerate]
        exact Or.inl ⟨failure, rfl⟩
      · obtain ⟨time, documents, hclock, hdocuments, rfl⟩ := policyOn?_eq_some.mp hp
        rw [Program.run_seq, Program.run_seq_of_ok hfind, hgenerate]
        exact Or.inr ⟨c, u, time, documents, rfl, huntouched.clock ▸ hclock, hdocuments, rfl⟩

theorem reply_generateFor_of_answered {n : Int} {request : Http.Request}
    (htask : request.task? = some (.generateFor n config))
    (hstatus : (s.reply env request).response.status = 200) :
    ∃ c u time documents, (Datasets.find n).run env s.cleared = (.ok c, u) ∧ s.clock = .ok time ∧
      Documents.generate c.dataset config time.toTimestamp = .ok documents ∧
      (s.reply env request).Carries 200 documents.toJson := by
  rw [reply_of_task htask] at hstatus ⊢
  rcases outcome_generateFor n config env s with
    ⟨failure, houtcome⟩ | ⟨c, u, time, documents, hfind, hclock, hdocuments, houtcome⟩
  · have hfailed : 400 ≤ (Http.exchange env.origins request
        (s.outcome env (.generateFor n config))).response.status :=
      Http.status_exchange.mpr ⟨failure, houtcome⟩
    omega
  · rw [houtcome]
    exact ⟨c, u, time, documents, hfind, hclock, hdocuments, Http.carries_documents documents⟩

theorem step_cases_of_config (htask : event.task? = some task)
    (hconfig : task.config? = some config) (env : Environment) (s : Session) :
    ((s.step env event).1.Fails ∧ (s.step env event).2.policies = s.policies) ∨
    ∃ d t documents, Documents.generate d config t = .ok documents ∧
      s.Delivers env event documents := by
  cases task with
  | generate g =>
    cases hconfig
    have hkept := (@step_other event env s (by simp [htask]) (by simp [htask])).2.1
    rcases outcome_generate_cases g env s with
      ⟨t, documents, hdocuments, houtcome⟩ | ⟨_, houtcome⟩
    · exact Or.inr ⟨g.dataset, t, documents, hdocuments,
        Or.inl ⟨shows_of_outcome htask houtcome, hkept⟩⟩
    · exact Or.inl ⟨(step_fails_iff htask s).mpr ⟨_, houtcome⟩, hkept⟩
  | generateFor n config =>
    cases hconfig
    have hkept := (@step_other event env s (by simp [htask]) (by simp [htask])).2.1
    rcases outcome_generateFor n config env s with
      ⟨failure, houtcome⟩ | ⟨c, u, time, documents, -, -, hdocuments, houtcome⟩
    · exact Or.inl ⟨(step_fails_iff htask s).mpr ⟨failure, houtcome⟩, hkept⟩
    · exact Or.inr ⟨c.dataset, _, documents, hdocuments,
        Or.inl ⟨shows_of_outcome htask houtcome, hkept⟩⟩
  | save request =>
    cases hconfig
    rcases Policies.run_save_cases env request s.cleared with
      ⟨failure, t, hrun, ht⟩ | ⟨c, u, p, written, t, -, -, hp, -, hrun, ht⟩
    · obtain ⟨hstep, houtcome⟩ := step_of_run htask rfl hrun
      refine Or.inl ⟨(step_fails_iff htask s).mpr ⟨failure, houtcome⟩, ?_⟩
      rw [hstep]
      exact ht.policies
    · obtain ⟨hstep, houtcome⟩ := step_of_run htask rfl hrun
      obtain ⟨time, documents, -, hdocuments, rfl⟩ := policyOn?_eq_some.mp hp
      have hholds := SavedPolicy.holds_fieldsFor
        ⟨c.dataset, request.config, documents, time.toTimestamp⟩
        (env.server.policyId s.inserted) written
      refine Or.inr ⟨_, _, documents, hdocuments, Or.inr ⟨_, hholds, ?_, ?_⟩⟩
      · rw [step_fails_iff htask, houtcome]
        rintro ⟨failure, h⟩
        cases h
      · rw [hstep]
        exact ht.policies
  | start | stop | database | listDatasets | findDataset | listPolicies | delete => cases hconfig

/-- An event that submits an accepted policy fails, or shows the documents of the policy, or stores
them. -/
theorem step_submission {source : Source} {v : Json} (hpolicy : event.policy? = some v)
    (hcheck : PolicyConfig.checkForm source v = .accepted config) (env : Environment)
    (s : Session) :
    ((s.step env event).1.Fails ∧ (s.step env event).2.policies = s.policies) ∨
    ∃ d t documents, Documents.generate d config t = .ok documents ∧
      s.Delivers env event documents := by
  rcases event.task_of_policy? hpolicy with ⟨task, config', htask, hconfig⟩ | ⟨hnone, hfails⟩
  · obtain ⟨source', v', hv', hcheck'⟩ := Event.policy_of_task? htask hconfig
    obtain rfl : v = v' := Option.some_inj.mp (hpolicy.symm.trans hv')
    have haccepted := hcheck.symm.trans (PolicyConfig.checkForm_source hcheck' source)
    cases haccepted
    exact step_cases_of_config htask hconfig env s
  · exact Or.inl ⟨hfails env s,
      (step_other env s (by simp [hnone]) (by simp [hnone])).2.1⟩

end Session
end UsagePolicy
