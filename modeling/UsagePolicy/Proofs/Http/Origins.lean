import UsagePolicy.Http.Server
import UsagePolicy.Identifier
import UsagePolicy.Proofs.Program.Runs
import UsagePolicy.Proofs.Store.Servers
import UsagePolicy.Proofs.Text.Items

/-!
# Which origins are admitted

Unless an item of the setting is a star, a response names an origin only if the request comes from
it and it is an item of the setting, and then it does so whenever the service answers itself. This
holds of every request and in every session, whether the answer is a success, a refusal, a
redirection or that to a preflight request. A setting of blanks and commas admits nobody.
-/
namespace UsagePolicy

variable {env : Environment}

namespace Program

variable {α β : Type} {P : α → Prop} {p : Program α}

/-- Wherever the program is started, it returns such values only. -/
def Returns (env : Environment) (P : α → Prop) (p : Program α) : Prop :=
  ∀ s a t, p.run env s = (.ok a, t) → P a

theorem returns_finished {a : α} (h : P a) : (finished a).Returns env P := by
  intro s b t hrun
  cases hrun
  exact h

theorem returns_failed (failure : Failure) : (failed failure : Program α).Returns env P := by
  intro s a t hrun
  cases hrun

theorem returns_ofExcept {ε : Type} {failure : ε → Failure} {r : Except ε α}
    (h : ∀ a, r = .ok a → P a) : (ofExcept failure r).Returns env P := by
  intro s a t hrun
  exact h a (run_ofExcept_eq_ok.mp hrun).1

theorem returns_seq {P : β → Prop} {f : α → Program β} (h : ∀ a, (f a).Returns env P) :
    (p >>= f).Returns env P := by
  intro s b t hrun
  obtain ⟨a, u, -, hrun⟩ := run_seq_eq_ok.mp hrun
  exact h a u b t hrun

theorem Returns.recover {handler : Failure → Program α} (h : p.Returns env P)
    (hhandler : ∀ failure, (handler failure).Returns env P) :
    (p.recover handler).Returns env P := by
  intro s a t hrun
  rw [run_recover] at hrun
  split at hrun
  · next heq =>
    cases hrun
    exact h s a t heq
  · next failure u _ => exact hhandler failure u a t hrun

end Program

namespace Http

/-- The origin stands in the setting between commas, with blanks around it at most. -/
def Lists (setting origin : String) : Prop :=
  ∃ piece, Text.Separates ',' setting.toList piece ∧ Text.IsCore Text.isBlank piece origin.toList

/-- The origins of a setting are its items, without the empty ones. -/
theorem mem_originsOf_iff {setting origin : String} :
    origin ∈ originsOf setting ↔ origin ≠ "" ∧ Lists setting origin := by
  rw [originsOf, List.mem_filter, bne_iff_ne, and_comm, List.mem_map]
  refine and_congr_right fun _ => exists_congr fun piece => ?_
  rw [Text.mem_split_iff, ← Text.trim_eq_iff, ← String.toList_inj, String.toList_ofList]

theorem Lists.eq_empty {setting origin : String} (h : Lists setting origin)
    (hblank : ∀ c ∈ setting.toList, Text.isBlank c = true ∨ c = ',') : origin = "" := by
  obtain ⟨piece, ⟨hcomma, front, back, hsetting, -⟩, left, right, rfl, -, hfirst, -⟩ := h
  rw [← String.toList_inj, String.toList_empty]
  cases horigin : origin.toList with
  | nil => rfl
  | cons c rest =>
    rw [horigin] at hcomma hfirst hsetting
    have hnot : Text.isBlank c = false := hfirst c rfl
    rcases hblank c (by simp [hsetting]) with hc | rfl
    · rw [hnot] at hc
      cases hc
    · exact absurd (by simp) hcomma

def Response.Names (response : Response) (origin : String) : Prop :=
  ("access-control-allow-origin", origin) ∈ response.headers

def Response.NamesNone (response : Response) : Prop :=
  ∀ origin, ¬ response.Names origin

theorem namesNone_json (status : Nat) (v : Json) : (Response.json status v).NamesNone := by
  simp [Response.NamesNone, Response.Names, Response.json]

theorem namesNone_data (v : Json) : (Response.data v).NamesNone := by
  simp [Response.NamesNone, Response.Names, Response.data]

theorem namesNone_plainText (status : Nat) (text : String) :
    (Response.plainText status text).NamesNone := by
  simp [Response.NamesNone, Response.Names, Response.plainText]

theorem namesNone_redirect (request : Request) (path : String) :
    (redirect request path).NamesNone := by
  simp [Response.NamesNone, Response.Names, redirect]

theorem namesNone_reportMalformed (error : Json.ReadError) :
    (reportMalformed error).NamesNone := by
  unfold reportMalformed
  split <;> exact namesNone_json _ _

theorem returns_onAccepted {α : Type} (checked : Checked α) {next : α → Program Response}
    (h : ∀ a, (next a).Returns env Response.NamesNone) :
    (onAccepted checked next).Returns env Response.NamesNone := by
  cases checked with
  | accepted a => exact h a
  | refused issues =>
    apply Program.returns_ofExcept
    intro response hreport
    simp only [reportIssues] at hreport
    split at hreport
    · cases hreport
      exact namesNone_json _ _
    · cases hreport

theorem returns_onContent (request : Request) {next : Option Json → Program Response}
    (h : ∀ body, (next body).Returns env Response.NamesNone) :
    (onContent request next).Returns env Response.NamesNone := by
  unfold onContent
  cases request.content with
  | value body => exact h body
  | malformed error => exact Program.returns_finished (namesNone_reportMalformed error)
  | undecodable => exact Program.returns_finished (namesNone_json _ _)

theorem namesNone_render (r : TaskResult) : (render r).NamesNone := by
  cases r with
  | datasets | dataset => exact namesNone_data _
  | documents | saved | policies | deleted => exact namesNone_json _ _
  | started | stopped | database => exact namesNone_plainText _ _

theorem returns_perform (task : Task) : (perform task).Returns env Response.NamesNone :=
  Program.returns_seq fun r => Program.returns_finished (namesNone_render r)

theorem returns_answer (request : Request) (argument : String) (endpoint : Endpoint) :
    (answer request argument endpoint).Returns env Response.NamesNone := by
  cases endpoint with
  | listDatasets | deletePolicy => exact returns_perform _
  | getDataset | listPolicies => exact returns_onAccepted _ fun _ => returns_perform _
  | listPolicyTypes => exact Program.returns_finished (namesNone_json _ _)
  | generate | generateForDataset | savePolicy =>
    exact returns_onContent _ fun _ => returns_onAccepted _ fun _ => returns_perform _

theorem returns_dispatch (request : Request) :
    (dispatch request).Returns env Response.NamesNone := by
  unfold dispatch
  split
  · next endpoint argument _ =>
    refine (returns_answer request argument endpoint).recover fun failure => ?_
    cases failure with
    | refused refusal => exact Program.returns_finished (namesNone_json _ _)
    | _ => exact Program.returns_failed _
  · apply Program.returns_finished
    simp [Response.NamesNone, Response.Names, Response.withHeader, Response.detail, Response.json]
  · split
    · exact Program.returns_finished (namesNone_redirect _ _)
    · exact Program.returns_finished (namesNone_json _ _)

variable {origins : List String} {request : Request} {origin : String}

theorem mem_grant_iff {other : String} :
    ("access-control-allow-origin", origin) ∈ grant origins other ↔
      other = origin ∧ admits origins origin = true := by
  unfold grant
  by_cases h : admits origins other = true
  · rw [if_pos h]
    simp only [List.mem_cons, Prod.mk.injEq, String.reduceEq, false_and, true_and, false_or,
      List.not_mem_nil, or_false]
    constructor
    · rintro rfl
      exact ⟨rfl, h⟩
    · rintro ⟨rfl, -⟩
      rfl
  · rw [if_neg h]
    simp only [List.mem_singleton, Prod.mk.injEq, String.reduceEq, false_and, false_iff]
    rintro ⟨rfl, hadmits⟩
    exact h hadmits

theorem names_decorate_iff {response : Response} (h : response.NamesNone) :
    (decorate origins request response).Names origin ↔
      request.header? "origin" = some origin ∧ admits origins origin = true := by
  have hnot : ("access-control-allow-origin", origin) ∉
      (response.withHeader "vary" "Origin").headers := by
    have hresponse := h origin
    simpa [Response.Names, Response.withHeader] using hresponse
  unfold decorate
  cases horigin : request.header? "origin" with
  | none => simpa [Response.Names] using hnot
  | some other =>
    rw [Response.Names, List.mem_append, or_iff_right hnot, mem_grant_iff, Option.some.injEq]

theorem names_preflight_iff {other method : String} :
    (preflight origins request other method).Names origin ↔
      other = origin ∧ admits origins origin = true := by
  rw [← mem_grant_iff]
  unfold preflight Response.Names
  -- What the request announces and what it may not do decide on other headers alone.
  split <;> split <;> simp [Response.plainText]

theorem header?_of_preflight? {other method : String}
    (h : request.preflight? = some (other, method)) : request.header? "origin" = some other := by
  unfold Request.preflight? at h
  split at h
  · next horigin _ =>
    cases h
    exact horigin
  · cases h

/-- A response names the origin of its request if that is admitted, unless the request has failed
without an answer of the service. -/
theorem names_serve_iff (request : Request) (s : Session) :
    (serve env request s).1.response.Names origin ↔
      (serve env request s).1.raised = none ∧ request.header? "origin" = some origin ∧
        admits env.origins origin = true := by
  unfold serve respond
  cases hpreflight : request.preflight? with
  | some announced =>
    obtain ⟨other, method⟩ := announced
    rw [header?_of_preflight? hpreflight, Option.some.injEq]
    simp [names_preflight_iff]
  | none =>
    rw [Program.run_bind]
    cases hrun : (dispatch request).run env s with
    | mk result t =>
      cases result with
      | ok response =>
        have hnone := returns_dispatch request s response t hrun
        simp [names_decorate_iff hnone]
      | error failure =>
        have hnone := namesNone_plainText 500 "Internal Server Error" origin
        simp [hnone]

/-- Unless an item of the setting is a star, a response names an origin exactly if the request comes
from it, it is an item of the setting, and the service has answered. A setting of blanks and commas
admits no origin at all. -/
theorem only_listed_origins_admitted {setting : String} (horigins : env.origins = originsOf setting)
    (hstar : ¬ Lists setting anyOrigin) (request : Request) (s : Session) :
    (∀ origin, (serve env request s).1.response.Names origin ↔
      (serve env request s).1.raised = none ∧ request.header? "origin" = some origin ∧
        origin ≠ "" ∧ Lists setting origin) ∧
    ((∀ c ∈ setting.toList, Text.isBlank c = true ∨ c = ',') →
      (serve env request s).1.response.NamesNone) := by
  have hany : anyOrigin ∉ originsOf setting := fun h => hstar (mem_originsOf_iff.mp h).2
  have hadmits : ∀ origin,
      admits env.origins origin = true ↔ origin ≠ "" ∧ Lists setting origin := by
    intro origin
    rw [← mem_originsOf_iff, horigins]
    simp [admits, hany]
  have hnames : ∀ origin, (serve env request s).1.response.Names origin ↔
      (serve env request s).1.raised = none ∧ request.header? "origin" = some origin ∧
        origin ≠ "" ∧ Lists setting origin := by
    intro origin
    rw [names_serve_iff, hadmits]
  refine ⟨hnames, fun hblank origin h => ?_⟩
  obtain ⟨-, -, hne, hlists⟩ := (hnames origin).mp h
  exact hne (hlists.eq_empty hblank)

/-- An origin that is listed among blanks is named in the answer to a preflight request from it. One
that only starts with a listed origin is not. -/
theorem only_listed_origins_admitted_preflight :
    let setting := " https://a.example ,,https://b.example"
    let env : Environment := ⟨.standard, originsOf setting, Identifier.numbered, .counting 0⟩
    let s := Session.initial [] [] none (.error {})
    let request := fun origin : String => (⟨"OPTIONS", "/policies", "",
      [("Origin", origin), ("Access-Control-Request-Method", "POST")], ""⟩ : Request)
    ¬ Lists setting anyOrigin ∧
      (serve env (request "https://a.example") s).1.response.Names "https://a.example" ∧
      (serve env (request "https://a.example.org") s).1.response.NamesNone := by
  intro setting env s request
  have horigins : originsOf setting = ["https://a.example", "https://b.example"] := by
    decide +kernel
  have hstar : ¬ Lists setting anyOrigin := by
    intro h
    have hmem := mem_originsOf_iff.mpr ⟨by decide, h⟩
    rw [horigins] at hmem
    exact absurd hmem (by decide)
  have hlisted : "https://a.example" ≠ "" ∧ Lists setting "https://a.example" := by
    rw [← mem_originsOf_iff, horigins]
    decide
  have hsetting : env.origins = originsOf setting := rfl
  refine ⟨hstar, ?_, ?_⟩
  · obtain ⟨hnames, -⟩ :=
      only_listed_origins_admitted hsetting hstar (request "https://a.example") s
    have hraised : (serve env (request "https://a.example") s).1.raised = none :=
      Option.isNone_iff_eq_none.mp (by decide +kernel)
    exact (hnames _).mpr ⟨hraised, by decide +kernel, hlisted⟩
  · obtain ⟨hnames, -⟩ :=
      only_listed_origins_admitted hsetting hstar (request "https://a.example.org") s
    intro origin h
    obtain ⟨-, horigin, hother⟩ := (hnames origin).mp h
    rw [← mem_originsOf_iff, horigins] at hother
    have hsame : (request "https://a.example.org").header? "origin" =
        some "https://a.example.org" := by decide +kernel
    rw [hsame] at horigin
    cases horigin
    exact absurd hother (by decide)

end Http
end UsagePolicy
