import UsagePolicy.Proofs.Policies.Routes
import UsagePolicy.Proofs.Service.Connection

/-!
# Requests without a connection

A request that comes while the service is not connected to the database changes nothing. Either it
does not need the database, and then it is answered as it would be with a connection, or the client
is told of an internal error. With what starting and stopping do to the connection, this tells who
can reach the database at any point of a run.
-/
namespace UsagePolicy

variable {env : Environment} {s : Session} {task : Task} {request : Http.Request}

/-- The task looks something up in the database or changes something there. A text that the driver
does not accept for an id is refused before that. -/
def Task.NeedsDatabase (env : Environment) : Task → Prop
  | start | stop | generate _ | delete .other => False
  | delete (.text id) => (env.server.readId id).isSome = true
  | database | listDatasets | findDataset _ | generateFor _ _ | save _ | listPolicies _
  | delete .absent => True

/-- The request leads to a task that needs the database. One that asks for the types of policies or
for documents of a dataset that comes with it, that is malformed, or that leads nowhere does not. -/
def Http.Request.NeedsDatabase (env : Environment) (request : Request) : Prop :=
  ∃ task, request.task? = some task ∧ task.NeedsDatabase env

namespace Session

/-- The session with the database open and nothing about to fail in it. -/
def opened (env : Environment) (s : Session) : Session :=
  { s with client := some env.database.uri, handle := some env.database, faults := [] }

/-- The request changes nothing and is answered as it would be with the database open, where it
changes nothing either. -/
structure AnsweredApart (env : Environment) (s : Session) (request : Http.Request) : Prop where
  answer : (s.step env (.request request)).1 = ((s.opened env).step env (.request request)).1
  unchanged : (s.step env (.request request)).2 = s.cleared
  unchangedOpened : ((s.opened env).step env (.request request)).2 = (s.opened env).cleared

/-- The request changes nothing, and the client is told of an internal error: there is no
connection. -/
structure FailsClosed (env : Environment) (s : Session) (request : Http.Request) : Prop where
  answer : (s.step env (.request request)).1 =
    .exchange ⟨.plainText 500 "Internal Server Error", some .notConnected⟩
  unchanged : (s.step env (.request request)).2 = s.cleared

/-- Without a connection a task that needs the database fails before it does anything. -/
theorem run_closed (hs : s.handle = none) (h : task.NeedsDatabase env) :
    task.program.run env s = (.error .notConnected, s) := by
  have hrequire : Datasets.requireConnection.run env s = (.error .notConnected, s) := by
    rw [Datasets.run_requireConnection, hs]
    rfl
  have hfind : ∀ id, (Datasets.find id).run env s = (.error .notConnected, s) :=
    fun id => Program.run_seq_of_error hrequire _
  have hdelete : ∀ id, (Policies.deleteId id).run env s = (.error .notConnected, s) :=
    fun id => Program.run_seq_of_error hrequire _
  cases task with
  | start | stop | generate => exact h.elim
  | database =>
    obtain ⟨catalog, policies, client, handle, clock, drawn, inserted, faults, writers, log⟩ := s
    obtain rfl : handle = none := hs
    rfl
  | listDatasets => exact Program.run_seq_of_error (Program.run_seq_of_error hrequire _) _
  | findDataset id => exact Program.run_seq_of_error (hfind id) _
  | generateFor datasetId config =>
    exact Program.run_seq_of_error (Program.run_seq_of_error (hfind datasetId) _) _
  | save request =>
    exact Program.run_seq_of_error (Program.run_seq_of_error (hfind request.datasetId) _) _
  | listPolicies datasetId => exact Program.run_seq_of_error (Program.run_seq_of_error hrequire _) _
  | delete reference =>
    refine Program.run_seq_of_error ?_ _
    cases reference with
    | other => exact h.elim
    | absent => exact hdelete none
    | text text =>
      obtain ⟨id, hid⟩ := Option.isSome_iff_exists.mp h
      rw [Policies.run_delete_text, hid]
      exact hdelete (some id)

/-- What a task comes to that neither needs the database nor starts or stops the service depends on
the clock alone, and it changes nothing. -/
theorem exists_outcome_of_not_needsDatabase (hopens : task.opens? = none)
    (h : ¬ task.NeedsDatabase env) (clock : ClockReading) :
    ∃ outcome, ∀ s : Session, s.clock = clock → task.program.run env s = (outcome, s) := by
  cases task with
  | start | stop => cases hopens
  | database | listDatasets | findDataset | generateFor | save | listPolicies =>
    exact absurd trivial h
  | generate g =>
    have hprogram : (Task.generate g).program =
        Policies.generate g.dataset g.config g.issued >>= fun documents =>
          pure (.documents documents) := rfl
    refine ⟨((g.issueTime clock >>= Documents.generate g.dataset g.config).mapError
      GenerationFault.failure).map .documents, fun s hclock => ?_⟩
    rw [hprogram, Program.run_seq, run_generate_request, hclock]
    cases g.issueTime clock >>= Documents.generate g.dataset g.config <;> rfl
  | delete reference =>
    cases reference with
    | absent => exact absurd trivial h
    | other => exact ⟨.error (.refused .invalidPolicyId), fun s _ => rfl⟩
    | text text =>
      have hnone : env.server.readId text = none := by simpa [Task.NeedsDatabase] using h
      refine ⟨.error (.refused .invalidPolicyId), fun s _ => Program.run_seq_of_error ?_ _⟩
      rw [Policies.run_delete_text, hnone]

theorem step_of_serve {exchange : Http.Exchange} {t : Session}
    (h : Http.serve env request s.cleared = (exchange, t)) :
    s.step env (.request request) = (.exchange exchange, t) := by
  have hstep : s.step env (.request request) =
      ((Http.serve env request s.cleared).map .exchange id) := rfl
  rw [hstep, h]
  rfl

theorem exists_exchange_of_not_needsDatabase (h : ¬ request.NeedsDatabase env)
    (clock : ClockReading) :
    ∃ exchange, ∀ s : Session, s.clock = clock →
      s.step env (.request request) = (.exchange exchange, s.cleared) := by
  cases htask : request.task? with
  | none =>
    obtain ⟨exchange, hserve⟩ := Http.exists_exchange_of_no_task htask env
    exact ⟨exchange, fun s _ => step_of_serve (hserve s.cleared)⟩
  | some task =>
    have hneeds : ¬ task.NeedsDatabase env := fun hneeds => h ⟨task, htask, hneeds⟩
    have hopens := Http.Request.opens?_of_task? htask
    obtain ⟨outcome, hrun⟩ := exists_outcome_of_not_needsDatabase hopens hneeds clock
    refine ⟨Http.exchange env.origins request outcome, fun s hclock => step_of_serve ?_⟩
    rw [Http.serve_task htask, hrun s.cleared hclock]

theorem answeredApart (h : ¬ request.NeedsDatabase env) (s : Session) :
    s.AnsweredApart env request := by
  obtain ⟨exchange, hstep⟩ := exists_exchange_of_not_needsDatabase h s.clock
  have hclosed := hstep s rfl
  have hopened := hstep (s.opened env) rfl
  exact ⟨by rw [hclosed, hopened], by rw [hclosed], by rw [hopened]⟩

theorem failsClosed (hs : s.handle = none) (h : request.NeedsDatabase env) :
    s.FailsClosed env request := by
  obtain ⟨task, htask, hneeds⟩ := h
  have hrun := run_closed (s := s.cleared) hs hneeds
  have hserve : Http.serve env request s.cleared =
      (⟨.plainText 500 "Internal Server Error", some .notConnected⟩, s.cleared) := by
    rw [Http.serve_task htask, hrun]
    rfl
  have hstep := step_of_serve hserve
  exact ⟨by rw [hstep], by rw [hstep]⟩

/-- After any events there is a client exactly if the database is open, whoever asks for the
database gets it exactly then, and stopping reports that a connection was closed exactly if there
was a client. While the database is not open, a request that needs it fails and any other one is
answered as if it were open, and neither changes anything. -/
theorem access_follows_lifecycle (hclient : s.client = none) (hhandle : s.handle = none)
    (env : Environment) (events : List Event) :
    let t := s.after env events
    t.client.isSome = isOpenAfter events ∧
    (t.step env (.call .database)).1 = .outcome
      (if isOpenAfter events then .ok (.database env.database) else .error .notConnected) ∧
    (t.step env (.call .stop)).2.log =
      (if t.client.isSome then ["ℹ️ MongoDB connection closed."] else []) ∧
    (isOpenAfter events = false → ∀ request : Http.Request,
      (¬ request.NeedsDatabase env → t.AnsweredApart env request) ∧
      (request.NeedsDatabase env → t.FailsClosed env request)) := by
  intro t
  have hopen : t.handle = env.handle (isOpenAfter events) := handle_after_of_none hhandle env events
  refine ⟨?_, ?_, log_step_stop env t, ?_⟩
  · rw [client_after_of_none hclient hhandle]
    cases isOpenAfter events <;> rfl
  · rw [step_database, hopen]
    cases isOpenAfter events <;> rfl
  · intro hclosed request
    have hnone : t.handle = none := by rw [hopen, hclosed]; rfl
    exact ⟨fun hneeds => answeredApart hneeds t, failsClosed hnone⟩

/-- Once the service has been stopped, the catalog cannot be listed, and a deletion by a text that
is no id is refused as before. -/
theorem access_follows_lifecycle_stopped :
    let env := Sample.environment
    let s := Session.initial [] [] none (.ok (Sample.noon 0 0))
    let listing : Http.Request := ⟨"GET", "/datasets", "", [], ""⟩
    let deletion : Http.Request := ⟨"DELETE", "/policies/x", "", [], ""⟩
    let events : List Event := [.call .start, .request listing, .call .stop, .request deletion]
    let t := s.after env events
    s.client = none ∧ s.handle = none ∧ isOpenAfter (events.take 2) = true ∧
      isOpenAfter events = false ∧
      (s.after env (events.take 2)).client.isSome = true ∧
      t.FailsClosed env listing ∧ t.AnsweredApart env deletion := by
  intro env s listing deletion events t
  have hlisting : listing.task? = some .listDatasets := by
    have hleads : listing.LeadsTo .listDatasets "" := ⟨by decide +kernel, by decide +kernel⟩
    exact hleads.task?_eq
  have hdeletion : deletion.task? = some (.delete (.text "x")) := by
    have hleads : deletion.LeadsTo .deletePolicy "x" := ⟨by decide +kernel, by decide +kernel⟩
    exact hleads.task?_eq
  have hneeds : ¬ deletion.NeedsDatabase env := by
    rintro ⟨task, htask, hneeds⟩
    obtain rfl := Option.some_inj.mp (hdeletion.symm.trans htask)
    have hnone : env.server.readId "x" = none := by decide +kernel
    simp [Task.NeedsDatabase, hnone] at hneeds
  obtain ⟨hopen, -⟩ := access_follows_lifecycle (s := s) rfl rfl env (events.take 2)
  obtain ⟨-, -, -, hclosed⟩ := access_follows_lifecycle (s := s) rfl rfl env events
  exact ⟨rfl, rfl, rfl, rfl, hopen, (hclosed rfl listing).2 ⟨_, hlisting, trivial⟩,
    (hclosed rfl deletion).1 hneeds⟩

end Session
end UsagePolicy
