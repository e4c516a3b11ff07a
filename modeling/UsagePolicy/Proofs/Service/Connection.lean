import UsagePolicy.Proofs.Policies.Listing
import UsagePolicy.Proofs.Service.Effects

/-!
# The connection to the database

Only starting and stopping the service set the client or the handle on the database, one after the
other. Between two tasks there is a client exactly if there is a handle, which is on the database
that the client is connected to. So the last start or stop of a run decides whether there is a
client after it, whoever asks for the database gets it exactly if there is one, and stopping reports
that a connection was closed exactly then.
-/
namespace UsagePolicy

variable {env : Environment} {s t : Session} {event : Event}

/-- Whether the database is open after these events: whether the last start or stop among them is a
start. -/
def isOpenAfter (events : List Event) : Bool :=
  (events.filterMap Event.opens?).getLast?.getD false

def Environment.handle (env : Environment) (isOpen : Bool) : Option DatabaseSettings :=
  if isOpen then some env.database else none

namespace Session

structure SameConnection (s t : Session) : Prop where
  client : t.client = s.client
  handle : t.handle = s.handle

/-- If there is a handle, it is on the database of the client, and if there is none, there is no
client either. -/
def Coupled (s : Session) : Prop :=
  s.client = s.handle.map (·.uri)

theorem Untouched.sameConnection (h : s.Untouched t) : s.SameConnection t :=
  ⟨h.client, h.handle⟩

theorem coupled_initial (catalog : Catalog) (policies : List StoredPolicy)
    (handle : Option DatabaseSettings) (clock : ClockReading) :
    (initial catalog policies handle clock).Coupled :=
  rfl

theorem SameConnection.coupled (h : s.SameConnection t) (hs : s.Coupled) : t.Coupled := by
  rw [Coupled, h.client, h.handle]
  exact hs

end Session

namespace Policies

theorem sameConnection_save (env : Environment) (request : SaveRequest) (s : Session) :
    s.SameConnection ((save request).run env s).2 := by
  rcases run_save_cases env request s with
    ⟨failure, t, hrun, ht⟩ | ⟨c, u, p, written, t, -, -, -, -, hrun, ht⟩
  · rw [hrun]
    exact ht.sameConnection
  · rw [hrun]
    exact ⟨ht.client, ht.handle⟩

theorem sameConnection_delete (env : Environment) (reference : Reference) (s : Session) :
    s.SameConnection ((delete reference).run env s).2 := by
  rcases run_delete_cases env reference s with ⟨failure, t, hrun, ht⟩ | ⟨id, -, -, hrun⟩
  · rw [hrun]
    exact ht.sameConnection
  · rw [hrun]
    exact ⟨rfl, rfl⟩

end Policies

namespace Session

theorem sameConnection_run {task : Task} (h : task.opens? = none) (env : Environment)
    (s : Session) : s.SameConnection (task.program.run env s).2 := by
  cases task with
  | start | stop => cases h
  | save request =>
    exact Program.session_run_seq (P := s.SameConnection)
      (Policies.sameConnection_save env request s) fun _ _ _ h => h
  | delete reference =>
    exact Program.session_run_seq (P := s.SameConnection)
      (Policies.sameConnection_delete env reference s) fun _ _ _ h => h
  | database | listDatasets | findDataset | generate | generateFor | listPolicies =>
    refine (Task.OnlyReads.untouched_run ?_ env s).sameConnection
    trivial

/-- Stopping clears the client and the handle, whichever of the two there are. -/
theorem disconnected_run_stop (env : Environment) (s : Session) :
    (Task.stop.program.run env s).2.client = none ∧
      (Task.stop.program.run env s).2.handle = none := by
  obtain ⟨catalog, policies, client, handle, clock, drawn, inserted, faults, writers, log⟩ := s
  cases client <;> exact ⟨rfl, rfl⟩

theorem handle_run (env : Environment) (task : Task) (s : Session) :
    (task.program.run env s).2.handle = (task.opens?.map env.handle).getD s.handle := by
  cases task with
  | start => rfl
  | stop => exact (disconnected_run_stop env s).2
  | _ => exact (sameConnection_run rfl env s).handle

/-- A task that is run to its end leaves the client and the handle coupled. Between the two writes
of starting or stopping they are not. -/
theorem coupled_run (env : Environment) (task : Task) (hs : s.Coupled) :
    (task.program.run env s).2.Coupled := by
  cases task with
  | start => rfl
  | stop =>
    obtain ⟨hclient, hhandle⟩ := disconnected_run_stop env s
    rw [Coupled, hclient, hhandle]
    rfl
  | _ => exact (sameConnection_run rfl env s).coupled hs

theorem handle_step (env : Environment) (s : Session) (event : Event) :
    (s.step env event).2.handle = (event.opens?.map env.handle).getD s.handle := by
  rw [Event.opens?_eq]
  cases htask : event.task? with
  | some task =>
    rw [step_task htask]
    exact handle_run env task s.cleared
  | none =>
    rw [step_no_task htask]
    cases event <;> rfl

theorem coupled_step (env : Environment) (hs : s.Coupled) (event : Event) :
    (s.step env event).2.Coupled := by
  cases htask : event.task? with
  | some task =>
    rw [step_task htask]
    exact coupled_run env task hs
  | none =>
    rw [step_no_task htask]
    cases event <;> exact hs

theorem coupled_after (env : Environment) (hs : s.Coupled) (events : List Event) :
    (s.after env events).Coupled := by
  induction events generalizing s with
  | nil => exact hs
  | cons event rest ih => exact ih (coupled_step env hs event)

theorem connected_step (env : Environment) (hstop : event.opens? ≠ some false)
    (hconnected : s.handle.isSome = true) :
    (s.step env event).2.handle.isSome = true := by
  rw [handle_step]
  cases hopens : event.opens? with
  | none => exact hconnected
  | some isOpen =>
    cases isOpen with
    | true => rfl
    | false => exact absurd hopens hstop

/-- The last start or stop of a run decides on the handle. -/
theorem handle_after (env : Environment) (s : Session) (events : List Event) :
    (s.after env events).handle =
      ((events.filterMap Event.opens?).getLast?.map env.handle).getD s.handle := by
  induction events generalizing s with
  | nil => rfl
  | cons event rest ih =>
    change ((s.step env event).2.after env rest).handle = _
    rw [ih, handle_step, List.filterMap_cons]
    cases event.opens? with
    | none => rfl
    | some isOpen =>
      rw [List.getLast?_cons]
      cases (rest.filterMap Event.opens?).getLast? <;> rfl

theorem handle_after_of_none (hs : s.handle = none) (env : Environment) (events : List Event) :
    (s.after env events).handle = env.handle (isOpenAfter events) := by
  have hclosed : s.handle = env.handle false := hs
  rw [handle_after, hclosed, Option.getD_map, isOpenAfter]

/-- If there was neither a client nor a handle before, there is a client while the database is
open. -/
theorem client_after_of_none (hclient : s.client = none) (hhandle : s.handle = none)
    (env : Environment) (events : List Event) :
    (s.after env events).client = (env.handle (isOpenAfter events)).map (·.uri) := by
  have hs : s.Coupled := by
    rw [Coupled, hclient, hhandle]
    rfl
  have hcoupled := coupled_after env hs events
  rwa [Coupled, handle_after_of_none hhandle] at hcoupled

theorem step_database (env : Environment) (s : Session) :
    (s.step env (.call .database)).1 = .outcome (match s.handle with
      | some settings => .ok (.database settings)
      | none => .error .notConnected) := by
  obtain ⟨catalog, policies, client, handle, clock, drawn, inserted, faults, writers, log⟩ := s
  cases handle <;> rfl

theorem log_step_stop (env : Environment) (s : Session) :
    (s.step env (.call .stop)).2.log =
      if s.client.isSome then ["ℹ️ MongoDB connection closed."] else [] := by
  obtain ⟨catalog, policies, client, handle, clock, drawn, inserted, faults, writers, log⟩ := s
  have hprinted : Text.printedLines "ℹ️ MongoDB connection closed." =
      ["ℹ️ MongoDB connection closed."] := by decide +kernel
  cases client with
  | none => rfl
  | some uri => exact hprinted

end Session
end UsagePolicy
