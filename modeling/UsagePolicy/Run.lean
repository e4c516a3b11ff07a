import UsagePolicy.Http.Server
import UsagePolicy.Service.Call

/-!
# Runs

A run takes a session through events in order: clients make requests, the service is called,
the clock is set, and the database is made to fail or another writer to act later on. Every
event has an answer, and the log of the session holds the lines that the last event reported.
The run of a sequence that continues another one continues its run.
-/
namespace UsagePolicy

inductive Event where
  | request (request : Http.Request)
  | call (call : Call)
  | setClock (reading : ClockReading)
  | expectFault (access : Access) (message : String)
  | expectWriter (writer : Writer)
  deriving Repr

/-- What an event leads to. An event that only prepares later ones has nothing to say. -/
inductive Answer where
  | exchange (exchange : Http.Exchange)
  | outcome (outcome : Except Failure TaskResult)
  | noted

namespace Session

/-- The answer to an event and the session after it. -/
def step (env : Environment) (s : Session) (event : Event) : Answer × Session :=
  let s := { s with log := [] }
  match event with
  | .request request =>
    let (exchange, s) := Http.serve env request s
    (.exchange exchange, s)
  | .call call =>
    let (outcome, s) := call.program.run env s
    (.outcome outcome, s)
  | .setClock reading => (.noted, { s with clock := reading })
  | .expectFault access message => (.noted, s.expectFault access message)
  | .expectWriter writer => (.noted, s.expectWriter writer)

/-- The answers to a sequence of events, each with the session after it. -/
def trace (env : Environment) (s : Session) : List Event → List (Answer × Session)
  | [] => []
  | event :: rest =>
    let reached := s.step env event
    reached :: reached.2.trace env rest

def after (env : Environment) (s : Session) (events : List Event) : Session :=
  events.foldl (fun s event => (s.step env event).2) s

theorem after_append (env : Environment) (s : Session) (events more : List Event) :
    s.after env (events ++ more) = (s.after env events).after env more := by
  simp [after]

theorem trace_append (env : Environment) (s : Session) (events more : List Event) :
    s.trace env (events ++ more) = s.trace env events ++ (s.after env events).trace env more := by
  induction events generalizing s with
  | nil => rfl
  | cons event rest ih => simp [trace, after, ih]

end Session
end UsagePolicy
