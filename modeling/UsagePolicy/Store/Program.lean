import UsagePolicy.Store.Session
import UsagePolicy.Text.Lines

/-!
# Programs

The service is written as programs over a fixed set of operations. A program has finished, has
failed, or performs one operation and goes on with its reply. Running a program in a session
performs its operations one after the other; each of them is one atomic step on the session, so
that programs can as well be stepped side by side.
-/
namespace UsagePolicy

/-- One atomic step on a session. -/
inductive Operation where
  | settings
  | client
  | handle
  | setClient (uri : Option String)
  | setHandle (database : Option DatabaseSettings)
  | drawIdentifier
  | readClock
  | readId (text : String)
  /-- Prints a text to the log, which keeps its lines. -/
  | log (text : String)
  | listRecords
  | findRecord (id : Int)
  | assignUuid (id : Int) (uuid : String)
  | listPolicies (datasetId : Int)
  | insertPolicy (document : Fields)
  | deletePolicy (id : Option PolicyId)
  deriving Repr

namespace Operation

/-- What an operation replies. Database operations reply with an error if they fail. -/
@[reducible] def Reply : Operation → Type
  | settings => DatabaseSettings
  | client => Option String
  | handle => Option DatabaseSettings
  | setClient _ => Unit
  | setHandle _ => Unit
  | drawIdentifier => String
  | readClock => ClockReading
  | readId _ => Option PolicyId
  | log _ => Unit
  | listRecords => Except DatabaseError (List Record)
  | findRecord _ => Except DatabaseError (Option Record)
  | assignUuid _ _ => Except DatabaseError Bool
  | listPolicies _ => Except DatabaseError (List StoredPolicy)
  | insertPolicy _ => Except DatabaseError PolicyId
  | deletePolicy _ => Except DatabaseError Bool

/-- Fails with the fault that is expected for the kind of access, else carries on. -/
def guarded {α : Type} (access : Access) (s : Session) (act : Session → α × Session) :
    Except DatabaseError α × Session :=
  match s.takeFault access with
  | (some message, s) => (.error (.fault message), s)
  | (none, s) =>
    let (a, s) := act s
    (.ok a, s)

/-- Removes the policy with an id, and tells whether there was one. -/
def removePolicy (policies : List StoredPolicy) (id : Option PolicyId) :
    List StoredPolicy × Bool :=
  match id with
  | none => (policies, false)
  | some id => (policies.eraseP (·.id == id), policies.any (·.id == id))

def perform (env : Environment) : (op : Operation) → Session → op.Reply × Session
  | .settings, s => (env.database, s)
  | client, s => (s.client, s)
  | handle, s => (s.handle, s)
  | setClient uri, s => ((), { s with client := uri })
  | setHandle database, s => ((), { s with handle := database })
  | drawIdentifier, s => (env.identifier (s.drawn + 1), { s with drawn := s.drawn + 1 })
  | readClock, s => (s.clock, s)
  | readId text, s => (env.server.readId text, s)
  | log text, s => ((), { s with log := s.log ++ Text.printedLines text })
  | listRecords, s => guarded .find s fun s => (s.catalog, s)
  | findRecord id, s =>
    match guarded .findOne s fun s => (s.catalog.findId? env.server.arrays id, s) with
    | (.ok found, s) => if tooWide id then (.error .integerTooWide, s) else (.ok found, s)
    | (.error e, s) => (.error e, s)
  | assignUuid id uuid, s =>
    if tooWide id then (.error .integerTooWide, s)
    else
      guarded .update s fun s =>
        let s := s.admitWriter env.server.arrays id
        let (catalog, assigned) := s.catalog.assign env.server.arrays id uuid
        (assigned, { s with catalog })
  | listPolicies datasetId, s =>
    if tooWide datasetId then (.error .integerTooWide, s)
    else guarded .find s fun s => (env.server.policiesFor s.policies datasetId, s)
  | insertPolicy document, s =>
    match env.server.insertFault? document with
    | some error => (.error error, s)
    | none =>
      guarded .insert s fun s =>
        let id := env.server.policyId s.inserted
        (id, { s with policies := s.policies ++ [⟨id, document⟩], inserted := s.inserted + 1 })
  | deletePolicy id, s =>
    guarded .delete s fun s =>
      let (policies, removed) := removePolicy s.policies id
      (removed, { s with policies })

end Operation

inductive Program (α : Type) where
  | finished (value : α)
  | failed (failure : Failure)
  | perform (op : Operation) (next : op.Reply → Program α)

namespace Program

def bind {α β : Type} : Program α → (α → Program β) → Program β
  | finished value, f => f value
  | failed failure, _ => failed failure
  | perform op next, f => perform op fun reply => (next reply).bind f

instance : Monad Program where
  pure := finished
  bind := bind

def operation (op : Operation) : Program op.Reply :=
  perform op finished

def ofExcept {α ε : Type} (failure : ε → Failure) : Except ε α → Program α
  | .ok a => finished a
  | .error e => failed (failure e)

/-- A checked value, or failure with the issues of the named model. -/
def ofChecked {α : Type} (model : String) : Checked α → Program α
  | .accepted a => finished a
  | .refused issues => failed (.invalid model issues)

def forEach {α β : Type} (f : α → Program β) : List α → Program (List β)
  | [] => finished []
  | a :: rest => (f a).bind fun b => (forEach f rest).bind fun bs => finished (b :: bs)

def recover {α : Type} (handler : Failure → Program α) : Program α → Program α
  | finished value => finished value
  | failed failure => handler failure
  | perform op next => perform op fun reply => (next reply).recover handler

def run {α : Type} (env : Environment) : Program α → Session → Except Failure α × Session
  | finished value, s => (.ok value, s)
  | failed failure, s => (.error failure, s)
  | perform op next, s =>
    let (reply, s) := op.perform env s
    (next reply).run env s

theorem run_bind {α β : Type} (env : Environment) (p : Program α) (f : α → Program β)
    (s : Session) :
    (p.bind f).run env s =
      match p.run env s with
      | (.ok a, s) => (f a).run env s
      | (.error e, s) => (.error e, s) := by
  induction p generalizing s with
  | finished value => rfl
  | failed failure => rfl
  | perform op next ih => exact ih _ _

end Program
end UsagePolicy
