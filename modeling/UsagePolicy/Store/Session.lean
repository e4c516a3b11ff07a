import UsagePolicy.Calendar.Timestamp
import UsagePolicy.Store.Catalog
import UsagePolicy.Store.Document
import UsagePolicy.Store.Policies

/-!
# Sessions

The state in which the service runs: the two collections of the database, the client that is
connected to it and the handle on the database that the client gave, the clock, and how many
identifiers and policy ids have been given out. The database may be about to fail, and other writers
may be about to change a record of the catalog.
-/
namespace UsagePolicy

structure DatabaseSettings where
  uri : String
  name : String
  deriving DecidableEq, Repr

def DatabaseSettings.standard : DatabaseSettings :=
  ⟨"mongodb://localhost:27017", "policy_studio"⟩

/-- What the database and its driver decide on their own: the id that a policy is stored under after
so many others, the id that a text stands for if it is accepted as one, the order of listings,
whether filters enter arrays, and what is wrong with a document that is too large. -/
structure Server where
  policyId : Nat → PolicyId
  readId : String → Option PolicyId
  order : Arrangement
  arrays : Bool
  sizeFault? : Fields → Option String

namespace Server

/-- No id is given out twice. -/
def FreshIds (server : Server) : Prop :=
  ∀ m n, server.policyId m = server.policyId n → m = n

/-- What is documented on the texts that stand for ids: one of 24 hexadecimal digits stands for its
number, and one that has another length or contains anything but such digits and blanks is refused.
Nothing is known of digits with blanks among them. -/
structure ReadsIds (server : Server) : Prop where
  digits : ∀ text id, PolicyId.ofText? text = some id → server.readId text = some id
  length : ∀ text, text.length ≠ 24 → server.readId text = none
  characters : ∀ text, ∀ c ∈ text.toList, (Text.hexValue? c).isNone = true →
    PolicyId.isFiller c = false → server.readId text = none

def policiesFor (server : Server) (policies : List StoredPolicy) (datasetId : Int) :
    List StoredPolicy :=
  server.order.arrange (policies.filter (·.concerns server.arrays datasetId))

/-- Why a document cannot be inserted: the first thing in it that cannot be held, else its size. -/
def insertFault? (server : Server) (document : Fields) : Option DatabaseError :=
  (Json.obj document).storageFault?.or ((server.sizeFault? document).map .tooLarge)

end Server

/-- What stays the same while the service runs: the database to connect to, the admitted origins,
the source of identifiers, which gives the first one for 1, and the ways of the database. -/
structure Environment where
  database : DatabaseSettings
  origins : List String
  identifier : Nat → String
  server : Server

/-- The kinds of database operation that can be made to fail. -/
inductive Access where
  | find
  | findOne
  | update
  | insert
  | delete
  deriving DecidableEq, Repr

/-- Another writer that acts when the service next assigns an identifier to the record with the
id: it sets the record's identifier, or removes the record if it has none to set. -/
structure Writer where
  id : Int
  uuid : Option Json
  deriving Repr

/-- What a clock shows: the time, unless universal time has left the calendar. -/
abbrev ClockReading := Except DateOutOfRange UniversalTime

structure Session where
  catalog : Catalog
  policies : List StoredPolicy
  client : Option String
  handle : Option DatabaseSettings
  clock : ClockReading
  drawn : Nat
  inserted : Nat
  faults : List (Access × String)
  writers : List Writer
  log : List String
  deriving Repr

namespace Session

/-- A session in which nothing has been given out and nothing is about to go wrong, with a client
for the database that there is a handle on, if there is one. -/
def initial (catalog : Catalog) (policies : List StoredPolicy)
    (handle : Option DatabaseSettings) (clock : ClockReading) : Session :=
  { catalog, policies, client := handle.map (·.uri), handle, clock, drawn := 0, inserted := 0,
    faults := [], writers := [], log := [] }

/-- The next operation of a kind is to fail with a message; it replaces an earlier message. -/
def expectFault (s : Session) (access : Access) (message : String) : Session :=
  { s with faults := (access, message) :: s.faults.filter (·.1 != access) }

/-- The message with which the operation fails, which is then used up. -/
def takeFault (s : Session) (access : Access) : Option String × Session :=
  match s.faults.lookup access with
  | some message => (some message, { s with faults := s.faults.filter (·.1 != access) })
  | none => (none, s)

/-- A writer is to act; it replaces an earlier one for the same id. -/
def expectWriter (s : Session) (writer : Writer) : Session :=
  { s with writers := writer :: s.writers.filter (·.id != writer.id) }

/-- Lets the writer for an id act, if there is one, and uses it up. -/
def admitWriter (entersArrays : Bool) (s : Session) (id : Int) : Session :=
  match s.writers.find? (·.id == id) with
  | none => s
  | some writer =>
    let catalog := match writer.uuid with
      | some uuid => s.catalog.overwrite entersArrays id uuid
      | none => s.catalog.remove entersArrays id
    { s with catalog, writers := s.writers.filter (·.id != id) }

end Session
end UsagePolicy
