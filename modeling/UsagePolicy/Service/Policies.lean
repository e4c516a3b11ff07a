import UsagePolicy.Service.Datasets

/-!
# Policies of datasets

Documents are generated for a dataset that is given or for one of the catalog. A policy is saved
with the documents generated from it, and saved policies are listed by dataset and deleted by
id.
-/
namespace UsagePolicy
namespace Policies

def now : Program Timestamp := do
  let time ← .ofExcept (fun _ => .dateOutOfRange) (← Program.operation .readClock)
  return time.toTimestamp

/-- Both documents; without a time of issue they are issued now. -/
def generate (dataset : Dataset) (config : PolicyConfig) (issued : Option Timestamp) :
    Program Documents := do
  let issued ← match issued with
    | some t => pure t
    | none => now
  .ofExcept GenerationFault.failure (Documents.generate dataset config issued)

def generateFor (datasetId : Int) (config : PolicyConfig) : Program Documents := do
  generate (← Datasets.find datasetId).dataset config none

/-- Stores a policy with the dataset as it is written. The database is not asked to store a dataset
that cannot be written. -/
def store (dataset : CatalogDataset) (policy : SavedPolicy) :
    Program (Except SaveFault PolicyId) := do
  match dataset.written? with
  | none => return .error .tooDeep
  | some written =>
    let stored ← Program.operation (.insertPolicy (policy.fieldsFor written))
    return stored.mapError .database

/-- Reports in the log whether a policy was stored, and returns the id it is stored under. -/
def report (datasetId : Int) (type : PolicyType) (stored : Except SaveFault PolicyId) :
    Program PolicyId := do
  let shown := String.ofList (Numeral.ofInt datasetId)
  match stored with
  | .error fault => do
    Program.operation (.log ("❌ [ERROR] Failed to save policy for dataset " ++ shown ++ ": " ++
      fault.message))
    .failed (.refused (.saveFailed fault))
  | .ok id => do
    Program.operation (.log ("✅ Policy saved for dataset " ++ shown ++ " (" ++ type.tag ++ ")"))
    return id

/-- Saves a policy for a dataset that was read from the catalog. -/
def saveOn (dataset : CatalogDataset) (config : PolicyConfig) : Program PolicyId := do
  let documents ← generate dataset.dataset config none
  let createdAt ← now
  Datasets.requireConnection
  report dataset.id config.type
    (← store dataset ⟨dataset.dataset, config, documents, createdAt⟩)

/-- Saves a policy for a dataset of the catalog and returns the id it is stored under. -/
def save (request : SaveRequest) : Program PolicyId := do
  saveOn (← Datasets.find request.datasetId) request.config

/-- The names that a stored policy has to have, in the order in which they are looked for. -/
def entryFields : List String :=
  ["dataset", "config", "idsPolicy", "odrlPolicy", "created_at"]

def entry (stored : StoredPolicy) : Program PolicyEntry := do
  let fields ← Program.forEach
    (fun name => (Datasets.fieldOf stored.document name).bind fun v => pure (name, v)) entryFields
  .ofChecked "SavedPolicyResponse"
    (PolicyEntry.check .values (.obj (("id", .str stored.id.text) :: fields)))

def list (datasetId : Int) : Program (List PolicyEntry) := do
  Datasets.requireConnection
  .forEach entry (← Datasets.access (← Program.operation (.listPolicies datasetId)))

inductive Reference where
  | text (id : String)
  | absent
  | other
  deriving DecidableEq, Repr

def readId (text : String) : Program PolicyId := do
  match ← Program.operation (.readId text) with
  | some id => return id
  | none => .failed (.refused .invalidPolicyId)

/-- The id that a reference stands for. An absent reference stands for an id that no policy has,
and what is neither absent nor a text of the right form is refused. -/
def Reference.resolve : Reference → Program (Option PolicyId)
  | text id => do return some (← readId id)
  | absent => .finished none
  | other => .failed (.refused .invalidPolicyId)

def delete (reference : Reference) : Program Unit := do
  let id ← reference.resolve
  Datasets.requireConnection
  if ← Datasets.access (← Program.operation (.deletePolicy id)) then return ()
  else .failed (.refused .policyNotFound)

end Policies
end UsagePolicy
