import UsagePolicy.Service.Lifecycle
import UsagePolicy.Service.Policies

/-!
# Tasks

A request of a client and a call from inside lead to the same functions of the service. Once their
arguments have been checked, what is left of either is a task.
-/
namespace UsagePolicy

/-- What the service is asked to do, with arguments that have passed their checks. -/
inductive Task where
  | start
  | stop
  | database
  | listDatasets
  | findDataset (id : Int)
  | generate (request : GenerateRequest)
  | generateFor (datasetId : Int) (config : PolicyConfig)
  | save (request : SaveRequest)
  | listPolicies (datasetId : Int)
  | delete (reference : Policies.Reference)

inductive TaskResult where
  | started
  | stopped
  | database (settings : DatabaseSettings)
  | datasets (datasets : List Json)
  | dataset (dataset : Json)
  | documents (documents : Documents)
  | saved (id : PolicyId)
  | policies (entries : List PolicyEntry)
  | deleted
  deriving Repr

def Task.program : Task → Program TaskResult
  | start => do
    Lifecycle.start
    return .started
  | stop => do
    Lifecycle.stop
    return .stopped
  | database => do
    return .database (← Lifecycle.database)
  | listDatasets => do
    return .datasets (← Program.forEach Datasets.present (← Datasets.list))
  | findDataset id => do
    return .dataset (← Datasets.present (← Datasets.find id))
  | generate request => do
    return .documents (← Policies.generate request.dataset request.config request.issued)
  | generateFor datasetId config => do
    return .documents (← Policies.generateFor datasetId config)
  | save request => do
    return .saved (← Policies.save request)
  | listPolicies datasetId => do
    return .policies (← Policies.list datasetId)
  | delete reference => do
    Policies.delete reference
    return .deleted

end UsagePolicy
