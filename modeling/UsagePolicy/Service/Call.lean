import UsagePolicy.Service.Task

/-!
# Calls

Beside the requests of clients the service can be called from inside. A call names one function
of the service with its arguments; policies to be generated or saved come as JSON values and are
checked first.
-/
namespace UsagePolicy

inductive Call where
  | start
  | stop
  | database
  | listDatasets
  | findDataset (id : Int)
  | generateFor (datasetId : Int) (config : Json)
  | savePolicy (request : Json)
  | listPolicies (datasetId : Int)
  | deletePolicy (reference : Policies.Reference)
  deriving Repr

/-- The program that a call runs: that of its task, once the arguments have been checked. -/
def Call.program : Call → Program TaskResult
  | start => Task.start.program
  | stop => Task.stop.program
  | database => Task.database.program
  | listDatasets => Task.listDatasets.program
  | findDataset id => (Task.findDataset id).program
  | generateFor datasetId config => do
    let config ← .ofChecked "PolicyConfigRequest" (PolicyConfig.checkForm .values config)
    (Task.generateFor datasetId config).program
  | savePolicy request => do
    let request ← .ofChecked "SavePolicyRequest" (SaveRequest.check .values request)
    (Task.save request).program
  | listPolicies datasetId => (Task.listPolicies datasetId).program
  | deletePolicy reference => (Task.delete reference).program

end UsagePolicy
