import UsagePolicy.Http.Body
import UsagePolicy.Http.Origin
import UsagePolicy.Http.Route
import UsagePolicy.Service.Task

/-!
# Answering requests

Each endpoint checks its input, performs a task and writes the result as JSON. Refusals of the
service are answered with their status. Any other failure ends the request, and the client is
told no more than that there was one.
-/
namespace UsagePolicy
namespace Http

def onAccepted {α : Type} (checked : Checked α) (next : α → Program Response) :
    Program Response :=
  match checked with
  | .accepted a => next a
  | .refused issues => .ofExcept id (reportIssues issues)

/-- Goes on with the content of the body, or reports that it could not be read. -/
def onContent (request : Request) (next : Option Json → Program Response) :
    Program Response :=
  match request.content with
  | .value body => next body
  | .malformed error => .finished (reportMalformed error)
  | .undecodable => .finished unreadableBody

/-- What a task has returned as a response. No request starts or stops the service or asks for its
database. -/
def render : TaskResult → Response
  | .datasets ds => .data (.arr ds)
  | .dataset d => .data d
  | .documents documents => .json 200 documents.toJson
  | .saved id => .json 201 (.obj [("message", .str "Policy saved"), ("id", .str id.text)])
  | .policies entries => .json 200 (.arr (entries.map PolicyEntry.toJson))
  | .deleted => .json 200 (.obj [("message", .str "Policy deleted successfully")])
  | .started | .stopped | .database _ => .plainText 200 ""

def perform (task : Task) : Program Response := do
  return render (← task.program)

/-- The endpoint's answer to a request, with the argument that the path gives. -/
def answer (request : Request) (argument : String) : Endpoint → Program Response
  | .listDatasets => perform .listDatasets
  | .getDataset => onAccepted (checkDatasetId argument) fun id => perform (.findDataset id)
  | .listPolicyTypes =>
    .finished (.json 200 (.arr (PolicyTypeOption.all.map PolicyTypeOption.toJson)))
  | .generate =>
    onContent request fun body =>
      onAccepted (checkBody GenerateRequest.check body) fun r => perform (.generate r)
  | .generateForDataset =>
    onContent request fun body =>
      onAccepted ((checkDatasetId argument).both (checkBody PolicyConfig.checkForm body))
        fun (id, config) => perform (.generateFor id config)
  | .savePolicy =>
    onContent request fun body =>
      onAccepted (checkBody SaveRequest.check body) fun r => perform (.save r)
  | .listPolicies => onAccepted (checkDatasetId argument) fun id => perform (.listPolicies id)
  | .deletePolicy => perform (.delete (.text argument))

def answerFailure : Failure → Program Response
  | .refused refusal => .finished (.detail refusal.status refusal.detail)
  | failure => .failed failure

/-- The answer to a request that is not a preflight request. -/
def dispatch (request : Request) : Program Response :=
  match destination request.method request.path with
  | .endpoint endpoint argument => (answer request argument endpoint).recover answerFailure
  | .otherMethod allowed =>
    .finished ((Response.detail 405 "Method Not Allowed").withHeader "allow" allowed)
  | .nowhere =>
    match redirectPath? request.path with
    | some path => .finished (redirect request path)
    | none => .finished (.detail 404 "Not Found")

/-- The answer to any request when these origins are admitted. -/
def respond (origins : List String) (request : Request) : Program Response :=
  match request.preflight? with
  | some (origin, method) => .finished (preflight origins request origin method)
  | none => (dispatch request).bind fun response => .finished (decorate origins request response)

def serve (env : Environment) (request : Request) (s : Session) : Exchange × Session :=
  match (respond env.origins request).run env s with
  | (.ok response, s) => (⟨response, none⟩, s)
  | (.error failure, s) => (⟨.plainText 500 "Internal Server Error", some failure⟩, s)

end Http
end UsagePolicy
