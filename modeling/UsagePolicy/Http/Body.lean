import UsagePolicy.Http.Message
import UsagePolicy.Schema.Models
import UsagePolicy.Text.Blank

/-!
# Request bodies

A body is read as JSON if its media type says so, and is a plain text otherwise. JSON may come
in any encoding of which its first bytes tell. A body that is no JSON text is refused before
anything else is checked; then the issues of the path and of the body are reported together.
-/
namespace UsagePolicy
namespace Http

open Schema

/-- The media type in a header's value: what comes before the parameters, in lower case. -/
def mediaType (value : String) : String :=
  let cs := value.toList.takeWhile (· != ';')
  (String.ofList (Text.trim Text.isBlank cs)).toLower

def isJsonType (mediaType : String) : Bool :=
  let subtype := mediaType.toList.drop "application/".length
  mediaType.startsWith "application/" && !subtype.contains '/' &&
    (subtype == "json".toList || "+json".toList.isSuffixOf subtype)

/-- What a body holds: a value, nothing, or what should be JSON and is no JSON text or, in the
encoding that it suggests, no text at all. -/
inductive Content where
  | value (v : Option Json)
  | malformed (error : Json.ReadError)
  | undecodable
  deriving DecidableEq, Repr

def bodyNestingLimit : Nat := 960

def Request.isJson (request : Request) : Bool :=
  ((request.header? "content-type").map mediaType).any isJsonType

def Request.content (request : Request) : Content :=
  if request.body = "" then .value none
  else if request.isJson then
    match Text.decode? request.body with
    | none => .undecodable
    | some cs =>
      match Json.parseChars (some bodyNestingLimit) cs with
      | .ok v => .value (some v)
      | .error e => .malformed e
  else .value (some (.str request.body))

/-- A body checked against a model; without a body the model is missing. -/
def checkBody {α : Type} (check : Source → Json → Checked α) (body : Option Json) : Checked α :=
  let checked : Checked α := match body with
    | none => .refuse .missing .null
    | some v => check .requestBody v
  checked.within (.field "body")

def checkDatasetId (argument : String) : Checked Int :=
  ((integer (.str argument)).within (.field "dataset_id")).within (.field "path")

def isHiddenName (name : String) : Bool :=
  "_sa".toList.isPrefixOf name.toList

/-- The report of issues to a client, without the hidden fields of what it echoes. A number that
is not finite cannot be echoed. -/
def reportIssues (issues : List Issue) : Except Failure Response :=
  let report := (Json.obj [("detail", .arr (issues.map Issue.toJson))]).withoutFields isHiddenName
  if report.allFinite then .ok (.json 422 report) else .error .notFinite

/-- The report of a body that could not be read for another reason than its form. -/
def unreadableBody : Response :=
  .detail 400 "There was an error parsing the body"

/-- The report of a body that is no JSON text. Only a fault of form is reported with its place. -/
def reportMalformed (error : Json.ReadError) : Response :=
  if error.fault.exceedsLimit then unreadableBody
  else
    .json 422 (.obj [("detail", .arr [Issue.toJson
      ⟨[.field "body", .index error.offset], .malformedJson error.fault, .obj []⟩])])

end Http
end UsagePolicy
