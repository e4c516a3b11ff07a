import UsagePolicy.Calendar.Timestamp
import UsagePolicy.Json.Basic
import UsagePolicy.Policy.Basic

/-!
# Agreements in the Open Digital Rights Language

The agreement on a dataset, with its time of issue. As in a contract agreement the selected
restriction either constrains the one permission or names its assignee, and has no effect when
its parameters are missing.
-/
namespace UsagePolicy
namespace Odrl

/-- The assignee of a permission that is not restricted to a consumer. -/
def defaultAssignee : String := "http://example.com/ids/party/data-consumer"

def assigner : String := "http://example.com/ids/party/data-provider"

inductive RightOperand where
  | text (value : String)
  | dateTime (value : String)
  | count (value : Int)
  deriving DecidableEq, Repr

structure Constraint where
  leftOperand : String
  operator : String
  rightOperand : RightOperand
  deriving DecidableEq, Repr

def constraints (config : PolicyConfig) : List Constraint :=
  match config.type with
  | .restrictConsumer => []
  | .restrictConnector =>
    match config.connectors with
    | [] => []
    | connector :: _ => [⟨"connector", "eq", .text connector⟩]
  | .timeLimit =>
    if config.startTime ≠ "" ∧ config.endTime ≠ "" then
      [⟨"dateTime", "gteq", .dateTime config.startTime⟩,
        ⟨"dateTime", "lteq", .dateTime config.endTime⟩]
    else []
  | .usageCount =>
    match config.maxUsageCount with
    | none => []
    | some count => if count = 0 then [] else [⟨"count", "lteq", .count count⟩]

def assignee (config : PolicyConfig) : String :=
  match config.type, config.consumers with
  | .restrictConsumer, first :: _ => first
  | _, _ => defaultAssignee

def RightOperand.toJson : RightOperand → Json
  | .text value => .str value
  | .dateTime value => .obj [("@value", .str value), ("@type", .str "xsd:dateTime")]
  | .count value => .int value

def Constraint.toJson (c : Constraint) : Json :=
  .obj [("leftOperand", .str c.leftOperand), ("operator", .str c.operator),
    ("rightOperand", c.rightOperand.toJson)]

/-- What is permitted, with the constraints on it if there are any. -/
def permission (dataset : Dataset) (config : PolicyConfig) : Fields :=
  [("target", .str ("http://example.com/ids/data/" ++ dataset.uuid)),
    ("assigner", .str assigner),
    ("assignee", .str (assignee config)),
    ("action", .str "use")] ++
    match constraints config with
    | [] => []
    | list => [("constraint", .arr (list.map Constraint.toJson))]

/-- The agreement on a dataset with the text of its time of issue. -/
def agreement (dataset : Dataset) (config : PolicyConfig) (issued : String) : Fields :=
  [("@context", .arr [.str "http://www.w3.org/ns/odrl.jsonld",
      .obj [("dc", .str "http://purl.org/dc/terms/"), ("ids", .str "https://w3id.org/idsa/core/"),
        ("idsc", .str "https://w3id.org/idsa/code/")]]),
    ("@type", .str "Agreement"),
    ("uid", .str ("http://example.com/policy/" ++ dataset.uuid)),
    ("profile", .str "http://www.w3.org/ns/odrl/2/core"),
    ("dc:creator", .str "Data Provider"),
    ("dc:description", .str ("Policy for dataset: " ++ dataset.name)),
    ("dc:issued", .str issued),
    ("permission", .arr [.obj (permission dataset config)])]

/-- The agreement on a dataset issued at a given time, if universal time reaches it. -/
def compile (dataset : Dataset) (config : PolicyConfig) (issued : Timestamp) :
    Except DateOutOfRange Fields :=
  issued.issuedText.map (agreement dataset config)

end Odrl
end UsagePolicy
