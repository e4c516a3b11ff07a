import UsagePolicy.Json.Printer
import UsagePolicy.Policy.Basic

/-!
# Contract agreements

The agreement on a dataset in the vocabulary of the International Data Spaces. It has one
permission, to which the selected restriction adds constraints; a restriction to a consumer
names the consumer of the agreement instead. A restriction whose parameters are missing leaves
the agreement as it is without any.
-/
namespace UsagePolicy
namespace Ids

/-- The consumer of an agreement that is not restricted to one. -/
def defaultConsumer : String := "http://example.com/party/data-consumer"

def provider : String := "http://example.com/party/data-provider"

/-- A constraint: the operand and the operator by name, and a typed value. -/
structure Constraint where
  leftOperand : String
  operator : String
  value : String
  datatype : String
  deriving DecidableEq, Repr

def constraints (config : PolicyConfig) : List Constraint :=
  match config.type with
  | .restrictConsumer => []
  | .restrictConnector =>
    match config.connectors with
    | [] => []
    | connector :: _ => [⟨"idsc:CONNECTOR", "idsc:EQUALS", connector, "xsd:string"⟩]
  | .timeLimit =>
    if config.startTime ≠ "" ∧ config.endTime ≠ "" then
      [⟨"idsc:POLICY_EVALUATION_TIME", "idsc:AFTER", config.startTime, "xsd:dateTimeStamp"⟩,
        ⟨"idsc:POLICY_EVALUATION_TIME", "idsc:BEFORE", config.endTime, "xsd:dateTimeStamp"⟩]
    else []
  | .usageCount =>
    match config.maxUsageCount with
    | none => []
    | some count =>
      if count = 0 then []
      else [⟨"idsc:COUNT", "idsc:LTEQ", String.ofList (Numeral.ofInt count), "xsd:double"⟩]

def consumer (config : PolicyConfig) : String :=
  match config.type, config.consumers with
  | .restrictConsumer, first :: _ => first
  | _, _ => defaultConsumer

def reference (target : String) : Json :=
  .obj [("@id", .str target)]

def Constraint.toJson (c : Constraint) : Json :=
  .obj [("@type", .str "ids:Constraint"), ("ids:leftOperand", reference c.leftOperand),
    ("ids:operator", reference c.operator),
    ("ids:rightOperand", .arr [.obj [("@value", .str c.value), ("@type", .str c.datatype)]])]

/-- What is permitted, with the constraints on it if there are any. -/
def permission (dataset : Dataset) (config : PolicyConfig) : Fields :=
  [("ids:target", reference ("http://example.com/ids/target/" ++ dataset.uuid)),
    ("ids:action", .arr [reference "idsc:USE"])] ++
    match constraints config with
    | [] => []
    | list => [("ids:constraint", .arr (list.map Constraint.toJson))]

def compile (dataset : Dataset) (config : PolicyConfig) : Fields :=
  [("@context", .obj [("ids", .str "https://w3id.org/idsa/core/"),
      ("idsc", .str "https://w3id.org/idsa/code/")]),
    ("@type", .str "ids:ContractAgreement"),
    ("@id", .str ("https://w3id.org/idsa/autogen/contract/" ++ dataset.uuid)),
    ("profile", .str "http://example.com/ids-profile"),
    ("ids:provider", .str provider),
    ("ids:consumer", .str (consumer config)),
    ("ids:permission", .arr [.obj (permission dataset config)])]

/-- What keeps the count of the selected restriction from being stated in decimal digits. -/
def countFault? (config : PolicyConfig) : Option Json.WriteFault :=
  match config.type, config.maxUsageCount with
  | .usageCount, some count => (Json.int count).writeFault? Json.nestingLimit
  | _, _ => none

/-- The text of the agreement, unless its count or the whole of it cannot be written. -/
def text (dataset : Dataset) (config : PolicyConfig) : Except Json.WriteFault String :=
  match countFault? config with
  | some fault => .error fault
  | none => (Json.obj (compile dataset config)).indented

end Ids
end UsagePolicy
