import UsagePolicy.Json.Printer
import UsagePolicy.Policy.Documents
import UsagePolicy.Schema.Field

/-!
# Models

The models that requests carry and the service stores and returns. Each has a check from JSON
and a form in JSON with its fields in the order of declaration. The form of a checked value
passes the check again.
-/
namespace UsagePolicy

open Schema

namespace Dataset

def ofFields (fields : Fields) : Checked Dataset :=
  Dataset.mk <$> required fields "id" integer <*> required fields "name" text <*>
    withDefault fields "description" "" text <*> required fields "uuid" text

def check : Source → Json → Checked Dataset :=
  model "Dataset" ofFields

def toFields (d : Dataset) : Fields :=
  [("id", .int d.id), ("name", .str d.name), ("description", .str d.description),
    ("uuid", .str d.uuid)]

def toJson (d : Dataset) : Json :=
  .obj d.toFields

end Dataset

namespace PolicyConfig

def ofFieldsWith (count : Json → Checked (Option Int)) (fields : Fields) : Checked PolicyConfig :=
  PolicyConfig.mk <$> withDefault fields "type" initial.type policyType <*>
    withDefault fields "consumers" initial.consumers (list text) <*>
    withDefault fields "connectors" initial.connectors (list text) <*>
    withDefault fields "startTime" initial.startTime text <*>
    withDefault fields "endTime" initial.endTime text <*>
    withDefault fields "maxUsageCount" initial.maxUsageCount count

/-- A policy as it is stored: its count is an integer or null. -/
def check : Source → Json → Checked PolicyConfig :=
  model "PolicyConfig" (ofFieldsWith (optional integer))

/-- A policy as a form submits it: its count may be any value. -/
def checkForm : Source → Json → Checked PolicyConfig :=
  model "PolicyConfigRequest" (ofFieldsWith usageCount)

def toFields (c : PolicyConfig) : Fields :=
  [("type", .str c.type.tag), ("consumers", .texts c.consumers),
    ("connectors", .texts c.connectors), ("startTime", .str c.startTime),
    ("endTime", .str c.endTime), ("maxUsageCount", c.maxUsageCount.elim .null .int)]

def toJson (c : PolicyConfig) : Json :=
  .obj c.toFields

end PolicyConfig

def Timestamp.toJson (t : Timestamp) : Json :=
  .str (String.ofList t.interchangeText)

namespace Documents

def check : Source → Json → Checked Documents :=
  model "GeneratedPolicyResponse" fun fields =>
    Documents.mk <$> required fields "idsPolicy" text <*> required fields "odrlPolicy" text

def toJson (d : Documents) : Json :=
  .obj [("idsPolicy", .str d.idsPolicy), ("odrlPolicy", .str d.odrlPolicy)]

end Documents

/-- A request for the documents of a policy on a dataset that is given with it. -/
structure GenerateRequest where
  dataset : Dataset
  config : PolicyConfig
  issued : Option Timestamp
  deriving DecidableEq, Repr

namespace GenerateRequest

def check (source : Source) : Json → Checked GenerateRequest :=
  model "GeneratePolicyRequest" (fun fields =>
    GenerateRequest.mk <$> required fields "dataset" (Dataset.check source) <*>
      required fields "config" (PolicyConfig.checkForm source) <*>
      withDefault fields "issued" none (optional timestamp)) source

def toJson (r : GenerateRequest) : Json :=
  .obj [("dataset", r.dataset.toJson), ("config", r.config.toJson),
    ("issued", r.issued.elim .null Timestamp.toJson)]

end GenerateRequest

/-- A request to save a policy on a dataset of the catalog. -/
structure SaveRequest where
  datasetId : Int
  config : PolicyConfig
  deriving DecidableEq, Repr

namespace SaveRequest

def check (source : Source) : Json → Checked SaveRequest :=
  model "SavePolicyRequest" (fun fields =>
    SaveRequest.mk <$> required fields "dataset_id" integer <*>
      required fields "config" (PolicyConfig.checkForm source)) source

def toJson (r : SaveRequest) : Json :=
  .obj [("dataset_id", .int r.datasetId), ("config", r.config.toJson)]

end SaveRequest

structure SavedPolicy where
  dataset : Dataset
  config : PolicyConfig
  documents : Documents
  createdAt : Timestamp
  deriving DecidableEq, Repr

namespace SavedPolicy

def ofFields (source : Source) (fields : Fields) : Checked SavedPolicy :=
  (fun dataset config ids odrl createdAt => SavedPolicy.mk dataset config ⟨ids, odrl⟩ createdAt) <$>
    required fields "dataset" (Dataset.check source) <*>
    required fields "config" (PolicyConfig.check source) <*>
    required fields "idsPolicy" text <*> required fields "odrlPolicy" text <*>
    required fields "created_at" timestamp

def check (source : Source) : Json → Checked SavedPolicy :=
  model "SavedPolicy" (ofFields source) source

def fieldsFor (p : SavedPolicy) (dataset : Json) : Fields :=
  [("dataset", dataset), ("config", p.config.toJson),
    ("idsPolicy", .str p.documents.idsPolicy), ("odrlPolicy", .str p.documents.odrlPolicy),
    ("created_at", p.createdAt.toJson)]

def toFields (p : SavedPolicy) : Fields :=
  p.fieldsFor p.dataset.toJson

def toJson (p : SavedPolicy) : Json :=
  .obj p.toFields

end SavedPolicy

structure PolicyEntry where
  id : String
  policy : SavedPolicy
  deriving DecidableEq, Repr

namespace PolicyEntry

def ofFields (source : Source) (fields : Fields) : Checked PolicyEntry :=
  PolicyEntry.mk <$> required fields "id" text <*> SavedPolicy.ofFields source fields

def check (source : Source) : Json → Checked PolicyEntry :=
  model "SavedPolicyResponse" (ofFields source) source

def toJson (e : PolicyEntry) : Json :=
  .obj (("id", .str e.id) :: e.policy.toFields)

end PolicyEntry

structure PolicyTypeOption where
  value : String
  label : String
  deriving DecidableEq, Repr

namespace PolicyTypeOption

def all : List PolicyTypeOption :=
  PolicyType.all.map fun t => ⟨t.tag, t.label⟩

def check : Source → Json → Checked PolicyTypeOption :=
  model "PolicyTypeOption" fun fields =>
    PolicyTypeOption.mk <$> required fields "value" text <*> required fields "label" text

def toJson (o : PolicyTypeOption) : Json :=
  .obj [("value", .str o.value), ("label", .str o.label)]

end PolicyTypeOption

structure Model where
  name : String
  Carrier : Type
  check : Source → Json → Checked Carrier
  toJson : Carrier → Json

namespace Model

def all : List Model :=
  [⟨"Dataset", _, Dataset.check, Dataset.toJson⟩,
    ⟨"PolicyConfig", _, PolicyConfig.check, PolicyConfig.toJson⟩,
    ⟨"PolicyConfigRequest", _, PolicyConfig.checkForm, PolicyConfig.toJson⟩,
    ⟨"GeneratePolicyRequest", _, GenerateRequest.check, GenerateRequest.toJson⟩,
    ⟨"GeneratedPolicyResponse", _, Documents.check, Documents.toJson⟩,
    ⟨"SavePolicyRequest", _, SaveRequest.check, SaveRequest.toJson⟩,
    ⟨"SavedPolicy", _, SavedPolicy.check, SavedPolicy.toJson⟩,
    ⟨"SavedPolicyResponse", _, PolicyEntry.check, PolicyEntry.toJson⟩,
    ⟨"PolicyTypeOption", _, PolicyTypeOption.check, PolicyTypeOption.toJson⟩]

def find? (name : String) : Option Model :=
  all.find? (·.name == name)

/-- A value checked against the model and written in its form. -/
def normalize (m : Model) (v : Json) : Checked Json :=
  (m.check .values v).map m.toJson

end Model
end UsagePolicy
