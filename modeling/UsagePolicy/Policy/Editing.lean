import UsagePolicy.Policy.Basic

/-!
# Editing a policy

A form holds a dataset and a policy for it, and an edit replaces one field. Nothing else
changes with it: selecting another restriction keeps the parameters of the one before.
-/
namespace UsagePolicy

structure Draft where
  dataset : Dataset
  config : PolicyConfig
  deriving DecidableEq, Repr

inductive Edit where
  | datasetId (value : Int)
  | datasetName (value : String)
  | datasetDescription (value : String)
  | datasetUuid (value : String)
  | type (value : PolicyType)
  | consumers (value : List String)
  | connectors (value : List String)
  | startTime (value : String)
  | endTime (value : String)
  | maxUsageCount (value : Option Int)
  deriving DecidableEq, Repr

def Draft.edit (draft : Draft) : Edit → Draft
  | .datasetId value => { draft with dataset.id := value }
  | .datasetName value => { draft with dataset.name := value }
  | .datasetDescription value => { draft with dataset.description := value }
  | .datasetUuid value => { draft with dataset.uuid := value }
  | .type value => { draft with config.type := value }
  | .consumers value => { draft with config.consumers := value }
  | .connectors value => { draft with config.connectors := value }
  | .startTime value => { draft with config.startTime := value }
  | .endTime value => { draft with config.endTime := value }
  | .maxUsageCount value => { draft with config.maxUsageCount := value }

/-- The drafts that a sequence of rounds of edits goes through, the first one included. -/
def Draft.history (draft : Draft) : List (List Edit) → List Draft
  | [] => [draft]
  | round :: rest => draft :: (round.foldl Draft.edit draft).history rest

end UsagePolicy
