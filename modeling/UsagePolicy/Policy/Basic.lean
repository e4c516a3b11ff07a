/-!
# Datasets and their usage policies

A dataset of the catalog carries the identifier that its policy documents refer to. The policy
for a dataset selects one of four restrictions. The parameters of the other three are kept when
the selection changes; they are just not used.
-/
namespace UsagePolicy

structure Dataset where
  id : Int
  name : String
  description : String
  uuid : String
  deriving DecidableEq, Repr

inductive PolicyType where
  | restrictConsumer
  | restrictConnector
  | timeLimit
  | usageCount
  deriving DecidableEq, Repr, Inhabited

namespace PolicyType

def all : List PolicyType :=
  [.restrictConsumer, .restrictConnector, .timeLimit, .usageCount]

/-- The word for the restriction in requests and stored policies. -/
def tag : PolicyType → String
  | .restrictConsumer => "restrict_consumer"
  | .restrictConnector => "restrict_connector"
  | .timeLimit => "time_limit"
  | .usageCount => "usage_count"

def label : PolicyType → String
  | .restrictConsumer => "Restrict consumer"
  | .restrictConnector => "Restrict connector"
  | .timeLimit => "Limit usage time"
  | .usageCount => "Limit usage count"

def ofTag? (tag : String) : Option PolicyType :=
  all.find? (·.tag == tag)

theorem ofTag?_tag (t : PolicyType) : ofTag? t.tag = some t := by
  cases t <;> decide

theorem tag_of_ofTag? {s : String} {t : PolicyType} (h : ofTag? s = some t) : t.tag = s := by
  simpa using List.find?_some h

end PolicyType

/-- A policy: the selected restriction with the parameters of all four. -/
structure PolicyConfig where
  type : PolicyType
  consumers : List String
  connectors : List String
  startTime : String
  endTime : String
  maxUsageCount : Option Int
  deriving DecidableEq, Repr

def PolicyConfig.initial : PolicyConfig :=
  ⟨.restrictConsumer, [], [], "", "", some 1⟩

end UsagePolicy
