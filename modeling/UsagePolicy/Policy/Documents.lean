import UsagePolicy.Json.Printer
import UsagePolicy.Policy.Ids
import UsagePolicy.Policy.Odrl

/-!
# Policy documents

The two agreements on a dataset as indented JSON text.
-/
namespace UsagePolicy

structure Documents where
  idsPolicy : String
  odrlPolicy : String
  deriving DecidableEq, Repr

inductive GenerationFault where
  | dateOutOfRange
  | unwritable (fault : Json.WriteFault)
  deriving DecidableEq, Repr

def Odrl.text (dataset : Dataset) (config : PolicyConfig) (issued : Timestamp) :
    Except GenerationFault String :=
  match compile dataset config issued with
  | .error _ => .error .dateOutOfRange
  | .ok odrl => (Json.obj odrl).indented.mapError .unwritable

def Documents.generate (dataset : Dataset) (config : PolicyConfig) (issued : Timestamp) :
    Except GenerationFault Documents := do
  let ids ← (Ids.text dataset config).mapError .unwritable
  return ⟨ids, ← Odrl.text dataset config issued⟩

end UsagePolicy
