import UsagePolicy.Policy.Documents
import UsagePolicy.Schema.Issue

/-!
# Failures

Why an operation of the service does not return. A refusal is an answer to the client with a
status of its own; every other failure is reported as an internal error.
-/
namespace UsagePolicy

inductive DatabaseError where
  | integerTooWide
  | nullInName
  | tooLarge (message : String)
  | fault (message : String)
  deriving DecidableEq, Repr

def DatabaseError.message : DatabaseError → String
  | .integerTooWide => "MongoDB can only handle up to 8-byte ints"
  | .nullInName => "Invalid document: Key names must not contain the NULL byte"
  | .tooLarge message => message
  | .fault message => message

/-- Why a policy was not saved: it could not be written down, or the database did not store it. -/
inductive SaveFault where
  | tooDeep
  | database (error : DatabaseError)
  deriving DecidableEq, Repr

def SaveFault.message : SaveFault → String
  | .tooDeep => "Maximum serialization depth exceeded"
  | .database error => error.message

/-- A request that the service turns down. -/
inductive Refusal where
  | datasetNotFound
  | policyNotFound
  | invalidPolicyId
  | saveFailed (fault : SaveFault)
  deriving DecidableEq, Repr

namespace Refusal

def status : Refusal → Nat
  | datasetNotFound => 404
  | policyNotFound => 404
  | invalidPolicyId => 400
  | saveFailed _ => 500

def detail : Refusal → String
  | datasetNotFound => "Dataset not found"
  | policyNotFound => "Policy not found"
  | invalidPolicyId => "Invalid policy id"
  | saveFailed fault => "Failed to save policy: " ++ fault.message

end Refusal

inductive Failure where
  | notConnected
  | database (error : DatabaseError)
  | dateOutOfRange
  | missingField (name : String)
  | invalid (model : String) (issues : List Issue)
  | notFinite
  | tooDeep
  | unwritable (fault : Json.WriteFault)
  | refused (refusal : Refusal)
  deriving Repr

/-- The text of a failure; the issues of an invalid value are reported one by one instead. -/
def Failure.message : Failure → String
  | .notConnected => "MongoDB was not initialized. Call init_mongo() first."
  | .database error => error.message
  | .dateOutOfRange => "date value out of range"
  | .missingField name => "'" ++ name ++ "'"
  | .invalid model _ => model
  | .notFinite => "Out of range float values are not JSON compliant"
  | .tooDeep => "Error serializing to JSON: ValueError: " ++ SaveFault.tooDeep.message
  | .unwritable fault => fault.message "calling a Python object"
  | .refused refusal => refusal.detail

def GenerationFault.failure : GenerationFault → Failure
  | .dateOutOfRange => .dateOutOfRange
  | .unwritable fault => .unwritable fault

end UsagePolicy
