import UsagePolicy.Calendar.Reading
import UsagePolicy.Json.Reader
import UsagePolicy.Policy.Basic
import UsagePolicy.Policy.UsageCount

/-!
# Issues

An issue says what is wrong with one value of an input, where the value stands, and what it is.
A check reports all issues of an input at once, in the order of the fields.
-/
namespace UsagePolicy

inductive Locus where
  | field (name : String)
  | index (i : Nat)
  deriving DecidableEq, Repr

inductive Complaint where
  | missing
  | notText
  | notList
  | notInteger
  | notIntegerText
  | integerTooLong
  | fractional
  | notFinite
  | unknownTag
  | notModel (model : String)
  | notObject
  | notTimestamp
  | badTimestamp (fault : TimestampFault)
  | badCount (fault : UsageCount.Fault)
  | malformedJson (fault : Json.ReadFault)
  deriving DecidableEq, Repr

namespace Complaint

def code : Complaint → String
  | missing => "missing"
  | notText => "string_type"
  | notList => "list_type"
  | notInteger => "int_type"
  | notIntegerText => "int_parsing"
  | integerTooLong => "int_parsing_size"
  | fractional => "int_from_float"
  | notFinite => "finite_number"
  | unknownTag => "enum"
  | notModel _ => "model_type"
  | notObject => "model_attributes_type"
  | notTimestamp => "datetime_type"
  | badTimestamp (.notDate _) => "datetime_from_date_parsing"
  | badTimestamp (.notMoment _) => "datetime_parsing"
  | badCount _ => "value_error"
  | malformedJson _ => "json_invalid"

/-- The tags of the restrictions as an enumeration in words. -/
def expectedTags : String :=
  match PolicyType.all.map fun t => "'" ++ t.tag ++ "'" with
  | [a, b, c, d] => a ++ ", " ++ b ++ ", " ++ c ++ " or " ++ d
  | tags => ", ".intercalate tags

def message : Complaint → String
  | missing => "Field required"
  | notText => "Input should be a valid string"
  | notList => "Input should be a valid list"
  | notInteger => "Input should be a valid integer"
  | notIntegerText => "Input should be a valid integer, unable to parse string as an integer"
  | integerTooLong => "Unable to parse input string as an integer, exceeded maximum size"
  | fractional => "Input should be a valid integer, got a number with a fractional part"
  | notFinite => "Input should be a finite number"
  | unknownTag => "Input should be " ++ expectedTags
  | notModel model => "Input should be a valid dictionary or instance of " ++ model
  | notObject => "Input should be a valid dictionary or object to extract fields from"
  | notTimestamp => "Input should be a valid datetime"
  | badTimestamp (.notDate fault) => "Input should be a valid datetime or date, " ++ fault.message
  | badTimestamp (.notMoment fault) => "Input should be a valid datetime, " ++ fault.message
  | badCount fault => "Value error, " ++ fault.message
  | malformedJson _ => "JSON decode error"

def context? : Complaint → Option Fields
  | unknownTag => some [("expected", .str expectedTags)]
  | notModel model => some [("class_name", .str model)]
  | badTimestamp (.notDate fault) => some [("error", .str fault.message)]
  | badTimestamp (.notMoment fault) => some [("error", .str fault.message)]
  | badCount _ => some [("error", .obj [])]
  | malformedJson fault => some [("error", .str fault.message)]
  | _ => none

end Complaint

structure Issue where
  path : List Locus
  complaint : Complaint
  input : Json
  deriving Repr

namespace Issue

/-- The same issue seen from a value that contains the input. -/
def within (locus : Locus) (issue : Issue) : Issue :=
  { issue with path := locus :: issue.path }

def Locus.toJson : Locus → Json
  | .field name => .str name
  | .index i => .int i

def toJson (issue : Issue) : Json :=
  .obj ([("type", .str issue.complaint.code), ("loc", .arr (issue.path.map Locus.toJson)),
    ("msg", .str issue.complaint.message), ("input", issue.input)] ++
    match issue.complaint.context? with
    | some fields => [("ctx", .obj fields)]
    | none => [])

def summary (issue : Issue) : Json :=
  .obj [("type", .str issue.complaint.code), ("loc", .arr (issue.path.map Locus.toJson)),
    ("msg", .str issue.complaint.message)]

end Issue

/-- The outcome of checking an input: a value, or all the issues found. -/
inductive Checked (α : Type) where
  | accepted (value : α)
  | refused (issues : List Issue)
  deriving Repr

namespace Checked

def refuse {α : Type} (complaint : Complaint) (input : Json) : Checked α :=
  .refused [⟨[], complaint, input⟩]

def map {α β : Type} (f : α → β) : Checked α → Checked β
  | accepted a => accepted (f a)
  | refused issues => refused issues

/-- Both outcomes, with the issues of the first before those of the second. -/
def both {α β : Type} : Checked α → Checked β → Checked (α × β)
  | accepted a, accepted b => accepted (a, b)
  | accepted _, refused issues => refused issues
  | refused issues, accepted _ => refused issues
  | refused issues, refused more => refused (issues ++ more)

/-- The outcome as seen from a value that contains the input. -/
def within {α : Type} (locus : Locus) : Checked α → Checked α
  | accepted a => accepted a
  | refused issues => refused (issues.map (Issue.within locus))

instance : Functor Checked where
  map := map

instance : Applicative Checked where
  pure := accepted
  seq f a := (both f (a ())).map fun (g, x) => g x

end Checked
end UsagePolicy
