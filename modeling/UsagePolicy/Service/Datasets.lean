import UsagePolicy.Json.Plain
import UsagePolicy.Schema.Models
import UsagePolicy.Store.Program

/-!
# Datasets of the catalog

Reading the catalog turns its records into datasets. A record without an identifier is given
one, which is written back only while the record's identifier is still blank; if another writer
was first, the identifier that the catalog then holds is used. All records are converted before
anything is written.

The identifier of a record has to be a text when the record is converted. One that is used
because of another writer is not checked again, and may be any value that is not vacant. A dataset
is written only if its identifier is not nested too deep, and then with null for numbers that are
not finite.
-/
namespace UsagePolicy

structure CatalogDataset where
  id : Int
  name : String
  description : String
  uuid : Json
  deriving Repr

namespace CatalogDataset

/-- The dataset that documents refer to, by the plain text of the identifier. -/
def dataset (d : CatalogDataset) : Dataset :=
  ⟨d.id, d.name, d.description, d.uuid.plainText⟩

def ofDataset (d : Dataset) : CatalogDataset :=
  ⟨d.id, d.name, d.description, .str d.uuid⟩

@[simp] theorem dataset_ofDataset (d : Dataset) : (ofDataset d).dataset = d := rfl

def toJson (d : CatalogDataset) : Json :=
  .obj [("id", .int d.id), ("name", .str d.name), ("description", .str d.description),
    ("uuid", d.uuid)]

theorem toJson_ofDataset (d : Dataset) : (ofDataset d).toJson = d.toJson := rfl

def depthLimit : Nat := 255

/-- The dataset as it is written, unless its identifier is nested too deep: null stands for numbers
that are not finite. -/
def written? (d : CatalogDataset) : Option Json :=
  if depthLimit < d.uuid.depth then none else some d.toJson.withoutInfinite

@[simp] theorem written?_ofDataset (d : Dataset) : (ofDataset d).written? = some d.toJson := rfl

end CatalogDataset

namespace Datasets

def requireConnection : Program Unit := do
  match ← Program.operation .handle with
  | some _ => return ()
  | none => .failed .notConnected

/-- The reply of a database operation, or failure with its error. -/
def access {α : Type} (reply : Except DatabaseError α) : Program α :=
  .ofExcept .database reply

/-- The value under a name, or failure if the record has none. -/
def fieldOf (record : Record) (name : String) : Program Json :=
  match record.get? name with
  | some v => .finished v
  | none => .failed (.missingField name)

/-- The record's own identifier, or a new one if it has none. -/
def identifierFor (record : Record) : Program Json := do
  if record.uuid.isVacant then
    return .str (← Program.operation .drawIdentifier)
  else return record.uuid

def convert (record : Record) : Program Dataset := do
  let id ← fieldOf record "id"
  let name ← fieldOf record "name"
  let description := (record.get? "description").getD (.str "")
  let uuid ← identifierFor record
  .ofChecked "Dataset" (Dataset.check .values
    (.obj [("id", id), ("name", name), ("description", description), ("uuid", uuid)]))

def convertAll (records : List Record) : Program (List Dataset) :=
  .forEach convert records

/-- The dataset with the identifier that the stored record has, if it has one. -/
def adopt (dataset : Dataset) (stored : Option Record) : CatalogDataset :=
  let own := CatalogDataset.ofDataset dataset
  match stored.map Record.uuid with
  | some uuid => if uuid.isVacant then own else { own with uuid }
  | none => own

/-- Stores the identifier that a record was given when it was read without one. -/
def settle (record : Record) (dataset : Dataset) : Program CatalogDataset := do
  if record.uuid.isVacant then
    if ← access (← Program.operation (.assignUuid dataset.id dataset.uuid)) then
      return .ofDataset dataset
    else
      return adopt dataset (← access (← Program.operation (.findRecord dataset.id)))
  else return .ofDataset dataset

/-- The datasets of records, each with the identifier that is stored for it. -/
def ingest (records : List Record) : Program (List CatalogDataset) := do
  let datasets ← convertAll records
  requireConnection
  .forEach (fun (record, dataset) => settle record dataset) (records.zip datasets)

def list : Program (List CatalogDataset) := do
  requireConnection
  ingest (← access (← Program.operation .listRecords))

def present (dataset : CatalogDataset) : Program Json :=
  match dataset.written? with
  | some v => .finished v
  | none => .failed .tooDeep

def find (id : Int) : Program CatalogDataset := do
  requireConnection
  match ← access (← Program.operation (.findRecord id)) with
  | none => .failed (.refused .datasetNotFound)
  | some record =>
    match ← ingest [record] with
    | dataset :: _ => return dataset
    | [] => .failed (.refused .datasetNotFound)

end Datasets
end UsagePolicy
