import UsagePolicy.Json.Basic

/-!
# The catalog

The catalog is a list of records in the order of their entry. A record is addressed by its id,
and where several share an id the first one stands for it. The identifier of a record is blank
while it is missing, null or empty, and only a blank identifier is ever assigned.

Records are chosen by filters. Whether a filter for a value is also satisfied by an array that holds
such a value is up to the database, so that every choice below depends on it.
-/
namespace UsagePolicy

/-- A record of the catalog: the fields of an object. -/
abbrev Record := Fields

namespace Record

def hasId (entersArrays : Bool) (record : Record) (id : Int) : Bool :=
  (record.get "id").meets entersArrays (·.equalsInt id)

def uuid (record : Record) : Json :=
  record.get "uuid"

def setUuid (record : Record) (uuid : Json) : Record :=
  record.put "uuid" uuid

def isOpen (entersArrays : Bool) (record : Record) : Bool :=
  record.uuid.meets entersArrays (·.isBlank)

theorem isOpen_false (record : Record) : record.isOpen false = record.uuid.isBlank := by
  cases h : record.uuid <;> simp [isOpen, Json.meets, h]

theorem hasId_of_equalsInt {record : Record} {id : Int}
    (h : (record.get "id").equalsInt id = true) (entersArrays : Bool) :
    record.hasId entersArrays id = true := by
  simp [hasId, Json.meets, h]

@[simp] theorem uuid_setUuid (record : Record) (uuid : Json) :
    (record.setUuid uuid).uuid = uuid := by
  simp [Record.uuid, setUuid, Fields.get, Fields.get?_put_self]

@[simp] theorem hasId_setUuid (entersArrays : Bool) (record : Record) (uuid : Json) (id : Int) :
    (record.setUuid uuid).hasId entersArrays id = record.hasId entersArrays id := by
  simp [hasId, setUuid, Fields.get, Fields.get?_put_of_ne]

end Record

abbrev Catalog := List Record

namespace Catalog

variable (entersArrays : Bool)

def findId? (catalog : Catalog) (id : Int) : Option Record :=
  catalog.find? (·.hasId entersArrays id)

/-- Changes the first record that satisfies the test, and tells whether there was one. -/
def modifyFirst (test : Record → Bool) (change : Record → Record) : Catalog → Catalog × Bool
  | [] => ([], false)
  | record :: rest =>
    if test record then (change record :: rest, true)
    else
      let (changed, found) := modifyFirst test change rest
      (record :: changed, found)

/-- Gives an identifier to the first record with an id that passes for one without an identifier,
and tells whether there was one. -/
def assign (catalog : Catalog) (id : Int) (uuid : String) : Catalog × Bool :=
  catalog.modifyFirst (fun record => record.hasId entersArrays id && record.isOpen entersArrays)
    (·.setUuid (.str uuid))

def overwrite (catalog : Catalog) (id : Int) (uuid : Json) : Catalog :=
  (catalog.modifyFirst (·.hasId entersArrays id) (·.setUuid uuid)).1

def remove (catalog : Catalog) (id : Int) : Catalog :=
  catalog.eraseP (·.hasId entersArrays id)

end Catalog
end UsagePolicy
