import UsagePolicy.Store.Failure

/-!
# Documents

What the database can hold: integers of 64 bits, and fields whose names have no null character.
The fault of a document is the first one in reading order, where the name of a field comes before
its value.
-/
namespace UsagePolicy

def tooWide (n : Int) : Bool :=
  n < -0x8000000000000000 || 0x8000000000000000 ≤ n

namespace Json

mutual

/-- The first thing in a value that the database cannot hold. -/
def storageFault? : Json → Option DatabaseError
  | .int n => if tooWide n then some .integerTooWide else none
  | .arr items => storageFaultItems? items
  | .obj fields => storageFaultFields? fields
  | _ => none

def storageFaultItems? : List Json → Option DatabaseError
  | [] => none
  | v :: rest => (storageFault? v).or (storageFaultItems? rest)

def storageFaultFields? : Fields → Option DatabaseError
  | [] => none
  | (name, v) :: rest =>
    if name.toList.contains '\x00' then some .nullInName
    else (storageFault? v).or (storageFaultFields? rest)

end

example : storageFault? (.obj [("a", .int (2 ^ 63)), ("k\x00", .null)]) = some .integerTooWide := by
  decide +kernel

example : storageFault? (.obj [("k\x00", .int (2 ^ 63)), ("a", .null)]) = some .nullInName := by
  decide +kernel

end Json
end UsagePolicy
