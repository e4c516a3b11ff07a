import UsagePolicy.Number.Binary64

/-!
# JSON values

Integers are exact and kept apart from floating-point numbers. The fields of an object keep
their order, and a value read or built here has each field name once: writing to a name that is
present replaces the value in place.
-/
namespace UsagePolicy

inductive Json where
  | null
  | bool (b : Bool)
  | int (n : Int)
  | float (x : Binary64)
  | str (s : String)
  | arr (items : List Json)
  | obj (fields : List (String × Json))
  deriving Inhabited, Repr

/-- The fields of an object, in order. -/
abbrev Fields := List (String × Json)

namespace Fields

def get? (fields : Fields) (name : String) : Option Json :=
  fields.lookup name

/-- The value under a name, a missing field counting as null. -/
def get (fields : Fields) (name : String) : Json :=
  (fields.get? name).getD .null

/-- Writes a value under a name, in place if the name is present and at the end otherwise. -/
def put (fields : Fields) (name : String) (value : Json) : Fields :=
  match fields with
  | [] => [(name, value)]
  | (key, old) :: rest =>
    if key = name then (name, value) :: rest else (key, old) :: put rest name value

def ofWrites (writes : List (String × Json)) : Fields :=
  writes.foldl (fun fields write => put fields write.1 write.2) []

theorem get?_put_self (fields : Fields) (name : String) (value : Json) :
    (fields.put name value).get? name = some value := by
  induction fields with
  | nil => simp [put, get?]
  | cons field rest ih =>
    obtain ⟨key, old⟩ := field
    by_cases h : key = name
    · simp [put, get?, h]
    · have h' : (name == key) = false := by simp [Ne.symm h]
      simpa [put, get?, h, List.lookup_cons, h'] using ih

theorem get?_put_of_ne (fields : Fields) {name other : String} (value : Json) (h : other ≠ name) :
    (fields.put name value).get? other = fields.get? other := by
  induction fields with
  | nil =>
    have h' : (other == name) = false := by simp [h]
    simp [put, get?, List.lookup_cons, h']
  | cons field rest ih =>
    obtain ⟨key, old⟩ := field
    by_cases hk : key = name
    · subst hk
      have h' : (other == key) = false := by simp [h]
      simp [put, get?, List.lookup_cons, h']
    · simp only [put, hk, if_false, get?, List.lookup_cons]
      cases other == key
      · simpa [get?] using ih
      · rfl

theorem mem_put {fields : Fields} {name : String} {value : Json} {field : String × Json}
    (h : field ∈ fields.put name value) : field ∈ fields ∨ field = (name, value) := by
  induction fields with
  | nil => exact Or.inr (List.mem_singleton.mp h)
  | cons first rest ih =>
    obtain ⟨key, old⟩ := first
    rw [put] at h
    split at h
    · rcases List.mem_cons.mp h with rfl | h
      · exact Or.inr rfl
      · exact Or.inl (List.mem_cons_of_mem _ h)
    · rcases List.mem_cons.mp h with rfl | h
      · exact Or.inl List.mem_cons_self
      · exact (ih h).imp_left (List.mem_cons_of_mem _)

end Fields

namespace Json

def texts (items : List String) : Json :=
  .arr (items.map .str)

/-- The number denotes exactly this integer. Only numbers equal integers: neither a boolean nor
a text does. -/
def equalsInt : Json → Int → Bool
  | .int m, n => m == n
  | .float x, n => x.equalsInt n
  | _, _ => false

/-- Null, false, zero, and the empty text, array and object: the values that stand for an
identifier not yet given. -/
def isVacant : Json → Bool
  | .null => true
  | .bool b => !b
  | .int n => n == 0
  | .float x => x.isZero
  | .str s => s == ""
  | .arr items => items.isEmpty
  | .obj fields => fields.isEmpty

/-- Null or the empty text. -/
def isBlank : Json → Bool
  | .null => true
  | .str s => s == ""
  | _ => false

/-- The value passes a test, or the items of an array are looked at as well and one of them passes.
-/
def meets (entersArrays : Bool) (test : Json → Bool) (v : Json) : Bool :=
  test v || match v with
    | .arr items => entersArrays && items.any test
    | _ => false

theorem isVacant_of_isBlank {v : Json} (h : v.isBlank = true) : v.isVacant = true := by
  cases v <;> simp_all [isBlank, isVacant]

mutual

/-- How deep a value is nested; a value without parts counts as one. -/
def depth : Json → Nat
  | .arr items => depthItems items + 1
  | .obj fields => depthFields fields + 1
  | _ => 1

def depthItems : List Json → Nat
  | [] => 0
  | v :: rest => max (depth v) (depthItems rest)

def depthFields : Fields → Nat
  | [] => 0
  | (_, v) :: rest => max (depth v) (depthFields rest)

end

mutual

def nesting : Json → Nat
  | .arr items => nestingItems items + 1
  | .obj fields => nestingFields fields + 1
  | _ => 0

def nestingItems : List Json → Nat
  | [] => 0
  | v :: rest => max (nesting v) (nestingItems rest)

def nestingFields : Fields → Nat
  | [] => 0
  | (_, v) :: rest => max (nesting v) (nestingFields rest)

end

theorem nestingItems_le_iff {items : List Json} {n : Nat} :
    nestingItems items ≤ n ↔ ∀ v ∈ items, v.nesting ≤ n := by
  induction items with
  | nil => simp [nestingItems]
  | cons v rest ih => simp only [nestingItems, Nat.max_le, ih, List.forall_mem_cons]

theorem nestingFields_le_iff {fields : Fields} {n : Nat} :
    nestingFields fields ≤ n ↔ ∀ field ∈ fields, field.2.nesting ≤ n := by
  induction fields with
  | nil => simp [nestingFields]
  | cons field rest ih =>
    obtain ⟨name, v⟩ := field
    simp only [nestingFields, Nat.max_le, ih, List.forall_mem_cons]

@[simp] theorem nesting_texts (items : List String) : (texts items).nesting = 1 := by
  have h : nestingItems (items.map .str) ≤ 0 :=
    nestingItems_le_iff.mpr (by simp [nesting])
  rw [texts, nesting, Nat.le_zero.mp h]

/-- The nesting at which a value can still be written as a text, and read from one: each level
takes its share of a stack that is bounded. -/
def nestingLimit : Nat := 992

mutual

/-- Every floating-point number in the value, at any depth, is finite. -/
def allFinite : Json → Bool
  | .float x => x.isFinite
  | .arr items => allFiniteItems items
  | .obj fields => allFiniteFields fields
  | _ => true

def allFiniteItems : List Json → Bool
  | [] => true
  | v :: rest => allFinite v && allFiniteItems rest

def allFiniteFields : Fields → Bool
  | [] => true
  | (_, v) :: rest => allFinite v && allFiniteFields rest

end

mutual

/-- The value with null for every floating-point number that is not finite, at any depth. -/
def withoutInfinite : Json → Json
  | .float x => if x.isFinite then .float x else .null
  | .arr items => .arr (withoutInfiniteItems items)
  | .obj fields => .obj (withoutInfiniteFields fields)
  | v => v

def withoutInfiniteItems : List Json → List Json
  | [] => []
  | v :: rest => withoutInfinite v :: withoutInfiniteItems rest

def withoutInfiniteFields : Fields → Fields
  | [] => []
  | (name, v) :: rest => (name, withoutInfinite v) :: withoutInfiniteFields rest

end

mutual

/-- The value without the fields whose names satisfy the test, at any depth. -/
def withoutFields (hidden : String → Bool) : Json → Json
  | .arr items => .arr (withoutFieldsItems hidden items)
  | .obj fields => .obj (withoutFieldsFields hidden fields)
  | v => v

def withoutFieldsItems (hidden : String → Bool) : List Json → List Json
  | [] => []
  | v :: rest => withoutFields hidden v :: withoutFieldsItems hidden rest

def withoutFieldsFields (hidden : String → Bool) : Fields → Fields
  | [] => []
  | (name, v) :: rest =>
    if hidden name then withoutFieldsFields hidden rest
    else (name, withoutFields hidden v) :: withoutFieldsFields hidden rest

end

example : (Json.arr [.obj [], .int 1]).depth = 2 ∧ (Json.arr [.arr [], .int 1]).nesting = 2 := by
  decide +kernel

mutual

/-- The values are the same, which no instance derived for a nested type would tell. -/
def same : Json → Json → Bool
  | .null, .null => true
  | .bool a, .bool b => a = b
  | .int m, .int n => m = n
  | .float x, .float y => x = y
  | .str s, .str t => s = t
  | .arr vs, .arr ws => sameItems vs ws
  | .obj fs, .obj gs => sameFields fs gs
  | _, _ => false

def sameItems : List Json → List Json → Bool
  | [], [] => true
  | v :: vs, w :: ws => same v w && sameItems vs ws
  | _, _ => false

def sameFields : Fields → Fields → Bool
  | [], [] => true
  | (a, v) :: fs, (b, w) :: gs => a = b && same v w && sameFields fs gs
  | _, _ => false

end

mutual

theorem same_iff (v w : Json) : same v w = true ↔ v = w := by
  cases v with
  | arr vs => cases w <;> simp [same, sameItems_iff vs]
  | obj fs => cases w <;> simp [same, sameFields_iff fs]
  | _ => cases w <;> simp [same]

theorem sameItems_iff (vs ws : List Json) : sameItems vs ws = true ↔ vs = ws := by
  cases vs with
  | nil => cases ws <;> simp [sameItems]
  | cons v vs => cases ws <;> simp [sameItems, same_iff v, sameItems_iff vs]

theorem sameFields_iff (fs gs : Fields) : sameFields fs gs = true ↔ fs = gs := by
  cases fs with
  | nil => cases gs <;> simp [sameFields]
  | cons field fs =>
    cases gs <;> simp [sameFields, same_iff field.2, sameFields_iff fs, Prod.ext_iff]

end

instance : DecidableEq Json := fun v w => decidable_of_iff _ (same_iff v w)

end Json
end UsagePolicy
