import UsagePolicy.Json.Basic
import UsagePolicy.Text.Hex

/-!
# Stored policies

Policies are kept in the order in which they were inserted, each with an id that is written in
at least 24 hexadecimal digits. The policies of a dataset are listed by their time of creation,
which is compared as text.
-/
namespace UsagePolicy

structure PolicyId where
  number : Nat
  deriving DecidableEq, Repr

namespace PolicyId

def text (id : PolicyId) : String :=
  let digits := Nat.toDigits 16 id.number
  String.ofList (List.replicate (24 - digits.length) '0' ++ digits)

/-- The id that a text of 24 hexadecimal digits in either case denotes. -/
def ofText? (text : String) : Option PolicyId :=
  if text.length = 24 then (Text.readHex? text.toList).map PolicyId.mk else none

/-- The blanks that some texts of bytes have between the digits. -/
def isFiller (c : Char) : Bool :=
  " \t\n\x0b\x0c\r".toList.contains c

example : ofText? "665F1C2E9B1E8A3D4C2B1A00" = some ⟨0x665f1c2e9b1e8a3d4c2b1a00⟩ := by
  decide +kernel

end PolicyId

structure StoredPolicy where
  id : PolicyId
  document : Fields
  deriving Repr

namespace StoredPolicy

def refersTo (entersArrays : Bool) (datasetId : Int) : Json → Bool
  | .obj fields => (Fields.get fields "id").meets entersArrays (·.equalsInt datasetId)
  | _ => false

def concerns (entersArrays : Bool) (policy : StoredPolicy) (datasetId : Int) : Bool :=
  (policy.document.get "dataset").meets entersArrays (refersTo entersArrays datasetId)

def rank : Json → Nat
  | .null => 0
  | .int _ => 1
  | .float _ => 1
  | .str _ => 2
  | _ => 3

/-- The first value does not come after the second: null comes first, and texts are compared
character by character. -/
def precedes (v w : Json) : Bool :=
  match v, w with
  | .str s, .str t => decide (s ≤ t)
  | _, _ => rank v ≤ rank w

def noLater (policy other : StoredPolicy) : Bool :=
  precedes (policy.document.get "created_at") (other.document.get "created_at")

theorem precedes_iff {v w : Json} : precedes v w = true ↔
    rank v ≤ rank w ∧ ∀ s t, v = .str s → w = .str t → s ≤ t := by
  cases v <;> cases w <;> simp [precedes, rank]

theorem exists_str_of_rank {v : Json} (h : rank v = 2) : ∃ s, v = .str s := by
  cases v with
  | str s => exact ⟨s, rfl⟩
  | null | bool b | int n | float x | arr items | obj fields => simp [rank] at h

theorem precedes_trans {v w x : Json} (h : precedes v w = true) (h' : precedes w x = true) :
    precedes v x = true := by
  rw [precedes_iff] at h h' ⊢
  refine ⟨Nat.le_trans h.1 h'.1, ?_⟩
  rintro s t rfl rfl
  obtain ⟨r, rfl⟩ : ∃ r, w = .str r := exists_str_of_rank (Nat.le_antisymm h'.1 h.1)
  exact String.le_trans (h.2 s r rfl rfl) (h'.2 r t rfl rfl)

theorem precedes_total (v w : Json) : (precedes v w || precedes w v) = true := by
  rw [Bool.or_eq_true, precedes_iff, precedes_iff]
  rcases Nat.lt_trichotomy (rank v) (rank w) with hlt | heq | hlt
  · left
    refine ⟨Nat.le_of_lt hlt, ?_⟩
    rintro s t rfl rfl
    exact absurd hlt (Nat.lt_irrefl _)
  · by_cases hstr : rank v = 2
    · obtain ⟨s, rfl⟩ := exists_str_of_rank hstr
      obtain ⟨t, rfl⟩ := exists_str_of_rank (heq ▸ hstr)
      have htotal := String.le_total s t
      simpa [rank, precedes] using htotal
    · left
      refine ⟨Nat.le_of_eq heq, ?_⟩
      rintro s t rfl rfl
      exact absurd rfl hstr
  · right
    refine ⟨Nat.le_of_lt hlt, ?_⟩
    rintro s t rfl rfl
    exact absurd hlt (Nat.lt_irrefl _)

theorem noLater_trans (p q r : StoredPolicy) (h : p.noLater q = true) (h' : q.noLater r = true) :
    p.noLater r = true :=
  precedes_trans h h'

theorem noLater_total (p q : StoredPolicy) : (p.noLater q || q.noLater p) = true :=
  precedes_total _ _

end StoredPolicy

/-- A way to put policies in the order of their creation. How it orders those that were created at
one time is left open. -/
structure Arrangement where
  arrange : List StoredPolicy → List StoredPolicy
  perm : ∀ policies, (arrange policies).Perm policies
  ordered : ∀ policies, (arrange policies).Pairwise fun p q => p.noLater q = true

namespace Arrangement

/-- The order of creation in which policies that were created at one time stay as they were. -/
def stable : Arrangement where
  arrange policies := policies.mergeSort StoredPolicy.noLater
  perm policies := List.mergeSort_perm policies _
  ordered _ := List.pairwise_mergeSort StoredPolicy.noLater_trans StoredPolicy.noLater_total _

/-- Policies none of which was created before another stay in the order in which they were. -/
def KeepsTies (order : Arrangement) : Prop :=
  ∀ (policies : List StoredPolicy) (alike : StoredPolicy → Bool),
    (∀ p ∈ policies, ∀ q ∈ policies, alike p = true → alike q = true → p.noLater q = true) →
      (order.arrange policies).filter alike = policies.filter alike

theorem keepsTies_stable : stable.KeepsTies := by
  intro policies alike h
  have halike : (policies.filter alike).Pairwise fun p q => p.noLater q = true := by
    apply List.pairwise_of_forall_mem_list
    intro p hp q hq
    rw [List.mem_filter] at hp hq
    exact h p hp.1 q hq.1 hp.2 hq.2
  have hsub := List.sublist_mergeSort StoredPolicy.noLater_trans StoredPolicy.noLater_total halike
    List.filter_sublist
  have hfilter : (policies.filter alike).Sublist ((stable.arrange policies).filter alike) := by
    simpa [List.filter_filter, stable] using hsub.filter alike
  exact (hfilter.eq_of_length ((stable.perm policies).filter alike).length_eq.symm).symm

end Arrangement

end UsagePolicy
