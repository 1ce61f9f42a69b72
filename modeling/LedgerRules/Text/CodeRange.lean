/-!
# Sets of characters as ranges of code points

A property of characters is kept as the increasing list of the code point
ranges that have it.
-/

namespace LedgerRules

/-- Whether a code point lies in one of the ranges, which are in increasing
order. -/
def inRanges (code : Nat) : List (Nat × Nat) → Bool
  | [] => false
  | (first, last) :: rest =>
      if code < first then false else code ≤ last || inRanges code rest

/-- The entry of a code point in a table whose keys are in increasing order. -/
def lookUpCode {Entry : Type} (code : Nat) : List (Nat × Entry) → Option Entry
  | [] => none
  | (key, entry) :: rest =>
      if code < key then none
      else if code = key then some entry
      else lookUpCode code rest

/-- An entry that is found stands in the table. -/
theorem mem_of_lookUpCode {Entry : Type} {code : Nat} {entry : Entry}
    {table : List (Nat × Entry)} (found : lookUpCode code table = some entry) :
    (code, entry) ∈ table := by
  induction table with
  | nil => cases found
  | cons row rest induction =>
      obtain ⟨key, value⟩ := row
      rw [lookUpCode] at found
      split at found
      case isTrue => cases found
      case isFalse =>
        split at found
        case isTrue same =>
          cases found
          rw [same]
          exact List.mem_cons_self
        case isFalse =>
          exact List.mem_cons_of_mem (key, value) (induction found)

end LedgerRules
