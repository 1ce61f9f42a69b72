/-!
# New identifiers

The rows of a table are counted: their identifiers are made of the name of their
kind and the number of identifiers made so far.  Transfers take theirs from a
supply, which may be any that never yields an empty one.
-/

namespace LedgerRules

/-- A counter for the rows of one kind. -/
structure IdCounter where
  kind : String
  issued : Nat := 0
deriving DecidableEq, Repr, Inhabited

def numbered (kind : String) (number : Nat) : String :=
  kind ++ "-" ++ toString number

theorem numbered_ne_empty (kind : String) (number : Nat) :
    numbered kind number ≠ "" := by
  intro empty
  have length := congrArg String.length empty
  simp [numbered, String.length_append] at length

def IdCounter.next (counter : IdCounter) : String × IdCounter :=
  (numbered counter.kind (counter.issued + 1),
    { counter with issued := counter.issued + 1 })

/-- Where identifiers come from: what is yielded when one was asked for some
times before.  No identifier is empty. -/
structure IdSupply where
  yields : Nat → String
  nonEmpty : ∀ asked, yields asked ≠ ""

/-- A supply that numbers the identifiers of one kind. -/
def IdSupply.ofKind (kind : String) : IdSupply where
  yields asked := numbered kind (asked + 1)
  nonEmpty asked := numbered_ne_empty kind (asked + 1)

/-- A supply of identifiers, and how many of them were taken. -/
structure IdSource where
  supply : IdSupply
  issued : Nat := 0

namespace IdSource

def transfers : IdSource where
  supply := .ofKind "transfer"

instance : Inhabited IdSource := ⟨transfers⟩

def next (source : IdSource) : String × IdSource :=
  (source.supply.yields source.issued,
    { source with issued := source.issued + 1 })

end IdSource

end LedgerRules
