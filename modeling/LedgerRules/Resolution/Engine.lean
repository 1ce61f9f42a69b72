import LedgerRules.Resolution.Fold
import LedgerRules.Resolution.Transfer

/-!
# Resolving candidates

Rules are selected and folded into the candidate, and the outcome is linked.
The rules and accounts are handed in; nothing here is stored.
-/

namespace LedgerRules

/-- Why a resolution fails: a pattern overflows, or two amounts cannot be
compared. -/
inductive ResolutionFault where
  | overflow
  | incomparable
deriving DecidableEq, Repr

namespace Resolution

def selected (intent : Intent) (rules : List StoredRule) :
    Except ResolutionFault Selection :=
  match Selection.select intent rules with
  | .ok selection => .ok selection
  | .error _ => .error .overflow

def folded (known : KnownAccounts) (rules : List Rule) (candidate : Candidate) :
    Except ResolutionFault Resolution :=
  match ofRules known rules candidate with
  | .ok resolution => .ok resolution
  | .error _ => .error .incomparable

/-- Selects rules for an intent and folds them into a candidate. -/
def fold (intent : Intent) (known : KnownAccounts) (rules : List StoredRule)
    (candidate : Candidate) : Except ResolutionFault Resolution := do
  let selection ← selected intent rules
  folded known selection.rules candidate

/-- Resolves a candidate.  The issues of malformed rules come first. -/
def resolve (known : KnownAccounts) (ids : IdSource) (rules : List StoredRule)
    (candidate : Candidate) :
    Except ResolutionFault (Resolution × IdSource) := do
  let selection ← selected .general rules
  let resolution ← folded known selection.rules candidate
  return { resolution with issues := selection.issues ++
    resolution.issues }.link known ids

/-- Resolves a candidate several times with the same rules, each time from the
outcome of the round before. -/
def rounds (known : KnownAccounts) (rules : List StoredRule) :
    Nat → IdSource → Candidate → Except ResolutionFault (List Resolution)
  | 0, _, _ => .ok []
  | count + 1, ids, candidate => do
      let (resolution, ids) ← resolve known ids rules candidate
      let rest ← rounds known rules count ids resolution.candidate
      return resolution :: rest

/-- Links a resolution several times, each time the outcome before. -/
def linkRounds (known : KnownAccounts) :
    Nat → IdSource → Resolution → List Resolution
  | 0, _, _ => []
  | count + 1, ids, resolution =>
      let (resolution, ids) := resolution.link known ids
      resolution :: linkRounds known count ids resolution

/-- The account that detection rules find for a candidate. -/
def detectAccount (rules : List StoredRule) (candidate : Candidate) :
    Except ResolutionFault (Option Json) := do
  let resolution ← fold .accountDetection none rules candidate
  return resolution.appliedRules.findSome? fun applied =>
    Json.lookUp "set_account" applied.actions

end Resolution

end LedgerRules
