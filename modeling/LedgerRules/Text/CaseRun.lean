/-!
# Runs of letters with one shift of case

Most case mappings add one number to every letter, or to every other letter, of
a range of code points.
-/

namespace LedgerRules

/-- The code points `first`, `first + stride`, up to `last`, each moved by
`shift`. -/
structure CaseRun where
  first : Nat
  last : Nat
  stride : Nat
  shift : Int
deriving DecidableEq, Repr

namespace CaseRun

/-- Where a code point goes under the runs, which are in increasing order; a
code point outside every run stays. -/
def apply (code : Nat) : List CaseRun → Nat
  | [] => code
  | run :: rest =>
      if code < run.first then code
      else if code ≤ run.last && (code - run.first) % run.stride = 0 then
        ((code : Int) + run.shift).toNat
      else apply code rest

/-- The code points that the runs move to a given one. -/
def sources (target : Nat) (runs : List CaseRun) : List Nat :=
  runs.filterMap fun run =>
    let source := ((target : Int) - run.shift).toNat
    if run.first ≤ source && source ≤ run.last && (source - run.first) %
      run.stride = 0 &&
        ((source : Int) + run.shift).toNat = target then some source
    else none

end CaseRun

end LedgerRules
