import LedgerRules.Proofs.Resolution.Folding

/-!
# Resolving again

A candidate that is resolved on another date and with other identifiers has the
same resolution on that date, up to the identifier of a new transfer.  A
resolution that is taken for a candidate is settled: without rules it stays as
it is.
-/

namespace LedgerRules

theorem Selection.select_nil (intent : Intent) :
    select intent [] = .ok ⟨[], []⟩ := by
  simp [select, gather, bind, Except.bind, pure, Except.pure]

namespace Resolution

/-- What resolving the candidate of a resolution on another date and with other
identifiers gives: the resolution on that date, or, for a new transfer, the same
with another identifier. -/
inductive Again (ids otherIds : IdSource) (date : Option Date)
    (resolution : Resolution) :
    Resolution → Prop where
  | same (unrequested : resolution.transferRequest = none) :
      Again ids otherIds date resolution
        { resolution with transactionDate := date }
  | relinked {destination : String}
      (destined : nonEmpty? resolution.transferTo = some destination)
      (linked : resolution.transferId = some ids.next.1) :
      Again ids otherIds date resolution { resolution with
        transactionDate := date
        transferId := some otherIds.next.1
        transferRequest :=
          some (otherHalf { resolution with transactionDate := date }
          otherIds.next.1 destination) }

theorem again_of_resolve {known : KnownAccounts} {ids after : IdSource}
    {rules : List StoredRule} {candidate : Candidate} {resolution : Resolution}
    (success : resolve known ids rules candidate = .ok (resolution, after))
    (date : Option Date) (otherIds : IdSource) :
    ∃ direct otherAfter,
      resolve known otherIds rules { candidate with transactionDate := date } =
        .ok (direct, otherAfter) ∧
        Again ids otherIds date resolution direct := by
  obtain ⟨selection, folded, selected, ofRules, linked⟩ :=
    linked_of_resolve success
  have dated := ofRules_onDate ofRules date
  obtain ⟨_, _, unrequested⟩ := carries_of_ofRules ofRules
  have again : ∀ {outcome}, Linked known otherIds
      { folded with transactionDate := date, issues := selection.issues ++
        folded.issues }
      outcome →
      resolve known otherIds rules { candidate with transactionDate := date } =
        .ok outcome := by
    intro outcome linkedAgain
    exact resolve_eq_ok_iff.mpr
      ⟨selection, _, selected, dated, link_eq_of_linked linkedAgain⟩
  cases linked with
  | noDestination absent =>
      exact ⟨_, _, again (.noDestination absent), .same unrequested⟩
  | already destined linked =>
      exact ⟨_, _, again (.already destined linked), .same unrequested⟩
  | unknown destined unlinked refused =>
      exact ⟨_, _, again (.unknown destined unlinked refused),
        .same unrequested⟩
  | own destined unlinked allowed same =>
      exact ⟨_, _, again (.own destined unlinked allowed same),
        .same unrequested⟩
  | paired destined unlinked allowed apart =>
      exact ⟨_, _, again (.paired destined unlinked allowed apart),
        .relinked destined rfl⟩

/-- A resolution as it is seen when its own fields are resolved without
rules. -/
def accepted (resolution : Resolution) (date : Option Date) : Resolution :=
  { resolution with
    original := ⟨resolution.accountId, resolution.categoryId⟩
    transactionDate := date
    isReconciled := false
    transferRequest := none
    appliedRules := []
    issues := [] }

theorem ofRules_nil (known : KnownAccounts) {resolution : Resolution}
    (notes : resolution.notes ≠ some "") (date : Option Date) :
    ofRules known [] { resolution.candidate with transactionDate := date } =
      .ok (resolution.accepted date) := by
  have kept : (if (nonEmpty? resolution.notes).toList.isEmpty then none
      else some (String.intercalate noteSeparator
        (nonEmpty? resolution.notes).toList)) =
      resolution.notes := by
    cases given : resolution.notes with
    | none => rfl
    | some text =>
        have present : nonEmpty? (some text) = some text := by
          apply nonEmpty?_eq_some_iff.mpr
          refine ⟨rfl, ?_⟩
          intro empty
          exact notes (given.trans (congrArg some empty))
        simp [present]
  simp only [ofRules, Settling.run, bind, Except.bind, pure, Except.pure,
    Settling.ofCandidate, candidate, kept, accepted]

theorem resolve_nil_of_resolved {known : KnownAccounts} {ids after : IdSource}
    {candidate : Candidate} {resolution : Resolution}
    (resolved : Resolved known ids candidate resolution after)
    (notes : resolution.notes ≠ some "") (date : Option Date)
    (otherIds : IdSource) :
    resolve known otherIds []
      { resolution.candidate with transactionDate := date } =
      .ok (resolution.accepted date, otherIds) := by
  refine resolve_eq_ok_iff.mpr
    ⟨⟨[], []⟩, _, Selection.select_nil _, ofRules_nil known notes date, ?_⟩
  have settled := resolved.settled
  exact @link_of_settled (resolution.accepted date) settled known otherIds

end Resolution

end LedgerRules
