import LedgerRules.Proofs.Resolution.Crediting

/-!
# When a transfer is asked for

A candidate that is not linked comes out either as the first half of a new
transfer or without a destination.  It becomes a first half exactly when folding
leaves a destination that is known and is not its own account.  Linking asks for
nothing else: neither for a rule that is credited with the destination nor for
the type of the candidate.
-/

namespace LedgerRules

namespace Resolution

/-- A first half of a new transfer, and the request for the other one. -/
structure IsFirstHalf (known : KnownAccounts) (resolution : Resolution)
    (request : TransferRequest) : Prop where
  type : resolution.type = transferType
  transferId : resolution.transferId = some request.transferId
  named : request.transferId ≠ ""
  destination : resolution.transferTo = some request.destination
  known : ∀ accounts, known = some accounts → request.destination ∈ accounts
  apart : resolution.accountId ≠ some request.destination
  source : request.source = resolution.accountId
  amount : request.amount = resolution.amount
  description : request.description = resolution.description
  transactionDate : request.transactionDate = resolution.transactionDate
  transactionTime : request.transactionTime = resolution.transactionTime

/-- A resolution without a transfer.  It has no destination, and one that
folding has left costs it an issue more than were reported before. -/
structure IsSingle (candidate : Candidate) (reported : List Issue)
    (folded resolution : Resolution) : Prop where
  alone : nonEmpty? resolution.transferTo = none
  transferId : resolution.transferId = candidate.transferId
  type : resolution.type = folded.type
  refused : (nonEmpty? folded.transferTo).isSome = true →
    ∃ reason, resolution.issues = reported ++ folded.issues ++
      [⟨none, "transfer", reason⟩]
  unasked : nonEmpty? folded.transferTo = none →
    resolution.issues = reported ++ folded.issues

/-- A candidate that is not linked, whose own destination is known and is not
its account, while no rule is credited with a destination and its settled type
is no transfer. -/
structure Strays (known : KnownAccounts) (candidate : Candidate)
    (folded : Resolution) (destination : String) : Prop where
  unlinked : nonEmpty? candidate.transferId = none
  carried : nonEmpty? candidate.transferTo = some destination
  allowed : known.allow destination = true
  apart : folded.accountId ≠ some destination
  uncredited : folded.recorded .destination = []
  otherType : folded.type ≠ transferType

section Asking

variable {known : KnownAccounts} {ids : IdSource} {rules : List StoredRule}
  {candidate : Candidate} {selection : Selection}
  {folded resolution : Resolution} {outcome : Resolution × IdSource}

/-- Linking asks for a transfer exactly when the resolution is not linked and
its destination is known and is not its account. -/
theorem Linked.requested_iff (linked : Linked known ids resolution outcome)
    (unrequested : resolution.transferRequest = none) :
    outcome.1.transferRequest.isSome = true ↔
      nonEmpty? resolution.transferId = none ∧
        ∃ destination, nonEmpty? resolution.transferTo = some destination ∧
          known.allow destination = true ∧
          resolution.accountId ≠ some destination := by
  cases linked with
  | noDestination absent => simp [unrequested, absent]
  | already _ linked => simp [unrequested, linked]
  | unknown destined _ refused =>
      simp [withoutDestination, unrequested, destined, refused]
  | own destined _ _ same =>
      simp [withoutDestination, unrequested, destined, same]
  | paired destined unlinked allowed apart =>
      exact iff_of_true rfl ⟨unlinked, _, destined, allowed, apart⟩

theorem Linked.isFirstHalf (linked : Linked known ids resolution outcome)
    (unrequested : resolution.transferRequest = none)
    {request : TransferRequest}
    (requested : outcome.1.transferRequest = some request) :
    IsFirstHalf known outcome.1 request := by
  cases linked with
  | paired destined unlinked allowed apart =>
      cases requested
      exact {
        type := rfl
        transferId := rfl
        named := (nonEmpty?_eq_some_iff.mp ids.nonEmpty?_next).2
        destination := (nonEmpty?_eq_some_iff.mp destined).1
        known := by
          rintro accounts rfl
          exact List.contains_iff_mem.mp allowed
        apart := apart
        source := rfl
        amount := rfl
        description := rfl
        transactionDate := rfl
        transactionTime := rfl }
  | noDestination | already => cases unrequested.symm.trans requested
  | unknown | own => cases unrequested.symm.trans requested

theorem Linked.isSingle
    (linked : Linked known ids (folded.reporting selection.issues) outcome)
    (unlinked : nonEmpty? candidate.transferId = none)
    (transferId : folded.transferId = candidate.transferId)
    (unrequested : outcome.1.transferRequest = none) :
    IsSingle candidate selection.issues folded outcome.1 := by
  cases linked with
  | noDestination absent =>
      refine ⟨absent, transferId, rfl, ?_, fun _ => rfl⟩
      intro destined
      have absent : nonEmpty? folded.transferTo = none := absent
      rw [absent] at destined
      cases destined
  | already _ linked =>
      have linked : nonEmpty? folded.transferId = some _ := linked
      rw [transferId, unlinked] at linked
      cases linked
  | unknown destined =>
      refine ⟨rfl, transferId, rfl, fun _ => ⟨_, rfl⟩, ?_⟩
      intro absent
      cases absent.symm.trans destined
  | own destined =>
      refine ⟨rfl, transferId, rfl, fun _ => ⟨_, rfl⟩, ?_⟩
      intro absent
      cases absent.symm.trans destined
  | paired => cases unrequested

/-- Resolving a candidate that is not linked gives the first half of a transfer,
when folding has left a destination that is known and is not its account, and
else a single resolution. -/
theorem first_half_or_single (unlinked : nonEmpty? candidate.transferId = none)
    (success : resolve known ids rules candidate = .ok outcome) :
    ∃ selection folded, Selection.select .general rules = .ok selection ∧
      ofRules known selection.rules candidate = .ok folded ∧
      (∀ request, outcome.1.transferRequest = some request →
        IsFirstHalf known outcome.1 request) ∧
      (outcome.1.transferRequest = none →
        IsSingle candidate selection.issues folded outcome.1) ∧
      (outcome.1.transferRequest.isSome = true ↔
        ∃ destination, nonEmpty? folded.transferTo = some destination ∧
          known.allow destination = true ∧
          folded.accountId ≠ some destination) := by
  obtain ⟨selection, folded, selected, success, linked⟩ :=
    linked_of_resolve success
  obtain ⟨_, transferId, unrequested⟩ := carries_of_ofRules success
  have requestedIff := Linked.requested_iff linked unrequested
  rw [and_iff_right (transferId ▸ unlinked)] at requestedIff
  exact ⟨selection, folded, selected, success,
    fun request => Linked.isFirstHalf linked unrequested,
    Linked.isSingle linked unlinked transferId, requestedIff⟩

private theorem transferTo_of_unrecorded
    (selected : Selection.select .general rules = .ok selection)
    (success : ofRules known selection.rules candidate = .ok folded)
    (uncredited : folded.recorded .destination = []) :
    folded.transferTo = candidate.transferTo := by
  have single : ∀ rule ∈ selection.rules, rule.OneOfEachKind := by
    intro rule member
    exact Selection.oneOfEachKind_of_select selected member
  obtain ⟨_, rfl⟩ := (ofRules_eq_ok_iff single).mp success
  rw [recorded_settlement (oneOfEachKind_of_matching selected)] at uncredited
  have none : Exclusive.first? known .destination
      (selection.rules.filter (Rule.fits candidate)) = none := by
    simpa using uncredited
  exact congrArg (fun first? => Option.or first? candidate.transferTo) none

/-- Folding that credits no destination and settles no transfer leaves a
candidate that is made a transfer when it strays. -/
theorem Linked.requested_iff_strays {issues : List Issue}
    (linked : Linked known ids (folded.reporting issues) outcome)
    (transferId : folded.transferId = candidate.transferId)
    (unrequested : folded.transferRequest = none)
    (left : folded.transferTo = candidate.transferTo)
    (uncredited : folded.recorded .destination = [])
    (otherType : folded.type ≠ transferType) :
    outcome.1.transferRequest.isSome = true ↔
      ∃ destination, Strays known candidate folded destination := by
  rw [linked.requested_iff unrequested]
  constructor
  · rintro ⟨unlinked, destination, destined, allowed, apart⟩
    exact ⟨destination, {
      unlinked := transferId ▸ unlinked
      carried := left ▸ destined
      allowed, apart, uncredited, otherType }⟩
  · rintro ⟨destination, strays⟩
    have unlinked : nonEmpty? folded.transferId = none :=
      transferId ▸ strays.unlinked
    have destined : nonEmpty? folded.transferTo = some destination :=
      left ▸ strays.carried
    exact ⟨unlinked, destination, destined, strays.allowed, strays.apart⟩

/-- A transfer is asked for on account of a rule that is credited with its
destination, or of a type that is settled as transfer, unless the candidate
strays. -/
theorem credited_or_transfer_iff_not_strays
    (success : resolve known ids rules candidate = .ok outcome) :
    ∃ selection folded, Selection.select .general rules = .ok selection ∧
      ofRules known selection.rules candidate = .ok folded ∧
      ((outcome.1.transferRequest.isSome = true →
          outcome.1.recorded .destination ≠ [] ∨ folded.type = transferType) ↔
        ¬ ∃ destination, Strays known candidate folded destination) := by
  obtain ⟨selection, folded, selected, success, linked⟩ :=
    linked_of_resolve success
  obtain ⟨_, transferId, unrequested⟩ := carries_of_ofRules success
  refine ⟨selection, folded, selected, success, ?_⟩
  have credited : outcome.1.recorded .destination =
      folded.recorded .destination :=
    linked.recorded_eq .destination
  rw [credited]
  by_cases justified : folded.recorded .destination ≠ [] ∨
    folded.type = transferType
  · refine iff_of_true (fun _ => justified) ?_
    rintro ⟨destination, strays⟩
    rcases justified with some | transfer
    · exact some strays.uncredited
    · exact strays.otherType transfer
  · obtain ⟨uncredited, otherType⟩ := not_or.mp justified
    have uncredited : folded.recorded .destination = [] := not_not.mp uncredited
    have left : folded.transferTo = candidate.transferTo :=
      transferTo_of_unrecorded selected success uncredited
    rw [← Linked.requested_iff_strays linked transferId unrequested left
      uncredited otherType]
    exact imp_congr_right fun _ => iff_of_false justified not_false

end Asking

theorem first_half_or_single_rent :
    nonEmpty? rent.transferId = none ∧
      ∃ outcome, resolve rentAccounts .transfers rentRules rent = .ok outcome ∧
        outcome.1.transferRequest.map TransferRequest.destination =
          some "joint" ∧
        ∃ selection folded,
          Selection.select .general rentRules = .ok selection ∧
          ofRules rentAccounts selection.rules rent = .ok folded ∧
          (∀ request, outcome.1.transferRequest = some request →
            IsFirstHalf rentAccounts outcome.1 request) ∧
          (outcome.1.transferRequest = none →
            IsSingle rent selection.issues folded outcome.1) ∧
          (outcome.1.transferRequest.isSome = true ↔
            ∃ destination, nonEmpty? folded.transferTo = some destination ∧
              rentAccounts.allow destination = true ∧
              folded.accountId ≠ some destination) := by
  have seen : (resolve rentAccounts .transfers rentRules rent).toOption.map
      (fun outcome =>
        outcome.1.transferRequest.map TransferRequest.destination) =
      some (some "joint") := by
    cbv
  obtain ⟨outcome, success, requested⟩ := exists_ok_of_seen seen
  exact ⟨rfl, outcome, success, requested, first_half_or_single rfl success⟩

/-- A payment of some type, to another account. -/
def payment (type : String) : Candidate where
  description := some "Lunch"
  amount := .ofInt 5
  type := type
  accountId := some "wallet"
  transferTo := some "savings"

theorem credited_or_transfer_iff_not_strays_payment :
    ∃ outcome, resolve rentAccounts .transfers [] (payment "transfer") =
      .ok outcome ∧
      outcome.1.transferRequest.isSome = true ∧
      ∃ selection folded, Selection.select .general [] = .ok selection ∧
        ofRules rentAccounts selection.rules (payment "transfer") = .ok folded ∧
        ((outcome.1.transferRequest.isSome = true →
            outcome.1.recorded .destination ≠ [] ∨ folded.type = transferType) ↔
          ¬ ∃ destination,
            Strays rentAccounts (payment "transfer") folded destination) := by
  have seen : (resolve rentAccounts .transfers []
      (payment "transfer")).toOption.map
      (fun outcome => outcome.1.transferRequest.isSome) = some true := by
    cbv
  obtain ⟨outcome, success, requested⟩ := exists_ok_of_seen seen
  exact ⟨outcome, success, requested, credited_or_transfer_iff_not_strays
    success⟩

/-- An expense that no rule touches becomes a transfer. -/
theorem not_justified_payment :
    ∃ outcome folded, resolve rentAccounts .transfers [] (payment "expense") =
      .ok outcome ∧
      ofRules rentAccounts [] (payment "expense") = .ok folded ∧
      outcome.1.transferRequest.isSome = true ∧
      ¬ (outcome.1.recorded .destination ≠ [] ∨
        folded.type = transferType) := by
  have seen : (resolve rentAccounts .transfers []
      (payment "expense")).toOption.map
      (fun outcome =>
        (outcome.1.transferRequest.isSome, outcome.1.recorded .destination)) =
      some (true, []) := by
    cbv
  obtain ⟨outcome, success, same⟩ := exists_ok_of_seen seen
  obtain ⟨requested, uncredited⟩ := Prod.mk.inj same
  refine ⟨outcome, _, success, rfl, requested, ?_⟩
  rintro (credited | transfer)
  · exact credited uncredited
  · exact absurd transfer (by decide)

end Resolution

end LedgerRules
