import LedgerRules.Proofs.Outcomes
import LedgerRules.Resolution.Engine

/-!
# What resolving does

`Linked` lists what linking can do to a resolution, and `Carries` what folding
takes over from the candidate.  A resolution is a folded candidate that was
linked.
-/

namespace LedgerRules

theorem nonEmpty?_eq_some_iff {value? : Option String} {value : String} :
    nonEmpty? value? = some value ↔ value? = some value ∧ value ≠ "" := by
  unfold nonEmpty?
  split
  case h_1 =>
    constructor
    · intro present
      cases present
    · rintro ⟨same, different⟩
      cases same
      exact (different rfl).elim
  case h_2 notEmpty =>
    constructor
    · intro present
      subst present
      refine ⟨rfl, ?_⟩
      intro empty
      exact notEmpty (by rw [empty])
    · intro present
      exact present.1

theorem IdSupply.nonEmpty?_yields (supply : IdSupply) (asked : ℕ) :
    nonEmpty? (some (supply.yields asked)) = some (supply.yields asked) :=
  nonEmpty?_eq_some_iff.mpr ⟨rfl, supply.nonEmpty asked⟩

theorem IdSource.nonEmpty?_next (source : IdSource) :
    nonEmpty? (some source.next.1) = some source.next.1 :=
  source.supply.nonEmpty?_yields source.issued

namespace Resolution

/-- What linking can do to a resolution. -/
inductive Linked (known : KnownAccounts) (ids : IdSource)
    (resolution : Resolution) :
    Resolution × IdSource → Prop where
  | noDestination (absent : nonEmpty? resolution.transferTo = none) :
      Linked known ids resolution (resolution, ids)
  | already {destination transferId : String}
      (destined : nonEmpty? resolution.transferTo = some destination)
      (linked : nonEmpty? resolution.transferId = some transferId) :
      Linked known ids resolution (resolution, ids)
  | unknown {destination : String}
      (destined : nonEmpty? resolution.transferTo = some destination)
      (unlinked : nonEmpty? resolution.transferId = none)
      (refused : known.allow destination = false) :
      Linked known ids resolution (resolution.withoutDestination
        ("destination account " ++ destination ++ " not found"), ids)
  | own {destination : String}
      (destined : nonEmpty? resolution.transferTo = some destination)
      (unlinked : nonEmpty? resolution.transferId = none)
      (allowed : known.allow destination = true)
      (same : resolution.accountId = some destination) :
      Linked known ids resolution (resolution.withoutDestination
        ("destination account " ++ destination ++ " is the source account"),
        ids)
  | paired {destination : String}
      (destined : nonEmpty? resolution.transferTo = some destination)
      (unlinked : nonEmpty? resolution.transferId = none)
      (allowed : known.allow destination = true)
      (apart : resolution.accountId ≠ some destination) :
      Linked known ids resolution
        ({ resolution with
            type := transferType
            transferId := some ids.next.1
            transferRequest :=
              some (resolution.otherHalf ids.next.1 destination) },
          ids.next.2)

/-- Linking does one of the things it can do. -/
theorem linked_link (known : KnownAccounts) (ids : IdSource)
    (resolution : Resolution) :
    Linked known ids resolution (resolution.link known ids) := by
  unfold link linkFrom
  cases destined : nonEmpty? resolution.transferTo with
  | none => exact .noDestination destined
  | some destination =>
      cases linked : nonEmpty? resolution.transferId with
      | some transferId =>
          simp only [Option.isSome_some, if_true]
          exact .already destined linked
      | none =>
          simp only [Option.isSome_none, Bool.false_eq_true, if_false]
          cases allowed : known.allow destination with
          | false =>
              simp only [Bool.not_false, if_true]
              exact .unknown destined linked allowed
          | true =>
              simp only [Bool.not_true, Bool.false_eq_true, if_false]
              split
              case isTrue same => exact .own destined linked allowed same
              case isFalse apart => exact .paired destined linked allowed apart

/-- Linking does nothing else. -/
theorem link_eq_of_linked {known : KnownAccounts} {ids : IdSource}
    {resolution : Resolution} {outcome : Resolution × IdSource}
    (linked : Linked known ids resolution outcome) :
    resolution.link known ids = outcome := by
  cases linked with
  | noDestination absent => simp [link, linkFrom, absent]
  | already destined linked => simp [link, linkFrom, destined, linked]
  | unknown destined unlinked refused =>
      simp [link, linkFrom, destined, unlinked, refused]
  | own destined unlinked allowed same =>
      simp [link, linkFrom, destined, unlinked, allowed, same]
  | paired destined unlinked allowed apart =>
      simp [link, linkFrom, IdSource.next, destined, unlinked, allowed, apart]

/-- Linking leaves account, category and audit trail alone. -/
theorem Linked.keeps {known : KnownAccounts} {ids : IdSource}
    {resolution : Resolution} {outcome : Resolution × IdSource}
    (linked : Linked known ids resolution outcome) :
    outcome.1.accountId = resolution.accountId ∧
    outcome.1.categoryId = resolution.categoryId ∧
      outcome.1.appliedRules = resolution.appliedRules := by
  cases linked <;> exact ⟨rfl, rfl, rfl⟩

/-- Linking leaves the type alone unless it asks for a transfer. -/
theorem Linked.type_eq {known : KnownAccounts} {ids : IdSource}
    {resolution : Resolution} {outcome : Resolution × IdSource}
    (linked : Linked known ids resolution outcome)
    (unrequested : resolution.transferRequest = none) :
    outcome.1.type =
      if outcome.1.transferRequest.isSome then transferType
        else resolution.type := by
  cases linked with
  | paired => rfl
  | _ => simp [withoutDestination, unrequested]

/-- A known destination is given up only by a resolution that is not linked, and
only when it is the account itself. -/
theorem Linked.transferTo_eq_iff {known : KnownAccounts} {ids : IdSource}
    {resolution : Resolution} {outcome : Resolution × IdSource}
    {destination : String} (linked : Linked known ids resolution outcome)
    (destined : nonEmpty? resolution.transferTo = some destination)
    (allowed : known.allow destination = true) :
    outcome.1.transferTo = some destination ↔
      ¬ (nonEmpty? outcome.1.transferId = none ∧
        outcome.1.accountId = some destination) := by
  have present := (nonEmpty?_eq_some_iff.mp destined).1
  cases linked with
  | noDestination absent =>
      rw [destined] at absent
      cases absent
  | already _ linked =>
      refine iff_of_true present ?_
      rintro ⟨unlinked, _⟩
      rw [linked] at unlinked
      cases unlinked
  | unknown destinedTo _ refused =>
      cases destined.symm.trans destinedTo
      rw [allowed] at refused
      cases refused
  | own destinedTo unlinked _ same =>
      cases destined.symm.trans destinedTo
      refine iff_of_false nofun (not_not_intro ⟨unlinked, same⟩)
  | paired =>
      refine iff_of_true present ?_
      rintro ⟨unlinked, _⟩
      rw [ids.nonEmpty?_next] at unlinked
      cases unlinked

/-- A resolution has what rules do not touch from a candidate. -/
structure Carries (candidate : Candidate) (resolution : Resolution) : Prop where
  description : resolution.description = candidate.description
  amount : resolution.amount = candidate.amount
  source : resolution.source = candidate.source
  rawText : resolution.rawText = candidate.rawText
  transactionDate : resolution.transactionDate = candidate.transactionDate
  transactionTime : resolution.transactionTime = candidate.transactionTime

/-- A folded candidate is not linked any further. -/
theorem carries_of_ofRules {known : KnownAccounts} {rules : List Rule}
    {candidate : Candidate} {resolution : Resolution}
    (success : ofRules known rules candidate = .ok resolution) :
    Carries candidate resolution ∧
    resolution.transferId = candidate.transferId ∧
      resolution.transferRequest = none := by
  obtain ⟨⟨settling, applied⟩, _, success⟩ := bind_eq_ok_iff.mp success
  cases success
  exact ⟨⟨rfl, rfl, rfl, rfl, rfl, rfl⟩, rfl, rfl⟩

theorem folded_eq_ok_iff {known : KnownAccounts} {rules : List Rule}
    {candidate : Candidate} {resolution : Resolution} :
    folded known rules candidate = .ok resolution ↔
      ofRules known rules candidate = .ok resolution := by
  unfold folded
  cases ofRules known rules candidate <;> simp

theorem selected_eq_ok_iff {intent : Intent} {rules : List StoredRule}
    {selection : Selection} :
    selected intent rules = .ok selection ↔
      Selection.select intent rules = .ok selection := by
  unfold selected
  cases Selection.select intent rules <;> simp

theorem resolve_eq_ok_iff {known : KnownAccounts} {ids : IdSource}
    {rules : List StoredRule} {candidate : Candidate}
    {result : Resolution × IdSource} :
    resolve known ids rules candidate = .ok result ↔
      ∃ selection resolution, Selection.select .general rules = .ok selection ∧
        ofRules known selection.rules candidate = .ok resolution ∧
        { resolution with issues := selection.issues ++ resolution.issues }.link
          known ids =
          result := by
  unfold resolve
  simp only [bind_eq_ok_iff, selected_eq_ok_iff, folded_eq_ok_iff, pure,
    Except.pure, Except.ok.injEq, exists_and_left]

/-- A resolution is a folded candidate, with the issues of the selection in
front, that was linked. -/
theorem linked_of_resolve {known : KnownAccounts} {ids : IdSource}
    {rules : List StoredRule} {candidate : Candidate}
    {result : Resolution × IdSource}
    (success : resolve known ids rules candidate = .ok result) :
    ∃ selection folded, Selection.select .general rules = .ok selection ∧
      ofRules known selection.rules candidate = .ok folded ∧
      Linked known ids
        { folded with issues := selection.issues ++ folded.issues } result := by
  obtain ⟨selection, folded, selected, ofRules, link⟩ :=
    resolve_eq_ok_iff.mp success
  refine ⟨selection, folded, selected, ofRules, ?_⟩
  rw [← link]
  exact linked_link known ids _

/-- The two kinds of outcomes of resolving a candidate: one that asks for no new
transfer, and one that is the first half of a new transfer. -/
inductive Resolved (known : KnownAccounts) (ids : IdSource)
    (candidate : Candidate) :
    Resolution → IdSource → Prop where
  | single {resolution : Resolution} (carries : Carries candidate resolution)
      (transferId : resolution.transferId = candidate.transferId)
      (request : resolution.transferRequest = none)
      (settled : nonEmpty? resolution.transferTo = none ∨
        ∃ transferId, nonEmpty? resolution.transferId = some transferId) :
      Resolved known ids candidate resolution ids
  | paired {resolution : Resolution} {destination : String}
      (carries : Carries candidate resolution)
      (unlinked : nonEmpty? candidate.transferId = none)
      (destined : nonEmpty? resolution.transferTo = some destination)
      (allowed : known.allow destination = true)
      (apart : resolution.accountId ≠ some destination)
      (type : resolution.type = transferType)
      (transferId : resolution.transferId = some ids.next.1)
      (request : resolution.transferRequest =
        some (resolution.otherHalf ids.next.1 destination)) :
      Resolved known ids candidate resolution ids.next.2

theorem Resolved.carries {known : KnownAccounts} {ids after : IdSource}
    {candidate : Candidate} {resolution : Resolution}
    (resolved : Resolved known ids candidate resolution after) :
    Carries candidate resolution := by
  cases resolved with
  | single carries => exact carries
  | paired carries => exact carries

/-- A resolution that needs no linking any more: it has no destination or is
linked already. -/
theorem Resolved.settled {known : KnownAccounts} {ids after : IdSource}
    {candidate : Candidate} {resolution : Resolution}
    (resolved : Resolved known ids candidate resolution after) :
    nonEmpty? resolution.transferTo = none ∨
      ∃ transferId, nonEmpty? resolution.transferId = some transferId := by
  cases resolved with
  | single _ _ _ settled => exact settled
  | paired _ _ _ _ _ _ transferId =>
      refine .inr ⟨ids.next.1, ?_⟩
      rw [transferId]
      exact ids.nonEmpty?_next

/-- A resolution that linking has nothing to do with. -/
def IsSettled (resolution : Resolution) : Prop :=
  nonEmpty? resolution.transferTo = none ∨
    ∃ transferId, nonEmpty? resolution.transferId = some transferId

theorem linkFrom_of_settled {resolution : Resolution}
    (settled : resolution.IsSettled) (known : KnownAccounts) (supply : IdSupply)
    (asked : ℕ) :
    resolution.linkFrom known supply asked = (resolution, asked) := by
  unfold linkFrom
  rcases settled with absent | ⟨transferId, linked⟩
  · rw [absent]
  · split
    · rfl
    · exact if_pos (by rw [linked]; rfl)

theorem link_of_settled {resolution : Resolution}
    (settled : resolution.IsSettled) (known : KnownAccounts) (ids : IdSource) :
    resolution.link known ids = (resolution, ids) := by
  rw [link, linkFrom_of_settled settled]

theorem resolved_of_resolve {known : KnownAccounts} {ids : IdSource}
    {rules : List StoredRule} {candidate : Candidate} {resolution : Resolution}
    {after : IdSource}
    (success : resolve known ids rules candidate = .ok (resolution, after)) :
    Resolved known ids candidate resolution after := by
  obtain ⟨selection, folded, _, ofRules, linked⟩ := linked_of_resolve success
  obtain ⟨⟨description, amount, source, rawText, date, time⟩, transferId,
    request⟩ :=
    carries_of_ofRules ofRules
  cases linked with
  | noDestination absent =>
      exact .single ⟨description, amount, source, rawText, date, time⟩
        transferId request
        (.inl absent)
  | already destined linked =>
      exact .single ⟨description, amount, source, rawText, date, time⟩
        transferId request
        (.inr ⟨_, linked⟩)
  | unknown destined unlinked refused =>
      exact .single ⟨description, amount, source, rawText, date, time⟩
        transferId request
        (.inl rfl)
  | own destined unlinked allowed same =>
      exact .single ⟨description, amount, source, rawText, date, time⟩
        transferId request
        (.inl rfl)
  | paired destined unlinked allowed apart =>
      exact .paired ⟨description, amount, source, rawText, date, time⟩
        (transferId ▸ unlinked) destined allowed apart rfl rfl rfl

end Resolution

end LedgerRules
