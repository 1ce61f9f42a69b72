import LedgerRules.Proofs.Service.Booking

/-!
# On which accounts rows are booked

A booking puts its transaction on an account that exists.  The other half of a
transfer goes to such an account as well, and to another one, unless the body
carries the transfer: then nobody asks where the half goes, and a request may
stray.
-/

namespace LedgerRules

namespace Service

open Resolution Store

/-- Rows on accounts that exist, each on another one than the rows before it. -/
structure WellPlaced (accountIds : List String)
    (rows : List TransactionRow) : Prop where
  exist : ∀ row ∈ rows, row.accountId ∈ accountIds
  apart : rows.Pairwise fun first second => first.accountId ≠ second.accountId

private theorem wellPlaced_nil (accountIds : List String) :
    WellPlaced accountIds [] where
  exist _ member := nomatch member
  apart := .nil

theorem wellPlaced_singleton {accountIds : List String} {row : TransactionRow}
    (exist : row.accountId ∈ accountIds) : WellPlaced accountIds [row] where
  exist _ member := List.mem_singleton.mp member ▸ exist
  apart := List.pairwise_singleton _ _

theorem wellPlaced_pair_iff {accountIds : List String}
    {row half : TransactionRow} (exist : row.accountId ∈ accountIds) :
    WellPlaced accountIds [row, half] ↔
      half.accountId ∈ accountIds ∧ row.accountId ≠ half.accountId := by
  constructor
  · intro placed
    exact ⟨placed.exist half (by simp), by simpa using placed.apart⟩
  · rintro ⟨halfExists, apart⟩
    refine ⟨?_, by simpa using apart⟩
    intro either member
    simp only [List.mem_cons, List.not_mem_nil, or_false] at member
    rcases member with rfl | rfl
    · exact exist
    · exact halfExists

/-- A candidate carries a transfer that has no live half on the destination of
its resolution, and the destination does not exist or is the account of the
resolution. -/
def Misplaces (accountIds : List String) (candidate : Candidate)
    (resolution : Resolution) (ready : Store) : Prop :=
  ∃ transferId destination, nonEmpty? candidate.transferId = some transferId ∧
    nonEmpty? resolution.transferTo = some destination ∧
    ready.hasTransferHalf transferId destination = false ∧
    (destination ∉ accountIds ∨ resolution.accountId = some destination)

theorem placed_iff_not_misplaces {accountIds : List String}
    {candidate : Candidate} {resolution : Resolution} {ready : Store}
    {accountId transferId destination : String}
    (account : resolution.accountId = some accountId)
    (carried : nonEmpty? candidate.transferId = some transferId)
    (destined : nonEmpty? resolution.transferTo = some destination)
    (absent : ready.hasTransferHalf transferId destination = false) :
    (destination ∈ accountIds ∧ accountId ≠ destination) ↔
      ¬ Misplaces accountIds candidate resolution ready := by
  constructor
  · rintro ⟨known, apart⟩ ⟨_, other, _, otherDestined, _, misplaced⟩
    rw [destined] at otherDestined
    cases otherDestined
    rcases misplaced with unknown | own
    · exact unknown known
    · rw [account] at own
      exact apart (Option.some.inj own)
  · intro placed
    constructor
    · refine Classical.byContradiction fun unknown => placed ?_
      exact ⟨transferId, destination, carried, destined, absent, .inl unknown⟩
    · intro own
      refine placed ⟨transferId, destination, carried, destined, absent,
        .inr ?_⟩
      rw [account, own]

private theorem wellPlaced_of_book_iff {accountIds : List String}
    {ids after : IdSource} {candidate : Candidate} {resolution : Resolution}
    {duplicateStatus : Option String} {ready last : Store}
    {row : TransactionRow}
    (resolved : Resolved (some accountIds) ids candidate resolution after)
    (exist : resolution.accountId.any accountIds.contains = true)
    (success : ready.book resolution duplicateStatus = .ok (row, last)) :
    ∃ rows, last.transactions = ready.transactions ++ rows ∧
      (WellPlaced accountIds rows ↔
        ¬ Misplaces accountIds candidate resolution ready) := by
  have wanted := wanted_wantedHalf resolved ready
  cases booked_of_book success with
  | single account noHalf inserted =>
      have rowAccount := Option.some.inj inserted.accountId
      rw [account, Option.any_some, rowAccount, List.contains_iff_mem] at exist
      refine ⟨[row], inserted.transactions,
        iff_of_true (wellPlaced_singleton exist) ?_⟩
      rw [noHalf] at wanted
      cases wanted with
      | nothing _ complete =>
          rintro ⟨transferId, destination, carried, destined, absent, _⟩
          rw [complete transferId destination carried destined] at absent
          cases absent
  | @paired accountId request half between account asked inserted halved =>
      have rowAccount : accountId = row.accountId :=
        Option.some.inj inserted.accountId
      have halfAccount : request.destination = half.accountId :=
        Option.some.inj halved.accountId
      rw [account, Option.any_some, List.contains_iff_mem] at exist
      have both : last.transactions = ready.transactions ++ [row, half] := by
        rw [halved.transactions, inserted.transactions, List.append_assoc]
        rfl
      refine ⟨[row, half], both,
        (wellPlaced_pair_iff (rowAccount ▸ exist)).trans ?_⟩
      rw [← rowAccount, ← halfAccount]
      rw [asked] at wanted
      cases wanted with
      | @new destination unlinked _ allowed apart =>
          refine iff_of_true ⟨List.contains_iff_mem.mp allowed, ?_⟩ ?_
          · intro own
            rw [account, own] at apart
            exact apart rfl
          · rintro ⟨_, _, carried, _⟩
            rw [unlinked] at carried
            cases carried
      | carried carried destined absent =>
          exact placed_iff_not_misplaces account carried destined absent

def insertedBy (request : Request) (store : Store) : List TransactionRow :=
  (respond request store).store.transactions.drop store.transactions.length

/-- A request strays when it is booked and its candidate misplaces the other
half of a transfer. -/
inductive Request.Strays (request : Request) (store : Store) : Prop where
  | intro {mode : BookingMode} {transaction : Payload.TransactionRequest}
      {row : TransactionRow} {after resolved ready : Store}
        {resolution : Resolution}
      (asks : request.Asks store.clock.today mode transaction)
      (success : booked mode transaction store = .ok (row, after))
      (resolving : resolveRequest transaction store =
        .ok (resolution, resolved))
      (replacing : replaced mode resolved = .ok ready)
      (misplaces : Misplaces store.existingAccountIds
        (candidateOf transaction.candidate)
        resolution ready) :
      request.Strays store

theorem wellPlaced_insertedBy_iff {request : Request}
    (booking : request.IsBooking) (store : Store) :
    WellPlaced store.existingAccountIds (insertedBy request store) ↔
      ¬ request.Strays store := by
  cases answered_respond booking store with
  | refused never left =>
      have none : insertedBy request store = [] := by
        rw [insertedBy, left, List.drop_length]
      rw [none]
      refine iff_of_true (wellPlaced_nil _) ?_
      rintro ⟨asks, success, _, _, _⟩
      exact never _ _ asks _ _ success
  | @booked mode transaction row after asks success left =>
      obtain ⟨resolution, resolved, ready, resolving, exist, _, replacing,
        booking⟩ :=
        booked_eq_ok success
      obtain ⟨outcome, same⟩ := resolved_of_resolveRequest resolving
      have accounts : resolved.existingAccountIds =
          store.existingAccountIds := by rw [same]; rfl
      rw [hasAccount, accounts] at exist
      obtain ⟨rows, appended, placed⟩ :=
        wellPlaced_of_book_iff outcome exist booking
      have length : ready.transactions.length = store.transactions.length := by
        rw [length_replaced replacing, same]
      have inserted : insertedBy request store = rows := by
        rw [insertedBy, left, appended, ← length, List.drop_left]
      rw [inserted, placed]
      apply not_congr
      constructor
      · intro misplaces
        exact .intro asks success resolving replacing misplaces
      · rintro ⟨otherAsks, _, otherResolving, otherReplacing, misplaces⟩
        obtain ⟨rfl, rfl, rfl⟩ :=
          asks.unique_booking otherAsks resolving otherResolving replacing
            otherReplacing
        exact misplaces

theorem wellPlaced_insertedBy_of_carriesNoTransfer {request : Request}
    (booking : request.IsBooking) (bare : request.CarriesNoTransfer)
    (store : Store) :
    WellPlaced store.existingAccountIds (insertedBy request store) := by
  apply (wellPlaced_insertedBy_iff booking store).mpr
  rintro ⟨asks, _, _, _, transferId, _, carried, _⟩
  change nonEmpty? _ = some transferId at carried
  rw [candidateOf, asks.transferId_eq_none bare] at carried
  cases carried

/-- Each request of a run inserts rows that are well placed at that moment. -/
def Placed : Store → List Request → Prop
  | _, [] => True
  | store, request :: rest =>
      WellPlaced store.existingAccountIds (insertedBy request store) ∧
        Placed (respond request store).store rest

/-- Some request of a run strays. -/
def Astray : Store → List Request → Prop
  | _, [] => False
  | store, request :: rest =>
      request.Strays store ∨ Astray (respond request store).store rest

/-- A run of requests whose bodies carry no transfer places every row well. -/
theorem placed_of_carriesNoTransfer {requests : List Request}
    (bookings : ∀ request ∈ requests, request.IsBooking)
    (bare : ∀ request ∈ requests, request.CarriesNoTransfer) (store : Store) :
    Placed store requests := by
  induction requests generalizing store with
  | nil => trivial
  | cons request rest induction =>
      obtain ⟨booking, others⟩ := List.forall_mem_cons.mp bookings
      obtain ⟨first, later⟩ := List.forall_mem_cons.mp bare
      exact ⟨wellPlaced_insertedBy_of_carriesNoTransfer booking first store,
        induction others later (respond request store).store⟩

/-- A transfer to an account that does not exist. -/
def ghostly : Request :=
  movingTo "ghost"

end Service

end LedgerRules
