import LedgerRules.Proofs.Service.Booking
import LedgerRules.Proofs.Store.Pairing

/-!
# Bookings keep transfers paired

A request whose body carries no transfer books a single row that belongs to no
transfer, or both halves of a new one.  So every transfer in a table that grew
out of such requests has exactly its two halves, whatever they replaced.
-/

namespace LedgerRules

namespace Service

open Resolution Store

private theorem halves_of_inserted {resolution : Resolution}
    {accountId destination transferId : String}
    {duplicateStatus : Option String} {ready between after : Store}
    {row half : TransactionRow}
    (account : resolution.accountId = some accountId)
    (settled : resolution.transferTo = some destination)
    (apart : resolution.accountId ≠ some destination)
    (type : resolution.type = transferType)
    (inserted : Inserted
      (primary resolution accountId (bookingDate resolution ready)
      duplicateStatus) ready row between)
    (halved : Inserted
      (Store.otherHalf (resolution.otherHalf transferId destination)
      (bookingDate resolution ready)) between half after)
    : Halves row half := by
  have rowAccount : accountId = row.accountId :=
    Option.some.inj inserted.accountId
  have halfAccount : destination = half.accountId :=
    Option.some.inj halved.accountId
  obtain ⟨amount, description, date, time⟩ :=
    inserted.records_primary.same_movement halved.records_otherHalf
  refine {
    apart := ?_
    firstTo := inserted.transferTo.trans (halfAccount ▸ settled)
    secondTo := halved.transferTo.trans (rowAccount ▸ account)
    firstType := inserted.type.trans type
    secondType := halved.type
    transactionDate := date
    transactionTime := time
    amount := amount
    description := description
    together := inserted.isDeleted.trans halved.isDeleted.symm }
  intro same
  rw [account, rowAccount, halfAccount, same] at apart
  exact apart rfl

theorem paired_of_book {known : KnownAccounts} {ids after : IdSource}
    {candidate : Candidate} {resolution : Resolution}
    {duplicateStatus : Option String} {ready last : Store}
    {row : TransactionRow}
    (resolved : Resolved known ids candidate resolution after)
    (bare : candidate.transferId = none) (paired : Paired ready.transactions)
    (fresh : Unused ids.next.1 ready.transactions)
    (success : ready.book resolution duplicateStatus = .ok (row, last)) :
    Paired last.transactions := by
  have wanted := wanted_wantedHalf resolved ready
  cases booked_of_book success with
  | single account noHalf inserted =>
      rw [noHalf] at wanted
      cases wanted with
      | nothing transferId _ =>
          rw [inserted.transactions]
          exact paired_append_single paired inserted.ownId
            (inserted.transferId.trans (transferId.trans bare))
  | paired account asked inserted halved =>
      rw [asked] at wanted
      cases wanted with
      | carried carried _ _ =>
          rw [bare] at carried
          cases carried
      | new _ destined _ apart type transferId =>
          have halves := halves_of_inserted account
            (nonEmpty?_eq_some_iff.mp destined).1 apart
            type inserted halved
          have ids := nodup_ids_of_book paired.ids success
          rw [halved.transactions, inserted.transactions] at ids ⊢
          exact paired_append_halves paired fresh ids
            (inserted.transferId.trans transferId)
            halved.transferId halves

theorem paired_replaced {mode : BookingMode} {store ready : Store}
    (success : replaced mode store = .ok ready)
    (paired : Paired store.transactions) :
    Paired ready.transactions := by
  rcases replaced_eq_ok success with rfl | ⟨row, member, rfl⟩
  · exact paired
  · exact paired_map_afterDeleting paired member

private theorem paired_of_booked {mode : BookingMode}
    {transaction : Payload.TransactionRequest} {store after : Store}
    {row : TransactionRow} (bare : transaction.candidate.transferId = none)
    (paired : Paired store.transactions) (fresh : FreshTransfer store)
    (success : booked mode transaction store = .ok (row, after)) :
    Paired after.transactions := by
  obtain ⟨resolution, resolved, ready, resolving, _, _, replacing, booking⟩ :=
    booked_eq_ok success
  obtain ⟨outcome, same⟩ := resolved_of_resolveRequest resolving
  have unchanged : resolved.transactions = store.transactions := by rw [same]
  rw [← unchanged] at paired
  have unused : Unused store.transferIds.next.1 resolved.transactions := by
    rw [unchanged]
    exact fresh
  exact paired_of_book outcome bare (paired_replaced replacing paired)
    (unused_replaced replacing unused) booking

/-- Stores that grow out of one without transactions by requests for bookings
whose bodies carry no transfer.  In between everything but the transactions may
change. -/
inductive Reached : Store → Prop where
  | start {store : Store} (empty : store.transactions = []) : Reached store
  | request {store : Store} {request : Request} (reached : Reached store)
      (booking : request.IsBooking) (bare : request.CarriesNoTransfer)
      (fresh : FreshTransfer store) : Reached (respond request store).store
  | change {store other : Store} (reached : Reached store)
      (same : other.transactions = store.transactions) : Reached other

private theorem paired_respond {request : Request} {store : Store}
    (booking : request.IsBooking) (bare : request.CarriesNoTransfer)
    (fresh : FreshTransfer store) (paired : Paired store.transactions) :
    Paired (respond request store).store.transactions := by
  cases answered_respond booking store with
  | booked asks success left =>
      rw [left]
      exact paired_of_booked (asks.transferId_eq_none bare) paired fresh success
  | refused _ left =>
      rw [left]
      exact paired

theorem Reached.paired {store : Store} (reached : Reached store) :
    Paired store.transactions := by
  induction reached with
  | start empty =>
      rw [empty]
      exact paired_nil
  | request _ booking bare fresh induction =>
      exact paired_respond booking bare fresh induction
  | change _ same induction =>
      rw [same]
      exact induction

/-- A transfer in a reached store has exactly its two halves. -/
theorem Reached.halves_of_mem {store : Store} (reached : Reached store)
    {row : TransactionRow} (member : row ∈ store.transactions)
    {transferId : String} (linked : row.transferId = some transferId) :
    ∃ first second, rowsOf transferId store.transactions = [first, second] ∧
      Halves first second := by
  rcases reached.paired.halves transferId with none | both
  · have here : row ∈ rowsOf transferId store.transactions :=
      mem_rowsOf.mpr ⟨member, linked⟩
    rw [none] at here
    cases here
  · exact both

/-- A request that moves money from one account to the other one. -/
def moving : Request where
  method := "POST"
  path := "/api/v1/transactions"
  body := some ("\x7b\"description\": \"Move\", \"amount\": \"5\", " ++
    "\"account_id\": \"wallet\", \"transfer_to_account_id\": \"savings\"\x7d")

/-- A request that replaces the second half of the transfer. -/
def undoing : Request where
  method := "POST"
  path := "/api/v1/transactions"
  query := [("replace", "txn-2")]
  body := some ("\x7b\"description\": \"Lunch\", \"amount\": \"5\", " ++
    "\"account_id\": \"wallet\"\x7d")

/-- The store after both requests. -/
def undone : Store :=
  (respond undoing (respond moving wallets).store).store

theorem Reached.halves_of_mem_undone :
    Reached undone ∧ ∃ row ∈ undone.transactions,
      row.transferId = some "transfer-1" ∧
      ∃ first second,
        rowsOf "transfer-1" undone.transactions = [first, second] ∧
        Halves first second := by
  have moved : Reached (respond moving wallets).store :=
    .request (.start rfl) ⟨by decide +kernel, rfl⟩ (by decide +kernel)
      (by decide +kernel)
  have reached : Reached undone :=
    .request moved ⟨by decide +kernel, rfl⟩ (by decide +kernel)
      (by decide +kernel)
  have present :
      (undone.transactions.any fun row => row.transferId = some "transfer-1") =
        true := by
    decide +kernel
  obtain ⟨row, member, linked⟩ := List.any_eq_true.mp present
  have transferId := of_decide_eq_true linked
  exact ⟨reached, row, member, transferId,
    reached.halves_of_mem member transferId⟩

end Service

end LedgerRules
