import LedgerRules.Proofs.Service.Booking
import LedgerRules.Proofs.Store.Relinking

/-!
# Answers to bookings that differ in identifiers of transfers

The checks before a booking and the answer to it never look at the identifier of
a transfer, so alike bookings are answered with one status and insert the same
rows up to renaming their transfer.
-/

namespace LedgerRules

namespace Service

open Store

variable {rename : Option String → Option String}

private theorem replaced_withTransferIds (mode : BookingMode) (store : Store)
    (ids : IdSource) :
    replaced mode { store with transferIds := ids } =
      (replaced mode store).map fun ready =>
        { ready with transferIds := ids } := by
  unfold replaced
  cases nonEmpty? mode.replace with
  | none => rfl
  | some id =>
      have same : Store.transaction id { store with transferIds := ids } =
          store.transaction id := rfl
      simp only [deleteTransaction, same]
      cases store.transaction id <;> rfl

/-- Bookings of resolutions that differ in the transfer alone are alike. -/
theorem alike_bookResolved {resolution other : Resolution} {mode : BookingMode}
    {store : Store} (relinks : Relinks rename resolution other)
    (halves : ∀ ready, replaced mode store = .ok ready →
      HalvesAlike rename ready resolution other)
    (ids : IdSource) :
    ∃ before, before.map TransactionRow.id =
      store.transactions.map TransactionRow.id ∧
      Alike rename before (bookResolved mode resolution store)
        (bookResolved mode other { store with transferIds := ids }) := by
  have account : hasAccount other { store with transferIds := ids } =
      hasAccount resolution store := by
    rw [show other = _ from relinks]
    rfl
  have conflict : conflicting mode other { store with transferIds := ids } =
      conflicting mode resolution store := by
    rw [show other = _ from relinks]
    rfl
  unfold bookResolved
  rw [account, conflict, replaced_withTransferIds mode store ids]
  split
  case isFalse => exact ⟨_, rfl, .failed _⟩
  case isTrue =>
    split
    case h_1 => exact ⟨_, rfl, .failed _⟩
    case h_2 => exact ⟨_, rfl, .failed _⟩
    case h_3 =>
      cases replacing : replaced mode store with
      | error fault => exact ⟨_, rfl, .failed _⟩
      | ok ready =>
          refine ⟨ready.transactions, ?_, ?_⟩
          · rcases replaced_eq_ok replacing with rfl | ⟨deleted, _, rfl⟩
            · rfl
            · simp [Function.comp_def]
          · exact (alike_book rename relinks (halves ready replacing) _
              ids).mapError Refusal.fault

theorem showTransaction_relinked (rename : Option String → Option String)
    (row : TransactionRow) :
    (showTransaction (row.relinked rename)).map (fun _ => ()) =
      (showTransaction row).map (fun _ => ()) := by
  have amount : Payload.required (row.relinked rename).shownFields "amount"
      Payload.decimal =
      Payload.required row.shownFields "amount" Payload.decimal := by
    simp [Payload.required, TransactionRow.shownFields, TransactionRow.relinked,
      Json.lookUp]
  have applied : Payload.optional (row.relinked rename).shownFields
      "applied_rules"
        (Payload.list shownObject) =
      Payload.optional row.shownFields "applied_rules"
        (Payload.list shownObject) := by
    simp [Payload.optional, Payload.defaulted, TransactionRow.shownFields,
      TransactionRow.relinked, Json.lookUp]
  unfold showTransaction
  rw [amount, applied]
  dsimp only
  split <;> rfl

/-- Two outcomes agree when they have one status, and the rows that they insert
into a table differ only in their transfer, which is renamed. -/
structure Agree (rename : Option String → Option String) (store : Store)
    (outcome other : Outcome) : Prop where
  status : other.result.map Response.status = outcome.result.map Response.status
  rows : ∃ before rows : List TransactionRow,
    before.map TransactionRow.id = store.transactions.map TransactionRow.id ∧
      outcome.store.transactions = before ++ rows ∧
      other.store.transactions = before ++ rows.map (·.relinked rename)

theorem agree_of_same {store : Store} {outcome other : Outcome}
    (status : other.result.map Response.status =
      outcome.result.map Response.status)
    (unchanged : outcome.store.transactions = store.transactions)
    (otherUnchanged : other.store.transactions = store.transactions) :
    Agree rename store outcome other where
  status := status
  rows := ⟨store.transactions, [], rfl, by rw [unchanged, List.append_nil],
    by rw [otherUnchanged, List.map_nil, List.append_nil]⟩

/-- Alike bookings are answered in agreement. -/
theorem agree_bookingOutcome {store left right : Store}
    {before : List TransactionRow}
    {outcome other : Except Refusal (TransactionRow × Store)}
    (sameIds : before.map TransactionRow.id =
      store.transactions.map TransactionRow.id)
    (alike : Alike rename before outcome other)
    (leftRows : left.transactions = store.transactions)
    (rightRows : right.transactions = store.transactions) :
    Agree rename store (bookingOutcome left outcome)
      (bookingOutcome right other) := by
  cases alike with
  | failed refusal =>
      apply agree_of_same
      · unfold bookingOutcome
        split <;> rfl
      · rw [store_bookingOutcome_error, leftRows]
      · rw [store_bookingOutcome_error, rightRows]
  | @inserted row after last rows appended otherAppended =>
      refine ⟨?_, before, rows, sameIds, appended, otherAppended⟩
      have shown := showTransaction_relinked rename row
      simp only [bookingOutcome, bind, Except.bind, pure, Except.pure]
      cases left : showTransaction row with
      | error fault =>
          cases right : showTransaction (row.relinked rename) with
          | error otherFault =>
              rw [left, right] at shown
              cases shown
              rfl
          | ok body =>
              rw [left, right] at shown
              cases shown
      | ok body =>
          cases right : showTransaction (row.relinked rename) with
          | error otherFault =>
              rw [left, right] at shown
              cases shown
          | ok otherBody => rfl

end Service

end LedgerRules
