import LedgerRules.Proofs.Store.Duplicates
import LedgerRules.Proofs.Store.Insertions
import LedgerRules.Proofs.Store.Relinking

/-!
# Booking a linked transfer again

A resolution that comes linked, and asks for no other half by itself, may be
booked any number of times.  However often it is booked, the other half of its
transfer is inserted only when no live one stands on the destination.  So the
live halves there are as many as before, or one when there was none.
-/

namespace LedgerRules

/-- A resolution that comes with a transfer from its account to another one, and
asks for no other half by itself. -/
structure Resolution.ComesLinked (resolution : Resolution)
    (accountId transferId destination : String) : Prop where
  unrequested : resolution.transferRequest = none
  linked : nonEmpty? resolution.transferId = some transferId
  destined : nonEmpty? resolution.transferTo = some destination
  account : resolution.accountId = some accountId
  apart : accountId ≠ destination

/-- A resolution with a description, and an amount that is a number. -/
structure Resolution.IsStorable (resolution : Resolution) : Prop where
  amount : resolution.amount.isNaN = false
  description : resolution.description ≠ none

namespace Store

open Resolution (ComesLinked IsStorable)

/-- Whether a row is a live half of a transfer on an account. -/
def isHalf (transferId accountId : String) (row : TransactionRow) : Bool :=
  !row.isDeleted &&
    (row.transferId = some transferId && row.accountId = accountId)

/-- The number of live halves of a transfer on an account. -/
def halfCount (transferId accountId : String) (store : Store) : Nat :=
  store.transactions.countP (isHalf transferId accountId)

theorem hasTransferHalf_eq_false_iff {transferId accountId : String}
    {store : Store} :
    store.hasTransferHalf transferId accountId = false ↔
      store.halfCount transferId accountId = 0 := by
  rw [hasTransferHalf, liveTransactions, List.any_filter, halfCount,
    List.countP_eq_zero, List.any_eq_false]
  rfl

/-- A row that points back at a transaction and shows the same movement. -/
structure PointsBack (primary half : TransactionRow) : Prop where
  transferTo : half.transferTo = some primary.accountId
  amount : half.amount = primary.amount
  description : half.description = primary.description
  transactionDate : half.transactionDate = primary.transactionDate
  transactionTime : half.transactionTime = primary.transactionTime

theorem pointsBack_of_records {resolution : Resolution} {date : Date}
    {primary half : TransactionRow} (first : Records resolution date primary)
    (second : Records resolution date half)
    (back : half.transferTo = some primary.accountId) :
    PointsBack primary half := by
  obtain ⟨amount, description, transactionDate, time⟩ :=
    second.same_movement first
  exact ⟨back, amount, description, transactionDate, time⟩

variable {resolution : Resolution} {accountId transferId destination : String}
  {store : Store}

/-- A resolution that comes linked wants the other half exactly when no live one
stands on the destination. -/
theorem wantedHalf_of_comesLinked
    (linked : resolution.ComesLinked accountId transferId destination)
      (store : Store) :
    store.wantedHalf resolution =
      if store.halfCount transferId destination = 0 then
        some (resolution.otherHalf transferId destination)
      else none := by
  simp only [wantedHalf, linked.unrequested, linked.linked, linked.destined,
    ← hasTransferHalf_eq_false_iff]
  cases store.hasTransferHalf transferId destination <;> rfl

private theorem inserts_of_book
    (linked : resolution.ComesLinked accountId transferId destination)
    {duplicateStatus : Option String} {after : Store} {row : TransactionRow}
    (success : store.book resolution duplicateStatus = .ok (row, after)) :
    ∃ halves, after.transactions = store.transactions ++ row :: halves ∧
      row.accountId = accountId ∧
      halves.countP (isHalf transferId destination) + store.halfCount transferId
        destination =
        max 1 (store.halfCount transferId destination) ∧
      ∀ half ∈ halves, PointsBack row half := by
  have wanted := wantedHalf_of_comesLinked linked store
  have account := linked.account
  cases booked_of_book success with
  | single same noHalf inserted =>
      rw [account] at same
      cases same
      have present : store.halfCount transferId destination ≠ 0 := by
        intro none
        rw [noHalf, if_pos none] at wanted
        cases wanted
      refine ⟨[], inserted.transactions,
        (Option.some.inj inserted.accountId).symm, ?_, List.forall_mem_nil _⟩
      rw [List.countP_nil]
      omega
  | @paired _ request half between same asked inserted halved =>
      rw [account] at same
      cases same
      have onAccount : row.accountId = accountId :=
        (Option.some.inj inserted.accountId).symm
      rw [asked] at wanted
      split at wanted
      case isFalse => cases wanted
      case isTrue none =>
        cases wanted
        have onDestination : half.accountId = destination :=
          (Option.some.inj halved.accountId).symm
        have live : half.isDeleted = false := halved.isDeleted
        have linkedHalf : half.transferId = some transferId := halved.transferId
        refine ⟨[half], ?_, onAccount, ?_, ?_⟩
        · rw [halved.transactions, inserted.transactions, List.append_assoc]
          rfl
        · simp [isHalf, live, linkedHalf, onDestination, none]
        · intro other member
          rw [List.mem_singleton.mp member]
          apply pointsBack_of_records inserted.records_primary
            halved.records_otherHalf
          rw [onAccount]
          exact halved.transferTo.trans account

/-- The store on another day. -/
def onDay (day : Date) (store : Store) : Store :=
  { store with clock := { store.clock with today := day } }

/-- Books a resolution once for each of several days, with a status of its
own. -/
def bookEach (resolution : Resolution) :
    List (Date × Option String) → Store →
    Except StoreFault (List TransactionRow × Store)
  | [], store => .ok ([], store)
  | (day, duplicateStatus) :: rest, store => do
      let (row, store) ← (store.onDay day).book resolution duplicateStatus
      let (rows, store) ← bookEach resolution rest store
      return (row :: rows, store)

private theorem inserts_of_bookEach
    (linked : resolution.ComesLinked accountId transferId destination)
    {bookings : List (Date × Option String)} {primaries : List TransactionRow}
    {after : Store}
    (success : bookEach resolution bookings store = .ok (primaries, after)) :
    ∃ inserted, after.transactions = store.transactions ++ inserted ∧
      primaries.Sublist inserted ∧
      (∀ primary ∈ primaries, primary.accountId = accountId) ∧
      (∀ half ∈ inserted, half.accountId = destination →
        ∃ primary ∈ primaries, PointsBack primary half) ∧
      (bookings ≠ [] → after.halfCount transferId destination =
        max 1 (store.halfCount transferId destination)) := by
  induction bookings generalizing store primaries with
  | nil =>
      cases success
      exact ⟨[], (List.append_nil _).symm, .slnil, List.forall_mem_nil _,
        List.forall_mem_nil _, fun some => (some rfl).elim⟩
  | cons booking rest induction =>
      obtain ⟨⟨row, between⟩, booked, success⟩ := bind_eq_ok_iff.mp success
      obtain ⟨⟨rows, last⟩, bookedRest, success⟩ := bind_eq_ok_iff.mp success
      cases success
      obtain ⟨halves, appended, onAccount, halfCount, halvesBack⟩ :=
        inserts_of_book linked booked
      obtain ⟨inserted, appendedRest, sublist, primariesRest, halvesRest,
        countRest⟩ :=
        induction bookedRest
      -- The transaction itself stands on its own account, and so is no half
      -- that counts.
      have notHalf : isHalf transferId destination row = false := by
        simp [isHalf, onAccount, linked.apart]
      have countBetween : between.halfCount transferId destination =
          max 1 (store.halfCount transferId destination) := by
        rw [Store.halfCount, appended, List.countP_append,
          List.countP_cons_of_neg (by simp [notHalf]), Nat.add_comm]
        exact halfCount
      refine ⟨row :: halves ++ inserted, ?_, ?_,
        List.forall_mem_cons.mpr ⟨onAccount, primariesRest⟩, ?_, fun _ => ?_⟩
      · rw [appendedRest, appended, List.append_assoc]
        rfl
      · exact (sublist.trans
          (List.sublist_append_right halves inserted)).cons_cons row
      · intro half member onDestination
        rcases List.mem_append.mp member with first | later
        · rcases List.mem_cons.mp first with rfl | other
          · exact (linked.apart (onAccount.symm.trans onDestination)).elim
          · exact ⟨row, List.mem_cons_self, halvesBack half other⟩
        · obtain ⟨primary, booked, back⟩ := halvesRest half later onDestination
          exact ⟨primary, List.mem_cons_of_mem row booked, back⟩
      · cases rest with
        | nil =>
            cases bookedRest
            exact countBetween
        | cons next others =>
            rw [countRest nofun, countBetween]
            omega

/-- Every transaction has an identifier that was given out. -/
def TransactionsNumbered (store : Store) : Prop :=
  ∀ row ∈ store.transactions, store.transactionIds.HasIssued row.id

section Numbered

variable {new : NewTransaction}

theorem transactionsNumbered_of_insertTransaction {after : Store}
    {row : TransactionRow}
    (success : store.insertTransaction new = .ok (row, after))
    (numbered : store.TransactionsNumbered) (id : new.id = none) :
    after.TransactionsNumbered := by
  rw [insertTransaction_eq] at success
  split at success
  case h_1 => cases success
  case h_2 columns filled =>
    dsimp only at success
    split at success
    case h_1 => cases success
    case h_2 =>
      cases success
      intro other member
      rw [id]
      rcases List.mem_append.mp member with old | inserted
      · exact (numbered other old).next
      · rw [List.mem_singleton.mp inserted, rowOf, id]
        exact store.transactionIds.hasIssued_next

/-- A row that leaves its identifier to the store can be inserted once its
columns are filled. -/
theorem exists_inserted {columns : Double × Date × String × String}
    (filled : requiredColumns new = .ok columns)
    (numbered : store.TransactionsNumbered) (id : new.id = none) :
    ∃ row after, store.insertTransaction new = .ok (row, after) ∧
      after.TransactionsNumbered := by
  have free : isTaken store.transactionIds.next.1 store.transactions =
      false := by
    apply List.any_eq_false.mpr
    intro row member same
    have taken := numbered row member
    rw [of_decide_eq_true same] at taken
    exact store.transactionIds.not_hasIssued_next taken
  have success : ∃ inserted, store.insertTransaction new = .ok inserted := by
    rw [insertTransaction_eq, filled]
    simp [id, identify, rowOf, free]
  obtain ⟨⟨row, after⟩, success⟩ := success
  exact ⟨row, after, success, transactionsNumbered_of_insertTransaction success
    numbered id⟩

end Numbered

theorem exists_columns (storable : resolution.IsStorable) {new : NewTransaction}
    {date : Date} (amount : new.amount = some resolution.amount)
    (description : new.description = resolution.description)
    (dated : new.transactionDate = some date)
    (account : new.accountId = some accountId) :
    ∃ columns, requiredColumns new = .ok columns := by
  let double := resolution.amount.toDouble.unsignedZero
  have stored : storedAmount resolution.amount = .ok double :=
    storedAmount_eq_ok_iff.mpr ⟨storable.amount, rfl⟩
  obtain ⟨text, described⟩ := Option.ne_none_iff_exists'.mp storable.description
  rw [described] at description
  refine ⟨(double, date, text, accountId), ?_⟩
  simp [requiredColumns, amount, description, dated, account, required, stored,
    bind, Except.bind, pure, Except.pure]

theorem isStorable_of_records {date : Date} {row : TransactionRow}
    (records : Records resolution date row) : resolution.IsStorable where
  amount := (storedAmount_eq_ok_iff.mp records.amount).1
  description := by
    rw [records.description]
    nofun

private theorem isStorable_of_book {duplicateStatus : Option String}
    {after : Store} {row : TransactionRow}
    (success : store.book resolution duplicateStatus = .ok (row, after)) :
    resolution.IsStorable := by
  cases booked_of_book success with
  | single _ _ inserted => exact isStorable_of_records inserted.records_primary
  | paired _ _ inserted _ =>
      exact isStorable_of_records inserted.records_primary

private theorem exists_booked
    (linked : resolution.ComesLinked accountId transferId destination)
    (storable : resolution.IsStorable) (numbered : store.TransactionsNumbered)
    (duplicateStatus : Option String) :
    ∃ row after, store.book resolution duplicateStatus = .ok (row, after) ∧
      after.TransactionsNumbered := by
  let date := bookingDate resolution store
  have filled : ∃ columns,
      requiredColumns (primary resolution accountId date duplicateStatus) =
      .ok columns := exists_columns storable rfl rfl rfl rfl
  have halfFilled : ∃ columns, requiredColumns (otherHalf
      (resolution.otherHalf transferId destination) date) = .ok columns :=
    exists_columns storable rfl rfl rfl rfl
  obtain ⟨columns, filled⟩ := filled
  obtain ⟨halfColumns, halfFilled⟩ := halfFilled
  obtain ⟨row, between, inserting, numberedBetween⟩ :=
    exists_inserted filled numbered rfl
  rw [book_eq, linked.account, wantedHalf_of_comesLinked linked]
  by_cases none : store.halfCount transferId destination = 0
  · obtain ⟨half, after, halving, numberedAfter⟩ :=
      exists_inserted halfFilled numberedBetween rfl
    refine ⟨row, after, ?_, numberedAfter⟩
    rw [if_pos none]
    exact bind_eq_ok_iff.mpr
      ⟨_, inserting, bind_eq_ok_iff.mpr ⟨_, halving, rfl⟩⟩
  · refine ⟨row, between, ?_, numberedBetween⟩
    rw [if_neg none]
    exact bind_eq_ok_iff.mpr ⟨_, inserting, rfl⟩

theorem exists_bookEach
    (linked : resolution.ComesLinked accountId transferId destination)
    (storable : resolution.IsStorable) (numbered : store.TransactionsNumbered)
    (bookings : List (Date × Option String)) :
    ∃ result, bookEach resolution bookings store = .ok result := by
  induction bookings generalizing store with
  | nil => exact ⟨([], store), rfl⟩
  | cons booking rest induction =>
      have numberedThen : (store.onDay booking.1).TransactionsNumbered :=
        numbered
      obtain ⟨row, between, booked, numberedBetween⟩ :=
        exists_booked linked storable numberedThen booking.2
      obtain ⟨⟨rows, last⟩, bookedRest⟩ := induction numberedBetween
      exact ⟨(row :: rows, last), bind_eq_ok_iff.mpr
        ⟨_, booked, bind_eq_ok_iff.mpr ⟨_, bookedRest, rfl⟩⟩⟩

/-- A resolution that comes linked may be booked any number of times, on any
days and into any store.  When the bookings succeed, the live halves of its
transfer on the destination are as many as before, or one when there was none,
and each row that they insert there points back at a transaction that they
booked.  In a store whose identifiers were given out they succeed exactly when
there is a description and the amount is a number. -/
theorem halfCount_of_bookEach
    (linked : resolution.ComesLinked accountId transferId destination)
    (bookings : List (Date × Option String)) (some : bookings ≠ [])
    (store : Store) :
    (∀ primaries after, bookEach resolution bookings store =
      .ok (primaries, after) →
      after.halfCount transferId destination =
        max 1 (store.halfCount transferId destination) ∧
      ∃ inserted, after.transactions = store.transactions ++ inserted ∧
        primaries.Sublist inserted ∧
        (∀ primary ∈ primaries, primary.accountId = accountId) ∧
        ∀ half ∈ inserted, half.accountId = destination →
          ∃ primary ∈ primaries, PointsBack primary half) ∧
    (store.TransactionsNumbered →
      ((∃ result, bookEach resolution bookings store = .ok result) ↔
        resolution.IsStorable)) := by
  refine ⟨?_, fun numbered => ⟨?_, ?_⟩⟩
  · intro primaries after success
    obtain ⟨inserted, appended, sublist, onAccount, halvesBack, count⟩ :=
      inserts_of_bookEach linked success
    exact ⟨count some, inserted, appended, sublist, onAccount, halvesBack⟩
  · rintro ⟨result, success⟩
    obtain ⟨booking, rest, rfl⟩ := List.exists_cons_of_ne_nil some
    obtain ⟨⟨row, between⟩, booked, _⟩ := bind_eq_ok_iff.mp success
    exact isStorable_of_book booked
  · intro storable
    exact exists_bookEach linked storable numbered bookings

/-- Savings that are put aside from a wallet. -/
def deposit : Resolution where
  description := some "Deposit"
  amount := .finite false 5 0
  type := "transfer"
  source := "manual"
  original := ⟨some "wallet", none⟩
  accountId := some "wallet"
  transferTo := some "savings"
  transferId := some "t1"

/-- A store in which the deposit was booked once and then deleted. -/
def withdrawn : Store :=
  let booked := bookEach deposit [(⟨2024, 5, 1⟩, none)] (empty ⟨2024, 5, 1⟩)
  match booked >>= fun (_, store) => store.deleteTransaction "txn-1" with
  | .ok store => store
  | .error _ => empty ⟨2024, 5, 1⟩

theorem halfCount_of_bookEach_withdrawn :
    deposit.ComesLinked "wallet" "t1" "savings" ∧
    withdrawn.TransactionsNumbered ∧
      withdrawn.transactions.map (fun row => (row.accountId, row.isDeleted)) =
        [("wallet", true), ("savings", true)] ∧
      ∃ primaries after,
        bookEach deposit
          [(⟨2024, 5, 2⟩, none), (⟨2024, 5, 3⟩, none),
          (⟨2024, 5, 3⟩, some "ignored")] withdrawn = .ok (primaries, after) ∧
        after.halfCount "t1" "savings" = 1 := by
  have linked : deposit.ComesLinked "wallet" "t1" "savings" :=
    ⟨rfl, rfl, rfl, rfl, by decide⟩
  have ids : withdrawn.transactions.map TransactionRow.id =
      ["txn-1", "txn-2"] := by
    decide +kernel
  have issued : withdrawn.transactionIds = ⟨"txn", 2⟩ := by decide +kernel
  have numbered : withdrawn.TransactionsNumbered := by
    intro row member
    have id : row.id ∈ ["txn-1", "txn-2"] := ids ▸ List.mem_map_of_mem member
    rw [issued]
    rcases List.mem_pair.mp id with first | second
    · exact ⟨1, by decide, first⟩
    · exact ⟨2, by decide, second⟩
  have storable : deposit.IsStorable := ⟨rfl, nofun⟩
  obtain ⟨counts, succeeds⟩ := halfCount_of_bookEach linked
    [(⟨2024, 5, 2⟩, none), (⟨2024, 5, 3⟩, none), (⟨2024, 5, 3⟩, some "ignored")]
      nofun withdrawn
  obtain ⟨⟨primaries, after⟩, success⟩ := (succeeds numbered).mpr storable
  have none : withdrawn.halfCount "t1" "savings" = 0 := by decide +kernel
  refine ⟨linked, numbered, by decide +kernel, primaries, after, success, ?_⟩
  rw [(counts primaries after success).1, none]
  rfl

end Store

end LedgerRules
