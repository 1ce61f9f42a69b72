import LedgerRules.Proofs.Resolution.Linking
import LedgerRules.Store.Transactions

/-!
# What booking does to the store

An inserted row has the columns that were asked for and an identifier of its
own, and stands behind the rows that were there.  Booking inserts one row, or
the two halves of a transfer.  Deleting marks rows and leaves everything else.
-/

namespace LedgerRules

namespace Store

private theorem required_eq_ok_iff {Value : Type} {given : Option Value}
    {value : Value} :
    required given = .ok value ↔ given = some value := by
  cases given <;> simp [required]

/-- The required columns of a new transaction: its amount as it is stored, its
date, its description and its account. -/
def requiredColumns (new : NewTransaction) :
    Except StoreFault (Double × Date × String × String) := do
  let amount ← storedAmount (← required new.amount)
  let transactionDate ← required new.transactionDate
  let description ← required new.description
  let accountId ← required new.accountId
  return (amount, transactionDate, description, accountId)

/-- The row of a new transaction, with its required columns, an identifier and
the time. -/
def rowOf (new : NewTransaction) (columns : Double × Date × String × String)
    (id : String) (now : Int) : TransactionRow where
  id := id
  amount := columns.1
  transactionDate := columns.2.1
  description := columns.2.2.1
  accountId := columns.2.2.2
  transactionTime := new.transactionTime
  notes := new.notes
  type := new.type
  source := new.source
  categoryId := new.categoryId
  rawText := new.rawText
  transferTo := new.transferTo
  transferId := new.transferId
  isReconciled := new.isReconciled
  reconciledAt := new.reconciledAt
  appliedRules := new.appliedRules
  duplicateStatus := new.duplicateStatus
  isDeleted := new.isDeleted
  createdAt := new.createdAt.getD now

/-- Whether an identifier is taken. -/
def isTaken (id : String) (rows : List TransactionRow) : Bool :=
  rows.any (·.id = id)

/-- Inserting appends the row of the columns, unless a required one is missing
or the identifier is taken. -/
theorem insertTransaction_eq (new : NewTransaction) (store : Store) :
    store.insertTransaction new =
      match requiredColumns new with
      | .error fault => .error fault
      | .ok columns =>
          let row := rowOf new columns (identify new.id store.transactionIds).1
            store.clock.next
          match isTaken row.id store.transactions with
          | true => .error .conflict
          | false => .ok (row, { store with
              transactions := store.transactions ++ [row]
              transactionIds := (identify new.id store.transactionIds).2
              clock := store.clock.tick }) := by
  simp only [insertTransaction, requiredColumns, bind, Except.bind, pure,
    Except.pure]
  cases required new.amount with
  | error fault => rfl
  | ok decimal =>
      dsimp only
      cases storedAmount decimal with
      | error fault => rfl
      | ok amount =>
          cases required new.transactionDate with
          | error fault => rfl
          | ok date =>
              cases required new.description with
              | error fault => rfl
              | ok description =>
                  cases required new.accountId with
                  | error fault => rfl
                  | ok accountId =>
                      simp only [rowOf]
                      change (if isTaken
                          (identify new.id store.transactionIds).1
                        store.transactions = true then _ else _) = _
                      cases isTaken (identify new.id store.transactionIds).1
                        store.transactions <;> rfl

/-- Two stores with the same accounts, the same rules and the same day. -/
structure SameSurroundings (store other : Store) : Prop where
  accounts : other.accounts = store.accounts
  rules : other.rules = store.rules
  today : other.clock.today = store.clock.today

theorem SameSurroundings.trans {first second third : Store}
    (left : SameSurroundings first second)
    (right : SameSurroundings second third) :
    SameSurroundings first third where
  accounts := right.accounts.trans left.accounts
  rules := right.rules.trans left.rules
  today := right.today.trans left.today

/-- What a successful insertion of a transaction does. -/
structure Inserted (new : NewTransaction) (store : Store) (row : TransactionRow)
    (after : Store) : Prop where
  amount : ∃ amount, new.amount = some amount ∧
    storedAmount amount = .ok row.amount
  transactionDate : new.transactionDate = some row.transactionDate
  transactionTime : row.transactionTime = new.transactionTime
  description : new.description = some row.description
  notes : row.notes = new.notes
  type : row.type = new.type
  source : row.source = new.source
  accountId : new.accountId = some row.accountId
  categoryId : row.categoryId = new.categoryId
  rawText : row.rawText = new.rawText
  transferTo : row.transferTo = new.transferTo
  transferId : row.transferId = new.transferId
  isDeleted : row.isDeleted = new.isDeleted
  appliedRules : row.appliedRules = new.appliedRules
  ownId : ∀ other ∈ store.transactions, other.id ≠ row.id
  transactions : after.transactions = store.transactions ++ [row]
  surroundings : SameSurroundings store after

theorem inserted_of_insertTransaction {new : NewTransaction}
    {store after : Store} {row : TransactionRow}
    (success : store.insertTransaction new = .ok (row, after)) :
    Inserted new store row after := by
  rw [insertTransaction_eq] at success
  cases filled : requiredColumns new with
  | error fault =>
      rw [filled] at success
      cases success
  | ok columns =>
      rw [filled] at success
      obtain ⟨decimal, amountGiven, filled⟩ := bind_eq_ok_iff.mp filled
      obtain ⟨amount, stored, filled⟩ := bind_eq_ok_iff.mp filled
      obtain ⟨date, dateGiven, filled⟩ := bind_eq_ok_iff.mp filled
      obtain ⟨description, descriptionGiven, filled⟩ := bind_eq_ok_iff.mp filled
      obtain ⟨accountId, accountGiven, filled⟩ := bind_eq_ok_iff.mp filled
      rw [required_eq_ok_iff]
        at amountGiven dateGiven descriptionGiven accountGiven
      cases filled
      dsimp only at success
      split at success
      case h_1 => cases success
      case h_2 free =>
        cases success
        exact {
          amount := ⟨decimal, amountGiven, stored⟩
          transactionDate := dateGiven
          transactionTime := rfl
          description := descriptionGiven
          notes := rfl
          type := rfl
          source := rfl
          accountId := accountGiven
          categoryId := rfl
          rawText := rfl
          transferTo := rfl
          transferId := rfl
          isDeleted := rfl
          appliedRules := rfl
          ownId := fun other member same =>
            List.any_eq_false.mp free other member (decide_eq_true same)
          transactions := rfl
          surroundings := ⟨rfl, rfl, rfl⟩ }

def bookingDate (resolution : Resolution) (store : Store) : Date :=
  resolution.transactionDate.getD store.clock.today

/-- What a successful booking does: it inserts the transaction on its own, or
together with the other half of its transfer. -/
inductive Booked (resolution : Resolution) (duplicateStatus : Option String)
    (store : Store) (row : TransactionRow) (after : Store) : Prop where
  | single {accountId : String}
      (account : resolution.accountId = some accountId)
      (noHalf : store.wantedHalf resolution = none)
      (inserted : Inserted
        (primary resolution accountId (bookingDate resolution store)
        duplicateStatus) store row after) :
      Booked resolution duplicateStatus store row after
  | paired {accountId : String} {request : TransferRequest}
      {half : TransactionRow}
      {between : Store} (account : resolution.accountId = some accountId)
      (wanted : store.wantedHalf resolution = some request)
      (inserted : Inserted
        (primary resolution accountId (bookingDate resolution store)
        duplicateStatus) store row between)
      (halved : Inserted (otherHalf request (bookingDate resolution store))
        between half after) :
      Booked resolution duplicateStatus store row after

theorem booked_of_book {resolution : Resolution}
    {duplicateStatus : Option String} {store after : Store}
    {row : TransactionRow}
    (success : store.book resolution duplicateStatus = .ok (row, after)) :
    Booked resolution duplicateStatus store row after := by
  unfold book at success
  split at success
  case h_2 => cases success
  case h_1 accountId account =>
    obtain ⟨⟨primaryRow, between⟩, inserted, success⟩ :=
      bind_eq_ok_iff.mp success
    dsimp only at success
    split at success
    case h_1 noHalf =>
      cases success
      exact .single account noHalf (inserted_of_insertTransaction inserted)
    case h_2 request wanted =>
      obtain ⟨⟨half, last⟩, halved, success⟩ := bind_eq_ok_iff.mp success
      cases success
      exact .paired account wanted (inserted_of_insertTransaction inserted)
        (inserted_of_insertTransaction halved)

/-- A booking inserts the transaction itself, and perhaps more behind it. -/
theorem insertsPrimary_of_book {resolution : Resolution}
    {duplicateStatus : Option String} {store after : Store}
    {row : TransactionRow}
    (success : store.book resolution duplicateStatus = .ok (row, after)) :
    ∃ accountId between behind, resolution.accountId = some accountId ∧
      Inserted (primary resolution accountId (bookingDate resolution store)
        duplicateStatus)
        store row between ∧
      after.transactions = between.transactions ++ behind := by
  cases booked_of_book success with
  | single account _ inserted =>
      exact ⟨_, after, [], account, inserted, (List.append_nil _).symm⟩
  | paired account _ inserted halved =>
      exact ⟨_, _, [_], account, inserted, halved.transactions⟩

theorem sameSurroundings_of_book {resolution : Resolution}
    {duplicateStatus : Option String} {store after : Store}
    {row : TransactionRow}
    (success : store.book resolution duplicateStatus = .ok (row, after)) :
    SameSurroundings store after := by
  cases booked_of_book success with
  | single _ _ inserted => exact inserted.surroundings
  | paired _ _ inserted halved =>
      exact inserted.surroundings.trans halved.surroundings

/-- A row with the amount, the description, the date and the time of a
resolution. -/
structure Records (resolution : Resolution) (date : Date)
    (row : TransactionRow) : Prop where
  amount : storedAmount resolution.amount = .ok row.amount
  description : resolution.description = some row.description
  transactionDate : row.transactionDate = date
  transactionTime : row.transactionTime = resolution.transactionTime

/-- Rows that record one resolution on one date show the same movement. -/
theorem Records.same_movement {resolution : Resolution} {date : Date}
    {row other : TransactionRow} (records : Records resolution date row)
    (recordsOther : Records resolution date other) :
    row.amount = other.amount ∧ row.description = other.description ∧
      row.transactionDate = other.transactionDate ∧
      row.transactionTime = other.transactionTime :=
  ⟨Except.ok.inj (records.amount.symm.trans recordsOther.amount),
    Option.some.inj (records.description.symm.trans recordsOther.description),
    records.transactionDate.trans recordsOther.transactionDate.symm,
    records.transactionTime.trans recordsOther.transactionTime.symm⟩

theorem Inserted.records_primary {resolution : Resolution} {accountId : String}
    {date : Date} {duplicateStatus : Option String} {store after : Store}
    {row : TransactionRow}
    (inserted : Inserted (primary resolution accountId date duplicateStatus)
      store row after) :
    Records resolution date row := by
  obtain ⟨amount, given, stored⟩ := inserted.amount
  cases given
  exact ⟨stored, inserted.description,
    (Option.some.inj inserted.transactionDate).symm, inserted.transactionTime⟩

/-- The other half is dated like its transaction, also when the resolution has
no date. -/
theorem Inserted.records_otherHalf {resolution : Resolution}
    {transferId destination : String} {origin store after : Store}
    {half : TransactionRow}
    (inserted : Inserted
      (otherHalf (resolution.otherHalf transferId destination)
      (bookingDate resolution origin)) store half after) :
    Records resolution (bookingDate resolution origin) half := by
  obtain ⟨amount, given, stored⟩ := inserted.amount
  cases given
  refine ⟨stored, inserted.description, ?_, inserted.transactionTime⟩
  have date : resolution.transactionDate.getD (bookingDate resolution origin) =
      half.transactionDate := Option.some.inj inserted.transactionDate
  rw [← date]
  unfold bookingDate
  cases resolution.transactionDate <;> rfl

theorem wantedHalf_of_request {resolution : Resolution}
    {request : TransferRequest}
    (requested : resolution.transferRequest = some request) (store : Store) :
    store.wantedHalf resolution = some request := by
  simp [wantedHalf, requested]

/-- Without a request, only a resolution that is linked and has a destination
wants the other half, and only while no live one stands on the destination. -/
theorem wantedHalf_eq_some_iff {resolution : Resolution}
    (unrequested : resolution.transferRequest = none) {store : Store}
    {request : TransferRequest} :
    store.wantedHalf resolution = some request ↔
      ∃ transferId destination,
        nonEmpty? resolution.transferId = some transferId ∧
        nonEmpty? resolution.transferTo = some destination ∧
        store.hasTransferHalf transferId destination = false ∧
        request = resolution.otherHalf transferId destination := by
  unfold wantedHalf
  rw [unrequested]
  cases linked : nonEmpty? resolution.transferId with
  | none => simp
  | some transferId =>
      cases destined : nonEmpty? resolution.transferTo with
      | none => simp
      | some destination =>
          constructor
          · intro wanted
            dsimp only at wanted
            split at wanted
            case isTrue => cases wanted
            case isFalse absent =>
              cases wanted
              exact ⟨transferId, destination, rfl, rfl, by simpa using absent,
                rfl⟩
          · rintro ⟨_, _, ⟨⟩, ⟨⟩, absent, rfl⟩
            simp [absent]

/-- Which other half the resolution of a candidate wants: none, the one of a new
transfer, or the one of the transfer that the candidate carries. -/
inductive Wanted (known : KnownAccounts) (ids : IdSource)
    (candidate : Candidate) (resolution : Resolution) (store : Store) :
    Option TransferRequest → Prop where
  | nothing (transferId : resolution.transferId = candidate.transferId)
      (complete : ∀ transferId destination, nonEmpty? candidate.transferId =
        some transferId →
        nonEmpty? resolution.transferTo = some destination →
        store.hasTransferHalf transferId destination = true) :
      Wanted known ids candidate resolution store none
  | new {destination : String}
      (unlinked : nonEmpty? candidate.transferId = none)
      (destined : nonEmpty? resolution.transferTo = some destination)
      (allowed : known.allow destination = true)
      (apart : resolution.accountId ≠ some destination)
      (type : resolution.type = Resolution.transferType)
      (transferId : resolution.transferId = some ids.next.1) :
      Wanted known ids candidate resolution store
        (some (resolution.otherHalf ids.next.1 destination))
  | carried {transferId destination : String}
      (carried : nonEmpty? candidate.transferId = some transferId)
      (destined : nonEmpty? resolution.transferTo = some destination)
      (absent : store.hasTransferHalf transferId destination = false) :
      Wanted known ids candidate resolution store
        (some (resolution.otherHalf transferId destination))

theorem wanted_wantedHalf {known : KnownAccounts} {ids after : IdSource}
    {candidate : Candidate} {resolution : Resolution}
    (resolved : Resolution.Resolved known ids candidate resolution after)
    (store : Store) :
    Wanted known ids candidate resolution store
      (store.wantedHalf resolution) := by
  cases resolved with
  | single _ same unrequested _ =>
      cases wanted : store.wantedHalf resolution with
      | none =>
          refine .nothing same ?_
          intro transferId destination carried destined
          rw [← same] at carried
          cases present : store.hasTransferHalf transferId destination with
          | true => rfl
          | false =>
              have missing := (wantedHalf_eq_some_iff unrequested).mpr
                ⟨transferId, destination, carried, destined, present, rfl⟩
              rw [wanted] at missing
              cases missing
      | some request =>
          obtain ⟨transferId, destination, linked, destined, absent, rfl⟩ :=
            (wantedHalf_eq_some_iff unrequested).mp wanted
          exact .carried (same ▸ linked) destined absent
  | paired _ unlinked destined allowed apart type transferId request =>
      rw [wantedHalf_of_request request]
      exact .new unlinked destined allowed apart type transferId

/-- Whether deleting a row marks another one: it is the row itself or belongs to
the same transfer. -/
def marksOf (row other : TransactionRow) : Bool :=
  other.id = row.id ||
    (row.transferId.isSome && other.transferId = row.transferId)

def afterDeleting (row other : TransactionRow) : TransactionRow :=
  if marksOf row other then { other with isDeleted := true } else other

theorem deleteTransaction_eq_ok {id : String} {store after : Store}
    (success : store.deleteTransaction id = .ok after) :
    ∃ row ∈ store.transactions, row.id = id ∧ row.isDeleted = false ∧
      after = { store with
        transactions := store.transactions.map (afterDeleting row) } := by
  obtain ⟨row, found, success⟩ := bind_eq_ok_iff.mp success
  cases success
  unfold transaction at found
  split at found
  case h_2 => cases found
  case h_1 other here =>
    split at found
    case isTrue => cases found
    case isFalse live =>
      cases found
      have sameId : row.id = id := by simpa using List.find?_some here
      subst sameId
      exact ⟨row, List.mem_of_find?_eq_some here, rfl, by simpa using live, rfl⟩

section AfterDeleting

variable (row other : TransactionRow)

@[simp] theorem id_afterDeleting : (afterDeleting row other).id = other.id := by
  unfold afterDeleting
  split <;> rfl

@[simp] theorem transferId_afterDeleting :
    (afterDeleting row other).transferId = other.transferId := by
  unfold afterDeleting
  split <;> rfl

end AfterDeleting

def Unused (transferId : String) (rows : List TransactionRow) : Prop :=
  ∀ row ∈ rows, row.transferId ≠ some transferId

instance (transferId : String) (rows : List TransactionRow) :
    Decidable (Unused transferId rows) :=
  inferInstanceAs (Decidable (∀ row ∈ rows, _))

theorem Unused.map_afterDeleting {transferId : String}
    {rows : List TransactionRow} (unused : Unused transferId rows)
    (row : TransactionRow) :
    Unused transferId (rows.map (afterDeleting row)) := by
  intro marked member
  obtain ⟨before, beforeMember, rfl⟩ := List.mem_map.mp member
  rw [transferId_afterDeleting]
  exact unused before beforeMember

theorem hasTransferHalf_of_unused {transferId : String} {store : Store}
    (unused : Unused transferId store.transactions) (accountId : String) :
    store.hasTransferHalf transferId accountId = false := by
  apply List.any_eq_false.mpr
  intro row member half
  have linked := (Bool.and_eq_true_iff.mp half).1
  exact unused row (List.mem_filter.mp member).1 (of_decide_eq_true linked)

end Store

end LedgerRules
