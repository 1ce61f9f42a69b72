import LedgerRules.Proofs.Store.Booking

/-!
# Bookings that differ in identifiers of transfers

Inserting never looks at the identifier of a transfer.  So two bookings that
differ in nothing else both fail for one reason, or insert rows that differ in
nothing else.
-/

namespace LedgerRules

def TransactionRow.relinked (rename : Option String → Option String)
    (row : TransactionRow) :
    TransactionRow :=
  { row with transferId := rename row.transferId }

namespace Store

/-- The columns of a new transaction with its transfer renamed. -/
def NewTransaction.relinked (rename : Option String → Option String)
    (new : NewTransaction) :
    NewTransaction :=
  { new with transferId := rename new.transferId }

theorem isTaken_congr {rows others : List TransactionRow}
    (same : rows.map TransactionRow.id = others.map TransactionRow.id)
    (id : String) :
    isTaken id rows = isTaken id others := by
  have mapped := congrArg (fun ids => ids.any fun other => other = id) same
  rw [List.any_map, List.any_map] at mapped
  exact mapped

section Relinking

variable (rename : Option String → Option String)

theorem insertTransaction_relinked (new : NewTransaction) (store : Store)
    (ids : IdSource) {rows : List TransactionRow}
    (same : rows.map TransactionRow.id =
      store.transactions.map TransactionRow.id) :
    insertTransaction (new.relinked rename)
        { store with transactions := rows, transferIds := ids } =
      (store.insertTransaction new).map fun inserted =>
        (inserted.1.relinked rename, { inserted.2 with
          transactions := rows ++ [inserted.1.relinked rename]
          transferIds := ids }) := by
  have filled : requiredColumns (new.relinked rename) = requiredColumns new :=
    rfl
  rw [insertTransaction_eq, insertTransaction_eq, filled]
  cases requiredColumns new with
  | error fault => rfl
  | ok columns =>
      simp only [NewTransaction.relinked, rowOf, isTaken_congr same]
      cases isTaken (identify new.id store.transactionIds).1
        store.transactions <;> rfl

/-- Inserts a transaction and, when there is one, the other half of its
transfer. -/
def insertWith (new : NewTransaction) (half? : Option NewTransaction)
    (store : Store) :
    Except StoreFault (TransactionRow × Store) := do
  let (row, store) ← store.insertTransaction new
  match half? with
  | none => return (row, store)
  | some half =>
      let (_, store) ← store.insertTransaction half
      return (row, store)

theorem book_eq (resolution : Resolution) (duplicateStatus : Option String)
    (store : Store) :
    store.book resolution duplicateStatus =
      match resolution.accountId with
      | none => .error .noAccount
      | some accountId =>
          store.insertWith
            (primary resolution accountId (bookingDate resolution store)
              duplicateStatus)
            ((store.wantedHalf resolution).map fun request =>
              otherHalf request (bookingDate resolution store)) := by
  unfold book
  cases resolution.accountId with
  | none => rfl
  | some accountId =>
      cases wanted : store.wantedHalf resolution <;>
        simp [insertWith, bookingDate]

/-- Two outcomes are alike when both fail for one reason, or both insert the
same rows into a table up to renaming their transfer. -/
inductive Alike {Fault : Type} (before : List TransactionRow) :
    Except Fault (TransactionRow × Store) →
    Except Fault (TransactionRow × Store) → Prop where
  | failed (fault : Fault) : Alike before (.error fault) (.error fault)
  | inserted {row : TransactionRow} {after other : Store}
      (rows : List TransactionRow)
      (appended : after.transactions = before ++ rows)
      (otherAppended : other.transactions = before ++ rows.map
        (·.relinked rename)) :
      Alike before (.ok (row, after)) (.ok (row.relinked rename, other))

theorem Alike.mapError {Fault OtherFault : Type}
    {rename : Option String → Option String} {before : List TransactionRow}
    {outcome other : Except Fault (TransactionRow × Store)}
    (alike : Alike rename before outcome other) (change : Fault → OtherFault) :
    Alike rename before (outcome.mapError change) (other.mapError change) := by
  cases alike with
  | failed fault => exact .failed (change fault)
  | inserted rows appended otherAppended =>
      exact .inserted rows appended otherAppended

theorem alike_insertWith (new : NewTransaction) (half? : Option NewTransaction)
    (store : Store) (ids : IdSource) :
    Alike rename store.transactions (store.insertWith new half?)
      (insertWith (new.relinked rename) (half?.map (·.relinked rename))
        { store with transferIds := ids }) := by
  have first := insertTransaction_relinked rename new store ids rfl
  unfold insertWith
  cases inserted : store.insertTransaction new with
  | error fault =>
      rw [inserted] at first
      simp only [first, Except.map, bind, Except.bind]
      exact .failed fault
  | ok outcome =>
      obtain ⟨row, between⟩ := outcome
      rw [inserted] at first
      have appended := (inserted_of_insertTransaction inserted).transactions
      cases half? with
      | none =>
          simp only [first, Except.map, bind, Except.bind]
          exact .inserted [row] appended rfl
      | some half =>
          have same : (store.transactions ++ [row.relinked rename]).map
              TransactionRow.id =
              between.transactions.map TransactionRow.id := by
            simp [appended, TransactionRow.relinked]
          have second := insertTransaction_relinked rename half between ids same
          cases halved : between.insertTransaction half with
          | error fault =>
              rw [halved] at second
              simp only [first, second, halved, Except.map, Option.map_some,
                bind, Except.bind]
              exact .failed fault
          | ok last =>
              obtain ⟨halfRow, after⟩ := last
              rw [halved] at second
              have halfAppended :=
                (inserted_of_insertTransaction halved).transactions
              simp only [first, second, halved, Except.map, Option.map_some,
                bind, Except.bind]
              refine .inserted [row, halfRow] ?_ ?_
              · rw [halfAppended, appended, List.append_assoc]
                rfl
              · exact List.append_assoc _ _ _

/-- A resolution differs from another one in nothing that is booked but the
transfer, which is renamed, and the request for its other half. -/
def Relinks (resolution other : Resolution) : Prop :=
  other = { resolution with
    original := other.original
    issues := other.issues
    transferId := rename resolution.transferId
    transferRequest := other.transferRequest }

/-- Two resolutions want the same other half up to renaming its transfer. -/
def HalvesAlike (store : Store) (resolution other : Resolution) : Prop :=
  ∀ date, (store.wantedHalf other).map (otherHalf · date) =
    ((store.wantedHalf resolution).map (otherHalf · date)).map
      (·.relinked rename)

theorem alike_book {store : Store} {resolution other : Resolution}
    (relinks : Relinks rename resolution other)
    (halves : HalvesAlike rename store resolution other)
    (duplicateStatus : Option String) (ids : IdSource) :
    Alike rename store.transactions (store.book resolution duplicateStatus)
      (book other duplicateStatus { store with transferIds := ids }) := by
  unfold Relinks at relinks
  have account : other.accountId = resolution.accountId := by rw [relinks]
  have date : bookingDate other { store with transferIds := ids } =
      bookingDate resolution store := by rw [relinks]; rfl
  have wanted : wantedHalf other { store with transferIds := ids } =
    store.wantedHalf other := rfl
  rw [book_eq, book_eq, account, date, wanted]
  cases resolution.accountId with
  | none => exact .failed _
  | some accountId =>
      dsimp only
      rw [halves]
      have booked := alike_insertWith rename
        (primary resolution accountId (bookingDate resolution store)
          duplicateStatus)
        ((store.wantedHalf resolution).map
          (otherHalf · (bookingDate resolution store)))
        store ids
      have first : primary other accountId (bookingDate resolution store)
          duplicateStatus =
          (primary resolution accountId (bookingDate resolution store)
            duplicateStatus).relinked rename := by
        rw [relinks]
        rfl
      rw [first]
      exact booked

end Relinking

end Store

end LedgerRules
