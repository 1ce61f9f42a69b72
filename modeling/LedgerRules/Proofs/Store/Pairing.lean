import LedgerRules.Proofs.Store.Booking
import Mathlib.Data.List.Nodup

/-!
# Paired transfers

In a table with paired transfers every transfer has either no rows or its two
halves, which point at each other and are deleted together.  Inserting a row
that belongs to no transfer, inserting both halves of a new one, and deleting
keep the transfers paired.
-/

namespace LedgerRules

namespace Store

/-- The rows of a transfer, deleted ones included. -/
def rowsOf (transferId : String) (rows : List TransactionRow) :
    List TransactionRow :=
  rows.filter fun row => row.transferId = some transferId

/-- Two rows that are the halves of one transfer. -/
structure Halves (first second : TransactionRow) : Prop where
  apart : first.accountId ≠ second.accountId
  firstTo : first.transferTo = some second.accountId
  secondTo : second.transferTo = some first.accountId
  firstType : first.type = "transfer"
  secondType : second.type = "transfer"
  transactionDate : first.transactionDate = second.transactionDate
  transactionTime : first.transactionTime = second.transactionTime
  amount : first.amount = second.amount
  description : first.description = second.description
  together : first.isDeleted = second.isDeleted

/-- Rows with identifiers of their own, among which each transfer has no rows or
its two halves. -/
structure Paired (rows : List TransactionRow) : Prop where
  ids : (rows.map TransactionRow.id).Nodup
  halves : ∀ transferId, rowsOf transferId rows = [] ∨
    ∃ first second, rowsOf transferId rows = [first, second] ∧
      Halves first second

theorem paired_nil : Paired [] where
  ids := List.nodup_nil
  halves _ := .inl rfl

theorem mem_rowsOf {transferId : String} {rows : List TransactionRow}
    {row : TransactionRow} :
    row ∈ rowsOf transferId rows ↔
      row ∈ rows ∧ row.transferId = some transferId := by
  simp [rowsOf]

theorem rowsOf_append (transferId : String) (rows more : List TransactionRow) :
    rowsOf transferId (rows ++ more) = rowsOf transferId rows ++
      rowsOf transferId more :=
  List.filter_append rows more

theorem rowsOf_eq_nil {transferId : String} {rows : List TransactionRow}
    (unused : Unused transferId rows) : rowsOf transferId rows = [] := by
  apply List.filter_eq_nil_iff.mpr
  intro row member linked
  exact unused row member (by simpa using linked)

section Inserting

variable {rows : List TransactionRow} {row other : TransactionRow}

theorem nodup_ids_append_singleton (ids : (rows.map TransactionRow.id).Nodup)
    (ownId : ∀ old ∈ rows, old.id ≠ row.id) :
    ((rows ++ [row]).map TransactionRow.id).Nodup := by
  rw [List.map_append, List.nodup_append]
  refine ⟨ids, List.nodup_singleton _, ?_⟩
  intro oldId oldMember newId newMember
  obtain ⟨old, member, rfl⟩ := List.mem_map.mp oldMember
  rw [List.map_singleton, List.mem_singleton] at newMember
  subst newMember
  exact ownId old member

/-- A booking gives its rows identifiers of their own. -/
theorem nodup_ids_of_book {resolution : Resolution}
    {duplicateStatus : Option String} {ready last : Store}
    (ids : (ready.transactions.map TransactionRow.id).Nodup)
    (success : ready.book resolution duplicateStatus = .ok (row, last)) :
    (last.transactions.map TransactionRow.id).Nodup := by
  cases booked_of_book success with
  | single _ _ inserted =>
      rw [inserted.transactions]
      exact nodup_ids_append_singleton ids inserted.ownId
  | paired _ _ inserted halved =>
      have idsBetween := nodup_ids_append_singleton ids inserted.ownId
      rw [← inserted.transactions] at idsBetween
      rw [halved.transactions]
      exact nodup_ids_append_singleton idsBetween halved.ownId

/-- A row that belongs to no transfer changes no transfer. -/
theorem paired_append_single (paired : Paired rows)
    (ownId : ∀ old ∈ rows, old.id ≠ row.id) (unlinked : row.transferId = none) :
    Paired (rows ++ [row]) where
  ids := nodup_ids_append_singleton paired.ids ownId
  halves transferId := by
    have none : rowsOf transferId [row] = [] := by
      apply rowsOf_eq_nil
      intro only member
      rw [List.mem_singleton.mp member, unlinked]
      exact nofun
    rw [rowsOf_append, none, List.append_nil]
    exact paired.halves transferId

theorem paired_append_halves {transferId : String} (paired : Paired rows)
    (fresh : Unused transferId rows)
    (ids : ((rows ++ [row] ++ [other]).map TransactionRow.id).Nodup)
    (rowLinked : row.transferId = some transferId)
    (otherLinked : other.transferId = some transferId)
    (halves : Halves row other) :
    Paired (rows ++ [row] ++ [other]) where
  ids := ids
  halves asked := by
    rw [List.append_assoc, List.singleton_append, rowsOf_append]
    by_cases same : asked = transferId
    case pos =>
      subst same
      refine .inr ⟨row, other, ?_, halves⟩
      rw [rowsOf_eq_nil fresh]
      simp [rowsOf, rowLinked, otherLinked]
    case neg =>
      have none : rowsOf asked [row, other] = [] := by
        simp [rowsOf, rowLinked, otherLinked, Ne.symm same]
      rw [none, List.append_nil]
      exact paired.halves asked

end Inserting

section Deleting

variable {rows : List TransactionRow} {row : TransactionRow}

theorem rowsOf_map_afterDeleting (transferId : String) :
    rowsOf transferId (rows.map (afterDeleting row)) =
      (rowsOf transferId rows).map (afterDeleting row) := by
  rw [rowsOf, List.filter_map, rowsOf]
  congr 1
  apply List.filter_congr
  intro other _
  simp

private theorem halves_afterDeleting {first second : TransactionRow}
    {transferId : String} (ids : (rows.map TransactionRow.id).Nodup)
    (member : row ∈ rows) (firstMember : first ∈ rowsOf transferId rows)
    (secondMember : second ∈ rowsOf transferId rows)
    (halves : Halves first second) :
    Halves (afterDeleting row first) (afterDeleting row second) := by
  -- A half of another transfer is never the deleted row itself: identifiers are
  -- unique.
  have marked : ∀ half ∈ rowsOf transferId rows,
      marksOf row half = decide (row.transferId = some transferId) := by
    intro half halfMember
    obtain ⟨inTable, linked⟩ := mem_rowsOf.mp halfMember
    by_cases together : row.transferId = some transferId
    case pos => simp [marksOf, together, linked]
    case neg =>
      have different : half.id ≠ row.id := by
        intro same
        have equal := List.inj_on_of_nodup_map ids inTable member same
        exact together (equal ▸ linked)
      have unrelated : some transferId ≠ row.transferId := Ne.symm together
      simp [marksOf, together, linked, different, unrelated]
  have firstMarked := marked first firstMember
  have secondMarked := marked second secondMember
  obtain ⟨apart, firstTo, secondTo, firstType, secondType, date, time, amount,
    description, together⟩ := halves
  unfold afterDeleting
  rw [firstMarked, secondMarked]
  split
  · exact ⟨apart, firstTo, secondTo, firstType, secondType, date, time, amount,
      description, rfl⟩
  · exact ⟨apart, firstTo, secondTo, firstType, secondType, date, time, amount,
      description, together⟩

theorem map_id_map_afterDeleting (row : TransactionRow)
    (rows : List TransactionRow) :
    (rows.map (afterDeleting row)).map TransactionRow.id =
      rows.map TransactionRow.id := by
  rw [List.map_map]
  apply List.map_congr_left
  intro other _
  exact id_afterDeleting row other

/-- Deleting keeps the transfers paired. -/
theorem paired_map_afterDeleting (paired : Paired rows) (member : row ∈ rows) :
    Paired (rows.map (afterDeleting row)) where
  ids := by
    rw [map_id_map_afterDeleting]
    exact paired.ids
  halves transferId := by
    rw [rowsOf_map_afterDeleting]
    rcases paired.halves transferId with none | ⟨first, second, both, halves⟩
    · exact .inl (by rw [none, List.map_nil])
    · refine .inr
        ⟨afterDeleting row first, afterDeleting row second, by rw [both]; rfl,
        ?_⟩
      have firstMember : first ∈ rowsOf transferId rows := by simp [both]
      have secondMember : second ∈ rowsOf transferId rows := by simp [both]
      exact halves_afterDeleting paired.ids member firstMember secondMember
        halves

end Deleting

end Store

end LedgerRules
