import LedgerRules.Store.Basic

/-!
# Accounts in the store
-/

namespace LedgerRules

namespace Store

/-- The account with an identifier, unless it is deleted. -/
def account (id : String) (store : Store) : Except StoreFault AccountRow :=
  match store.accounts.find? (·.id = id) with
  | some row => if row.isDeleted then .error (.accountNotFound id) else .ok row
  | none => .error (.accountNotFound id)

/-- The accounts in use, the older ones first. -/
def activeAccounts (store : Store) : List AccountRow :=
  byCreation AccountRow.createdAt
    (store.accounts.filter fun row => row.isActive && !row.isDeleted)

/-- The identifiers of all accounts that are not deleted. -/
def existingAccountIds (store : Store) : List String :=
  (store.accounts.filter fun row => !row.isDeleted).map AccountRow.id

/-- Marks an account as deleted and no longer in use. -/
def deleteAccount (id : String) (store : Store) : Except StoreFault Store := do
  let _ ← store.account id
  return { store with
    accounts := store.accounts.map fun row =>
      if row.id = id then { row with isDeleted := true, isActive := false }
        else row }

end Store

end LedgerRules
