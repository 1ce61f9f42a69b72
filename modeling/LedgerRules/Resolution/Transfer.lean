import LedgerRules.Resolution.Basic
import LedgerRules.Resolution.Identifier

/-!
# Linking transfers

A settled resolution with a destination becomes the first half of a transfer: it
gets an identifier and asks for the other half.  It stays as it is when it is
linked already, and loses a destination that is not known or is its own account.
-/

namespace LedgerRules

namespace Resolution

/-- The type of both halves of a transfer. -/
def transferType : String := "transfer"

/-- The resolution without its destination, and with an issue that says why. -/
def withoutDestination (resolution : Resolution) (reason : String) :
    Resolution :=
  { resolution with
    transferTo := none
    issues := resolution.issues ++ [⟨none, "transfer", reason⟩] }

def otherHalf (resolution : Resolution) (transferId destination : String) :
    TransferRequest where
  transferId := transferId
  source := resolution.accountId
  destination := destination
  amount := resolution.amount
  description := resolution.description
  transactionDate := resolution.transactionDate
  transactionTime := resolution.transactionTime

/-- Links a settled resolution with an identifier of a supply, and counts how
often one was asked for.  It is asked for only when the resolution becomes a
half of a new transfer. -/
def linkFrom (known : KnownAccounts) (supply : IdSupply) (asked : Nat)
    (resolution : Resolution) :
    Resolution × Nat :=
  match nonEmpty? resolution.transferTo with
  | none => (resolution, asked)
  | some destination =>
      if (nonEmpty? resolution.transferId).isSome then (resolution, asked)
      else if !known.allow destination then
        (resolution.withoutDestination
          ("destination account " ++ destination ++ " not found"), asked)
      else if resolution.accountId = some destination then
        (resolution.withoutDestination
          ("destination account " ++ destination ++ " is the source account"),
          asked)
      else
        ({ resolution with
            type := transferType
            transferId := some (supply.yields asked)
            transferRequest :=
              some (resolution.otherHalf (supply.yields asked) destination) },
          asked + 1)

/-- Links a settled resolution.  A new identifier is taken only for a new
transfer. -/
def link (known : KnownAccounts) (ids : IdSource) (resolution : Resolution) :
    Resolution × IdSource :=
  let linked := resolution.linkFrom known ids.supply ids.issued
  (linked.1, { ids with issued := linked.2 })

end Resolution

end LedgerRules
