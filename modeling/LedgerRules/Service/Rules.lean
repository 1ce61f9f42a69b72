import LedgerRules.Service.Message
import LedgerRules.Settings
import LedgerRules.Store.Accounts
import LedgerRules.Store.RuleSession

/-!
# Requests about rules

Rules are listed page by page, created one by one, and drafted for all accounts
that no rule covers yet.
-/

namespace LedgerRules

namespace Service

/-- What a listing of rules is asked for. -/
structure Listing where
  ruleType : Option String
  isActive : Option Bool
  page : Int
  limit : Int
deriving Repr

def checkListing (query : List (String × String)) : Payload.Checked Listing :=
  Listing.mk
    <$> queryValue query "rule_type" none (Payload.nullable Payload.text)
    <*> queryValue query "is_active" none (Payload.nullable Payload.bool)
    <*> queryValue query "page" 1 (boundedInt (some 1) none)
    <*> queryValue query "limit" 20 (boundedInt (some 1) (some 100))

def showRules (rows : List RuleRow) : Except StoreFault Json := do
  return .arr (← rows.mapM showRule)

/-- Answers a request for a listing. -/
def listRules (query : List (String × String)) (store : Store) : Outcome :=
  match checkListing query with
  | .rejected problems => .unchanged store (.invalid problems)
  | .overflowed => .failed store .overflow
  | .accepted listing =>
      ⟨store, do
        let (rows, total) ← (RuleSession.start store).page listing.ruleType
          listing.isActive
          listing.page listing.limit
        return .answer 200
          (.obj [("data", ← showRules rows), ("count", .int total),
            ("page", .int listing.page)])⟩

def newRule (request : Payload.RuleRequest) : Store.NewRule where
  name := some request.name
  isActive := request.isActive
  priority := request.priority
  ruleType := request.ruleType
  logic := request.logic
  conditions := .obj (Payload.withoutNulls request.conditions.dump)
  actions := .obj (Payload.withoutNulls request.actions.dump)
  promptText := request.promptText
  matchPhone := request.matchPhone
  transferTo := request.transferTo

def committed
    (create : RuleSession → Except StoreFault (List RuleRow × RuleSession))
    (store : Store) : Except StoreFault (List RuleRow × Store) := do
  let (rows, session) ← create (.start store)
  return (rows, (← session.commit).committed)

/-- Answers a request for a new rule. -/
def createRule (body : Json) (store : Store) : Outcome :=
  match checkBody (Payload.RuleRequest.check .request) body with
  | .rejected problems => .unchanged store (.invalid problems)
  | .overflowed => .failed store .overflow
  | .accepted request =>
      match committed (RuleSession.create (newRule request)) store with
      | .error .conflict =>
          .unchanged store
            (.detail 409
              "An account detection rule already exists for this account")
      | .error fault => .failed store fault
      | .ok (rows, store) =>
          ⟨store, do
            let shown ← rows.mapM showRule
            return .answer 201 (shown.head?.getD .null)⟩

/-- The drafts for the accounts in use that no rule covers. -/
def draftRules (priority : Int) (excluded : List String) (store : Store) :
    Except StoreFault (List RuleDraft) :=
  let rules := (RuleSession.start store).all.map RuleRow.covering
  match Coverage.drafts priority excluded
    (store.activeAccounts.map AccountRow.account)
      rules (some rules) with
  | .ok drafts => .ok drafts
  | .error _ => .error .notAnObject

/-- What a request for drafted rules is told when there are none. -/
def nothingToDraft : String :=
  "No rules to generate. Accounts are already covered or have no institution or " ++
    "last four digits set."

/-- The body of an answer to a request for drafted rules. -/
def draftedBody (message : String) (count : Nat) (data : Json) : Json :=
  .obj [("message", .str message), ("created", .int count), ("data", data)]

/-- Stores all drafted rules, or none of them, and answers the request for
them. -/
def storeDrafts (drafts : List RuleDraft) (store : Store) : Outcome :=
  match drafts with
  | [] => .unchanged store
      (.answer 200 (draftedBody nothingToDraft 0 (.arr [])))
  | drafts =>
      match committed (RuleSession.createAll drafts) store with
      | .error .conflict =>
          .unchanged store
            (.detail 409 "Account rules were generated concurrently; retry")
      | .error fault => .failed store fault
      | .ok (rows, store) =>
          ⟨store, do
            let count := rows.length
            return .answer 201 (draftedBody
              ("Generated " ++ toString count ++ " account detection rules")
                count
              (← showRules rows))⟩

/-- Answers a request for drafted rules in a service with settings. -/
def createDraftedUnder (settings : Settings) (store : Store) : Outcome :=
  match draftRules settings.detectionPriority settings.excludedTypes store with
  | .error fault => .failed store fault
  | .ok drafts => storeDrafts drafts store

def createDrafted (store : Store) : Outcome :=
  createDraftedUnder {} store

end Service

end LedgerRules
