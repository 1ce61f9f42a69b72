import LedgerRules.Proofs.Payload.Accepted
import LedgerRules.Resolution.Basic
import LedgerRules.Service.Transactions

/-!
# Bodies that accept a preview

Whoever accepts a preview sends its body again, with the settled fields and the
applied rules of the preview in place of its own.  Such a body is accepted, and
it is read as the fields of the preview.
-/

namespace LedgerRules

namespace Json

/-- Gives several keys their values. -/
def setAll (value : String → Json) (keys : List String)
    (fields : List (String × Json)) :
    List (String × Json) :=
  keys.foldl (fun fields key => setField key (value key) fields) fields

theorem lookUp_setAll (value : String → Json) (keys : List String)
    (fields : List (String × Json)) (key : String) :
    lookUp key (setAll value keys fields) =
      if key ∈ keys then some (value key) else lookUp key fields := by
  induction keys generalizing fields with
  | nil => rfl
  | cons first rest induction =>
      change lookUp key
          (setAll value rest (setField first (value first) fields)) = _
      rw [induction]
      by_cases later : key ∈ rest
      · simp [later]
      · by_cases same : key = first
        · subst same
          simp [later, lookUp_setField]
        · simp [later, same, lookUp_setField_of_ne same]

end Json

namespace Payload

section Fields

variable {Value : Type} {fields others : Fields} {name : String}

theorem required_congr
    (same : Json.lookUp name others = Json.lookUp name fields)
    (check : Check Value) :
    required others name check = required fields name check := by
  rw [required, required, same]

theorem defaulted_congr
    (same : Json.lookUp name others = Json.lookUp name fields) (default : Value)
    (check : Check Value) :
    defaulted others name default check =
      defaulted fields name default check := by
  rw [defaulted, defaulted, same]

theorem optional_text_of_lookUp {value? : Option String}
    (found : Json.lookUp name fields = some (.ofText? value?)) :
    optional fields name text = .accepted value? := by
  rw [optional, defaulted, found]
  cases value? <;> rfl

theorem defaulted_oneOf_of_lookUp {options : List String}
    {option default : String} (member : option ∈ options)
    (found : Json.lookUp name fields = some (.str option)) :
    defaulted fields name default (oneOf options) = .accepted option := by
  rw [defaulted, found]
  simp [oneOf, member, Checked.under]

theorem defaulted_bool_of_lookUp {flag default : Bool}
    (found : Json.lookUp name fields = some (.bool flag)) :
    defaulted fields name default bool = .accepted flag := by
  rw [defaulted, found]
  rfl

end Fields

private theorem appliedRule_toJson (origin : Origin) (applied : AppliedRule) :
    appliedRule origin applied.toJson = .accepted applied := by
  simp [appliedRule, AppliedRule.toJson, model, required, Json.lookUp, text,
    anyObject, Checked.under]
  rfl

/-- A list of values is accepted item by item. -/
theorem checkItems_eq_accepted_iff {Value : Type} {check : Check Value}
    {items : List Json} {values : List Value} {index : Nat} :
    checkItems check index items = .accepted values ↔
      List.Forall₂ (fun item value => check item = .accepted value) items
        values := by
  induction items generalizing index values with
  | nil => simp [checkItems, eq_comm]
  | cons item rest induction =>
      rw [checkItems, Checked.seq_eq_accepted_iff, List.forall₂_cons_left_iff]
      constructor
      · rintro ⟨_, others, made, checkedRest, rfl⟩
        obtain ⟨value, checkedItem, rfl⟩ := Checked.map_eq_accepted_iff.mp made
        exact ⟨value, others, Checked.under_eq_accepted_iff.mp checkedItem,
          induction.mp checkedRest, rfl⟩
      · rintro ⟨value, others, checkedItem, checkedRest, rfl⟩
        exact ⟨_, others, Checked.map_eq_accepted_iff.mpr
          ⟨value, Checked.under_eq_accepted_iff.mpr checkedItem, rfl⟩,
          induction.mpr checkedRest, rfl⟩

/-- Values that a check reads back from their JSON are read back as a list. -/
theorem checkItems_map {Value : Type} {check : Check Value}
    {toJson : Value → Json}
    (readBack : ∀ value, check (toJson value) = .accepted value)
    (values : List Value) (index : Nat) :
    checkItems check index (values.map toJson) = .accepted values :=
  checkItems_eq_accepted_iff.mpr
    (List.forall₂_map_left_iff.mpr
      (List.forall₂_same.mpr fun value _ => readBack value))

theorem optional_appliedRules_of_lookUp {fields : Fields} {name : String}
    {origin : Origin} {applied : List AppliedRule}
    (found : Json.lookUp name fields =
      some (.arr (applied.map AppliedRule.toJson))) :
    optional fields name (list (appliedRule origin)) =
      .accepted (some applied) := by
  rw [optional, defaulted, found]
  change Checked.under _ (some <$> checkItems (appliedRule origin) 0 _) = _
  rw [checkItems_map (appliedRule_toJson origin)]
  rfl

end Payload

namespace Service

open Payload

/-- The fields that a preview settles. -/
def settledNames : List String :=
  ["account_id", "category_id", "type", "notes", "is_reconciled",
    "transfer_to_account_id", "transfer_id", "applied_rules"]

/-- What a preview shows for a field that it settles. -/
def shownFor (shown : Json) (name : String) : Json :=
  if name = "applied_rules" then shown.valueAt name
    else (shown.valueAt "resolved").valueAt name

/-- The body that accepts a preview of another one. -/
def accepting (shown : Json) : Json → Json
  | .obj fields => .obj (Json.setAll (shownFor shown) settledNames fields)
  | body => body

/-- The candidate of a body that accepts a preview. -/
def settledRequest (resolution : Resolution) (request : CandidateRequest) :
    CandidateRequest :=
  { request with
    type := resolution.type
    accountId := resolution.accountId
    categoryId := resolution.categoryId
    notes := resolution.notes
    transferTo := resolution.transferTo
    transferId := resolution.transferId }

/-- The fields of a candidate that rules settle. -/
def resolvedNames : List String :=
  ["account_id", "category_id", "type", "notes", "transfer_to_account_id",
    "transfer_id"]

/-- The fields of a candidate that rules leave alone. -/
def carriedNames : List String :=
  ["description", "amount", "source", "raw_text", "transaction_date",
    "transaction_time"]

section Accepting

variable (resolution : Resolution) {fields : Fields} {names : List String}

theorem lookUp_settled {name : String} (settled : name ∈ names) :
    Json.lookUp name
      (Json.setAll (shownFor (previewBody resolution)) names fields) =
      some (shownFor (previewBody resolution) name) := by
  rw [Json.lookUp_setAll, if_pos settled]

theorem lookUp_unsettled {name : String} (unsettled : name ∉ names) :
    Json.lookUp name
      (Json.setAll (shownFor (previewBody resolution)) names fields) =
      Json.lookUp name fields := by
  rw [Json.lookUp_setAll, if_neg unsettled]

/-- With what a preview shows for the fields that rules settle, a body is read
as the settled candidate. -/
theorem reads_setAll {request : CandidateRequest}
    (reads : CandidateRequest.Reads fields request)
    (type : resolution.type ∈ transactionTypes)
    (resolved : ∀ name ∈ resolvedNames, name ∈ names)
    (carried : ∀ name ∈ carriedNames, name ∉ names) :
    CandidateRequest.Reads
      (Json.setAll (shownFor (previewBody resolution)) names fields)
      (settledRequest resolution request) where
  description :=
    (required_congr (lookUp_unsettled resolution (carried _ (by decide)))
    _).trans
    reads.description
  amount := (required_congr
    (lookUp_unsettled resolution (carried _ (by decide))) _).trans
    reads.amount
  type := defaulted_oneOf_of_lookUp type
    (lookUp_settled resolution (resolved _ (by decide)))
  source := (defaulted_congr
    (lookUp_unsettled resolution (carried _ (by decide))) _ _).trans
    reads.source
  rawText := (defaulted_congr
    (lookUp_unsettled resolution (carried _ (by decide))) _ _).trans
    reads.rawText
  accountId :=
    optional_text_of_lookUp (lookUp_settled resolution (resolved _ (by decide)))
  categoryId :=
    optional_text_of_lookUp (lookUp_settled resolution (resolved _ (by decide)))
  transactionDate := (defaulted_congr
    (lookUp_unsettled resolution (carried _ (by decide))) _ _).trans
      reads.transactionDate
  transactionTime := (defaulted_congr
    (lookUp_unsettled resolution (carried _ (by decide))) _ _).trans
      reads.transactionTime
  notes := optional_text_of_lookUp
    (lookUp_settled resolution (resolved _ (by decide)))
  transferTo :=
    optional_text_of_lookUp (lookUp_settled resolution (resolved _ (by decide)))
  transferId :=
    optional_text_of_lookUp (lookUp_settled resolution (resolved _ (by decide)))

/-- A body that accepts a preview is accepted, and it is read as the settled
candidate with the rules and the mark of the preview. -/
theorem checkBody_accepting {request : CandidateRequest}
    (reads : CandidateRequest.Reads fields request)
    (type : resolution.type ∈ transactionTypes) (today : Date) :
    checkBody (TransactionRequest.check .request today)
        (accepting (previewBody resolution) (.obj fields)) =
      .accepted ⟨TransactionRequest.dated today
        (settledRequest resolution request), some resolution.appliedRules,
        resolution.isReconciled⟩ :=
  TransactionRequest.checkBody_eq_accepted_iff.mpr ⟨_, rfl, {
    candidate :=
      ⟨_, reads_setAll resolution reads type (by decide) (by decide), rfl⟩
    appliedRules := optional_appliedRules_of_lookUp
      (lookUp_settled resolution (by decide))
    isReconciled := defaulted_bool_of_lookUp
      (lookUp_settled resolution (by decide)) }⟩

end Accepting

end Service

end LedgerRules
