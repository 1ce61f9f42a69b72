import LedgerRules.Json.Access
import LedgerRules.Payload.TransactionRequest
import LedgerRules.Proofs.Outcomes
import LedgerRules.Service.Message

/-!
# Accepted requests for transactions

A request is accepted when each of its fields is, and its fields are what their
checks answer.
-/

namespace LedgerRules

namespace Payload

/-- The fields of a candidate are what the checks of an object's fields
answer. -/
structure CandidateRequest.Reads (fields : Fields)
    (request : CandidateRequest) : Prop where
  description : required fields "description"
    (boundedText 1 longestDescription) =
    .accepted request.description
  amount : required fields "amount" decimal = .accepted request.amount
  type : defaulted fields "type" "expense" (oneOf transactionTypes) =
    .accepted request.type
  source : defaulted fields "source" "manual" text = .accepted request.source
  rawText : optional fields "raw_text" text = .accepted request.rawText
  accountId : optional fields "account_id" text = .accepted request.accountId
  categoryId : optional fields "category_id" text = .accepted request.categoryId
  transactionDate : optional fields "transaction_date" date =
    .accepted request.transactionDate
  transactionTime : optional fields "transaction_time" text =
    .accepted request.transactionTime
  notes : optional fields "notes" text = .accepted request.notes
  transferTo : optional fields "transfer_to_account_id" text =
    .accepted request.transferTo
  transferId : optional fields "transfer_id" text = .accepted request.transferId

theorem CandidateRequest.checkFields_eq_accepted_iff {fields : Fields}
    {request : CandidateRequest} :
    checkFields fields = .accepted request ↔ Reads fields request := by
  constructor
  · intro accepted
    simp only [checkFields, Checked.seq_eq_accepted_iff,
      Checked.map_eq_accepted_iff] at accepted
    obtain ⟨_, _,
      ⟨_, _, ⟨_, _,
        ⟨_, _, ⟨_, _,
        ⟨_, _, ⟨_, _,
        ⟨_, _, ⟨_, _,
        ⟨_, _, ⟨_, _, ⟨_, description, rfl⟩, amount, rfl⟩, type, rfl⟩, source,
        rfl⟩, rawText, rfl⟩, accountId,
      rfl⟩, categoryId, rfl⟩, transactionDate, rfl⟩, transactionTime, rfl⟩,
        notes, rfl⟩,
      transferTo, rfl⟩, transferId, rfl⟩ := accepted
    exact ⟨description, amount, type, source, rawText, accountId, categoryId,
      transactionDate, transactionTime, notes, transferTo, transferId⟩
  · intro reads
    simp only [checkFields, reads.description, reads.amount, reads.type,
      reads.source, reads.rawText, reads.accountId, reads.categoryId,
      reads.transactionDate,
      reads.transactionTime, reads.notes, reads.transferTo, reads.transferId]
    rfl

/-- A field that is read holds what the check accepts, or it stands for its
default. -/
theorem eq_accepted_of_defaulted {Value : Type} {fields : Fields}
    {name : String} {check : Check Value} {default value : Value}
    (accepted : defaulted fields name default check = .accepted value) :
    (∃ given, check given = .accepted value) ∨ default = value := by
  unfold defaulted at accepted
  split at accepted
  case h_1 given _ =>
    exact .inl ⟨given, Checked.under_eq_accepted_iff.mp accepted⟩
  case h_2 =>
    cases accepted
    exact .inr rfl

theorem eq_accepted_of_optional {Value : Type} {fields : Fields} {name : String}
    {check : Check Value} {value : Value}
    (accepted : optional fields name check = .accepted (some value)) :
    ∃ given, check given = .accepted value := by
  rcases eq_accepted_of_defaulted accepted with ⟨given, checked⟩ | absent
  · unfold nullable at checked
    split at checked
    · cases checked
    · obtain ⟨_, chosen, same⟩ := Checked.map_eq_accepted_iff.mp checked
      cases same
      exact ⟨given, chosen⟩
  · cases absent

section Options

variable {options : List String} {fields : Fields} {name option : String}

theorem mem_of_oneOf {value : Json}
    (accepted : oneOf options value = .accepted option) :
    option ∈ options := by
  cases value with
  | str text =>
      simp only [oneOf] at accepted
      split at accepted
      case isTrue member =>
        cases accepted
        exact List.contains_iff_mem.mp member
      case isFalse => cases accepted
  | _ => cases accepted

theorem mem_of_defaulted_oneOf {default : String}
    (defaultMember : default ∈ options)
    (accepted : defaulted fields name default (oneOf options) =
      .accepted option) :
    option ∈ options := by
  rcases eq_accepted_of_defaulted accepted with ⟨_, given⟩ | absent
  · exact mem_of_oneOf given
  · rw [← absent]
    exact defaultMember

theorem mem_of_optional_oneOf
    (accepted : optional fields name (oneOf options) =
      .accepted (some option)) :
    option ∈ options := by
  obtain ⟨_, given⟩ := eq_accepted_of_optional accepted
  exact mem_of_oneOf given

end Options

/-- A value is accepted as a model when it is an object whose fields are. -/
theorem model_eq_accepted_iff {Value : Type} {origin : Origin} {name : String}
    {check : Fields → Checked Value} {given : Json} {value : Value} :
    model origin name check given = .accepted value ↔
      ∃ fields, given = .obj fields ∧ check fields = .accepted value := by
  cases given with
  | obj fields => simp [model]
  | _ => cases origin <;> simp [model, Checked.refuse]

namespace Actions

/-- The fields of actions are what the checks of an object's fields answer. -/
structure Reads (fields : Fields) (actions : Actions) : Prop where
  setType : optional fields "set_type" (oneOf transactionTypes) =
    .accepted actions.setType
  setCategory : optional fields "set_category" text =
    .accepted actions.setCategory
  setAccount : optional fields "set_account" text = .accepted actions.setAccount
  linkToAccount : optional fields "link_to_account" text =
    .accepted actions.linkToAccount
  autoReconcile : optional fields "auto_reconcile" bool =
    .accepted actions.autoReconcile
  addNote : optional fields "add_note" text = .accepted actions.addNote
  known : unknownFields names fields = []

theorem checkFields_eq_accepted_iff {fields : Fields} {actions : Actions} :
    checkFields fields = .accepted actions ↔ Reads fields actions := by
  rw [checkFields, Checked.alsoReporting_eq_accepted_iff]
  constructor
  · rintro ⟨accepted, known⟩
    simp only [Checked.seq_eq_accepted_iff, Checked.map_eq_accepted_iff]
      at accepted
    obtain ⟨_, _,
      ⟨_, _, ⟨_, _,
      ⟨_, _, ⟨_, _, ⟨_, setType, rfl⟩, setCategory, rfl⟩, setAccount, rfl⟩,
      linkToAccount, rfl⟩, autoReconcile, rfl⟩, addNote, rfl⟩ := accepted
    exact ⟨setType, setCategory, setAccount, linkToAccount, autoReconcile,
      addNote, known⟩
  · intro reads
    refine ⟨?_, reads.known⟩
    simp only [reads.setType, reads.setCategory, reads.setAccount,
      reads.linkToAccount, reads.autoReconcile, reads.addNote]
    rfl

/-- The type that an accepted payload of actions sets is one that transactions
have. -/
theorem setType_mem {origin : Origin} {value : Json} {actions : Actions}
    (accepted : check origin value = .accepted actions) {type : String}
    (sets : actions.setType = some type) : type ∈ transactionTypes := by
  obtain ⟨_, _, checked⟩ := model_eq_accepted_iff.mp accepted
  have chosen := (checkFields_eq_accepted_iff.mp checked).setType
  rw [sets] at chosen
  exact mem_of_optional_oneOf chosen

end Actions

/-- A body is accepted as a model when it is an object whose fields are. -/
theorem checkBody_model_eq_accepted_iff {Value : Type} {origin : Origin}
    {name : String} {check : Fields → Checked Value} {body : Json}
    {value : Value} :
    Service.checkBody (model origin name check) body = .accepted value ↔
      ∃ fields, body = .obj fields ∧ check fields = .accepted value := by
  unfold Service.checkBody
  rw [Checked.under_eq_accepted_iff]
  cases body with
  | null => simp [Checked.refuse]
  | _ => exact model_eq_accepted_iff

/-- The fields of a request are what the checks of an object's fields answer;
the date is filled in. -/
structure TransactionRequest.Reads (today : Date) (fields : Fields)
    (request : TransactionRequest) : Prop where
  candidate : ∃ candidate, CandidateRequest.Reads fields candidate ∧
    dated today candidate = request.candidate
  appliedRules : optional fields "applied_rules" (list (appliedRule .request)) =
    .accepted request.appliedRules
  isReconciled : defaulted fields "is_reconciled" false bool =
    .accepted request.isReconciled

theorem TransactionRequest.checkBody_eq_accepted_iff {today : Date}
    {body : Json} {request : TransactionRequest} :
    Service.checkBody (check .request today) body = .accepted request ↔
      ∃ fields, body = .obj fields ∧ Reads today fields request := by
  rw [check, checkBody_model_eq_accepted_iff]
  apply exists_congr
  intro fields
  apply and_congr_right
  intro _
  constructor
  · intro accepted
    simp only [Checked.seq_eq_accepted_iff, Checked.map_eq_accepted_iff]
      at accepted
    obtain ⟨_, _,
      ⟨_, _, ⟨_, ⟨candidate, checked, rfl⟩, rfl⟩, appliedRules, rfl⟩,
      isReconciled, rfl⟩ := accepted
    exact ⟨⟨candidate, CandidateRequest.checkFields_eq_accepted_iff.mp checked,
      rfl⟩, appliedRules, isReconciled⟩
  · rintro ⟨⟨candidate, reads, dated⟩, appliedRules, isReconciled⟩
    rw [CandidateRequest.checkFields_eq_accepted_iff.mpr reads, appliedRules,
      isReconciled]
    change Checked.accepted
        (TransactionRequest.mk (TransactionRequest.dated today candidate)
      request.appliedRules request.isReconciled) = _
    rw [dated]

/-- A field that is absent or `null` is read as nothing. -/
theorem optional_eq_none_of_valueAt {Value : Type} {fields : Fields}
    {name : String} (absent : (Json.obj fields).valueAt name = .null)
    (check : Check Value) :
    optional fields name check = .accepted none := by
  change (Json.lookUp name fields).getD .null = .null at absent
  unfold optional defaulted
  cases found : Json.lookUp name fields with
  | none => rfl
  | some value =>
      rw [found] at absent
      cases absent
      rfl

theorem isFinite_of_decimal {value : Json} {amount : Decimal}
    (accepted : decimal value = .accepted amount) : amount.isFinite = true := by
  have finite : ∀ number : Decimal, finiteDecimal number = .accepted amount →
      amount.isFinite = true := by
    intro number checked
    unfold finiteDecimal at checked
    split at checked
    case isTrue isFinite =>
      cases checked
      exact isFinite
    case isFalse => cases checked
  cases value with
  | int number =>
      cases accepted
      rfl
  | float number => exact finite _ accepted
  | str text =>
      simp only [decimal] at accepted
      split at accepted
      case h_1 number _ => exact finite number accepted
      case h_2 => cases accepted
  | _ => cases accepted

private theorem required_eq_accepted {Value : Type} {fields : Fields}
    {name : String} {check : Check Value} {value : Value}
    (accepted : required fields name check = .accepted value) :
    ∃ given, Json.lookUp name fields = some given ∧
      check given = .accepted value := by
  unfold required at accepted
  split at accepted
  case h_1 given found =>
    exact ⟨given, found, Checked.under_eq_accepted_iff.mp accepted⟩
  case h_2 => cases accepted

/-- An amount that is accepted is finite. -/
theorem TransactionRequest.Reads.isFinite_amount {today : Date}
    {fields : Fields} {request : TransactionRequest}
    (reads : Reads today fields request) :
    request.candidate.amount.isFinite = true := by
  obtain ⟨candidate, candidateReads, same⟩ := reads.candidate
  obtain ⟨_, _, accepted⟩ := required_eq_accepted candidateReads.amount
  rw [← same]
  exact isFinite_of_decimal accepted

end Payload

end LedgerRules
