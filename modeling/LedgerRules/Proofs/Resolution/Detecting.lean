import LedgerRules.Proofs.Payload.Stated
import LedgerRules.Proofs.Resolution.Influence

/-!
# Detecting the account that is booked on

Detection runs the rules of one kind only, without regard to which accounts are
known, and resolving runs those of all kinds.  Both let the first rule that
matches and has an account decide.  So they agree while no rule of another kind
has an account, and rules of other kinds do not matter to detection at all.
-/

namespace LedgerRules

/-- Whether a stored rule is well formed, but of a kind that the intent leaves
out. -/
def Intent.passesOver (intent : Intent) (stored : StoredRule) : Bool :=
  match stored.compile with
  | .ok rule => !intent.allows rule.kind
  | .error _ => false

namespace StoredRule

/-- An active rule that is well formed and of another kind than detection names
an account. -/
structure Reroutes (stored : StoredRule) (accountId : String) : Prop where
  active : stored.isActive = true
  wellFormed : ∃ rule, stored.compile = .ok rule
  otherKind : stored.ruleType = RuleKind.general.text ∨
    stored.ruleType = RuleKind.transfer.text
  named : stored.actions.field? "set_account" = some (.str accountId)
  notEmpty : accountId ≠ ""

private theorem named_of_accepted {stored : StoredRule}
    {actions : Payload.Actions}
    (accepted : Payload.Actions.check .storage (payload stored.actions) =
      .accepted actions)
    {accountId : String} (sets : actions.setAccount = some accountId) :
    stored.actions.field? "set_account" = some (.str accountId) := by
  obtain ⟨fields, isObject, checked⟩ :=
    Payload.model_eq_accepted_iff.mp accepted
  have reads := Payload.Actions.checkFields_eq_accepted_iff.mp checked
  have stated := Payload.optional_eq_accepted_iff.mp reads.setAccount
  obtain ⟨given, statedThere, read⟩ := stated.exists_given sets
  rw [Payload.text_eq_accepted_iff] at read
  subst read
  obtain ⟨value, there, notNull⟩ := Option.bind_eq_some_iff.mp statedThere
  have isText : value = .str accountId := by
    cases value <;> simp_all [Payload.nonNull?]
  subst isText
  unfold payload at isObject
  split at isObject
  case isTrue =>
    rw [isObject]
    exact there
  case isFalse =>
    cases isObject
    cases there

theorem named_of_account? {stored : StoredRule} {rule : Rule}
    (compiled : stored.compile = .ok rule) {accountId : String}
    (sets : rule.account? = some accountId) :
    stored.actions.field? "set_account" = some (.str accountId) ∧
    accountId ≠ "" := by
  obtain ⟨action, member, written⟩ := List.exists_of_findSome?_eq_some sets
  obtain ⟨payload, accepted, actions⟩ := actions_of_compile compiled
  rw [actions] at member
  cases Payload.Actions.makes_of_mem_compile member with
  | setAccount given =>
      cases written
      obtain ⟨states, notEmpty⟩ := nonEmpty?_eq_some_iff.mp given
      exact ⟨named_of_accepted accepted states, notEmpty⟩
  | _ => cases written

private theorem account?_eq_none {stored : StoredRule} {rule : Rule}
    (active : stored.isActive = true) (compiled : stored.compile = .ok rule)
    (otherKind : rule.kind ≠ .accountDetection)
    (undisturbed : ∀ accountId, ¬ stored.Reroutes accountId) :
    rule.account? = none := by
  rw [Option.eq_none_iff_forall_ne_some]
  intro accountId sets
  obtain ⟨named, notEmpty⟩ := named_of_account? compiled sets
  refine undisturbed accountId ⟨active, ⟨rule, compiled⟩, ?_, named, notEmpty⟩
  obtain ⟨kind, _, _, _, kindFound, _, _, _, rfl⟩ :=
    compile_eq_ok_iff.mp compiled
  unfold RuleKind.ofText? at kindFound
  split at kindFound
  case h_1 general => exact .inl general
  case h_2 =>
    cases kindFound
    exact (otherKind rfl).elim
  case h_3 transfer => exact .inr transfer
  case h_4 => cases kindFound

end StoredRule

namespace Selection

variable {intent : Intent} {rules : List StoredRule} {selection : Selection}

theorem select_of_general (selected : select .general rules = .ok selection)
    (intent : Intent) :
    select intent rules = .ok { selection with
      rules := selection.rules.filter fun rule =>
        intent.allows rule.kind } := by
  obtain ⟨inBounds, rfl⟩ := select_eq_ok_iff.mp selected
  refine select_intent_eq_ok_iff.mpr ⟨inBounds, ?_⟩
  rw [← Rule.mergeSort_filter, List.filter_filterMap]
  rfl

private theorem gather_filter_passesOver :
    gather intent (rules.filter fun stored => !intent.passesOver stored) =
      gather intent rules := by
  induction rules with
  | nil => rfl
  | cons stored rest induction =>
      cases passed : intent.passesOver stored with
      | false =>
          rw [List.filter_cons_of_pos (by simp [passed])]
          simp only [gather, induction]
      | true =>
          rw [List.filter_cons_of_neg (by simp [passed]), induction]
          unfold Intent.passesOver at passed
          split at passed
          case h_1 rule compiled =>
            rw [Bool.not_eq_true'] at passed
            simp only [gather, compiled, passed]
            cases stored.isActive <;> simp
          case h_2 => cases passed

end Selection

namespace Resolution

variable {known : KnownAccounts} {ids : IdSource}
  {rules other : List StoredRule} {candidate : Candidate} {found : Option Json}
  {outcome : Resolution × IdSource}

/-- Detection answers the account of the first detecting rule that matches and
has one. -/
theorem detectAccount_eq_ok_iff :
    detectAccount rules candidate = .ok found ↔
      ∃ selection, Selection.select .accountDetection rules = .ok selection ∧
        (∀ rule ∈ selection.rules, rule.Decides candidate) ∧
        found = (Settlement.firstAccount?
          (selection.rules.filter (Rule.fits candidate))).map Json.str := by
  have detected : ∀ {matching : List Rule},
      (∀ rule ∈ matching, rule.OneOfEachKind) →
      (settlement none candidate matching).appliedRules.findSome?
          (fun applied => Json.lookUp "set_account" applied.actions) =
        (Settlement.firstAccount? matching).map Json.str := by
    intro matching single
    have recorded : (settlement none candidate matching).recorded .account =
        ((Settlement.firstAccount? matching).map Json.str).toList :=
      recorded_settlement single candidate .account
    rw [← List.head?_filterMap]
    exact (congrArg List.head? recorded).trans Option.head?_toList
  unfold detectAccount
  simp only [bind_eq_ok_iff, fold_eq_ok_iff, pure, Except.pure, Except.ok.injEq]
  constructor
  · rintro ⟨resolution, ⟨selection, selected, folded⟩, rfl⟩
    have single : ∀ rule ∈ selection.rules,
        rule.OneOfEachKind := fun _ member =>
      Selection.oneOfEachKind_of_select selected member
    obtain ⟨decided, rfl⟩ := (ofRules_eq_ok_iff single).mp folded
    exact ⟨selection, selected, decided,
      detected fun rule member => single rule (List.mem_filter.mp member).1⟩
  · rintro ⟨selection, selected, decided, rfl⟩
    have single : ∀ rule ∈ selection.rules,
        rule.OneOfEachKind := fun _ member =>
      Selection.oneOfEachKind_of_select selected member
    exact ⟨_, ⟨selection, selected, (ofRules_eq_ok_iff single).mpr
      ⟨decided, rfl⟩⟩, detected fun rule member =>
        single rule (List.mem_filter.mp member).1⟩

theorem detectAccount_filter_passesOver :
    detectAccount
      (rules.filter fun stored => !Intent.accountDetection.passesOver stored)
        candidate = detectAccount rules candidate := by
  simp only [detectAccount, fold, selected, Selection.select,
    Selection.gather_filter_passesOver]

theorem accountId_of_resolve
    (success : resolve known ids rules candidate = .ok outcome) :
    ∃ selection, Selection.select .general rules = .ok selection ∧
      outcome.1.accountId =
        (Settlement.firstAccount?
          (selection.rules.filter (Rule.fits candidate))).or
          candidate.accountId := by
  obtain ⟨selection, selected, _, linked⟩ := resolve_eq_ok_iff_linked.mp success
  exact ⟨selection, selected, linked.keeps.1⟩

theorem firstAccount?_filter {rules : List Rule} {kept : Rule → Bool}
    (silent : ∀ rule ∈ rules, kept rule = false → rule.account? = none) :
    Settlement.firstAccount? (rules.filter kept) =
      Settlement.firstAccount? rules := by
  simp only [Settlement.firstAccount?, ← List.head?_filterMap]
  rw [List.filterMap_filter]
  congr 1
  apply List.filterMap_congr
  intro rule member
  cases keeps : kept rule with
  | true => rfl
  | false => exact (silent rule member keeps).symm

/-- While no rule of another kind names an account, a transaction is booked on
the account that detection answers, and on that of the candidate when it answers
none; and rules of other kinds that are well formed never change what detection
answers. -/
theorem booked_on_detected (rules : List StoredRule) (candidate : Candidate) :
    ((∀ stored ∈ rules, ∀ accountId, ¬ stored.Reroutes accountId) →
      ∀ known ids found outcome, detectAccount rules candidate = .ok found →
        resolve known ids rules candidate = .ok outcome →
          (∃ accountId, found = some (.str accountId) ∧
            outcome.1.accountId = some accountId) ∨
            found = none ∧ outcome.1.accountId = candidate.accountId) ∧
      ∀ other : List StoredRule,
        (other.filter fun stored => !Intent.accountDetection.passesOver
          stored) =
            (rules.filter fun stored => !Intent.accountDetection.passesOver
              stored) →
          detectAccount other candidate = detectAccount rules candidate := by
  constructor
  · intro undisturbed known ids found outcome detects resolves
    obtain ⟨selection, selected, accountId⟩ := accountId_of_resolve resolves
    obtain ⟨detecting, detected, _, rfl⟩ := detectAccount_eq_ok_iff.mp detects
    cases (Selection.select_of_general selected .accountDetection).symm.trans
      detected
    -- Matching rules of other kinds have no account, so leaving them out first
    -- changes nothing.
    have sameAccount : Settlement.firstAccount?
        ((selection.rules.filter fun rule =>
          Intent.accountDetection.allows rule.kind).filter
            (Rule.fits candidate)) =
        Settlement.firstAccount?
          (selection.rules.filter (Rule.fits candidate)) := by
      rw [List.filter_comm]
      apply firstAccount?_filter
      intro rule member otherKind
      obtain ⟨stored, storedMember, active, compiled⟩ :=
        Selection.mem_of_select selected (List.mem_filter.mp member).1
      exact StoredRule.account?_eq_none active compiled
        (of_decide_eq_false otherKind)
        (undisturbed stored storedMember)
    rw [sameAccount, accountId]
    cases Settlement.firstAccount?
      (selection.rules.filter (Rule.fits candidate)) with
    | some detected => exact .inl ⟨detected, rfl, rfl⟩
    | none => exact .inr ⟨rfl, rfl⟩
  · intro other same
    rw [← detectAccount_filter_passesOver, same,
      detectAccount_filter_passesOver]

/-- A rule that detects the account of a salary, and a rule of another kind that
names no account. -/
def payRules : List StoredRule := [
  { id := "label", name := "Label", priority := 1
    actions := .obj [("set_category", .str "pay"), ("set_account", .str "")] },
  { id := "giro", name := "Giro", ruleType := "account_detection"
    conditions := .obj [("description_contains", .arr [.str "salary"])]
    actions := .obj [("set_account", .str "giro")] }]

/-- A rule that moves everything to an account. -/
def movingRule : StoredRule where
  id := "moving"
  name := "Moving"
  ruleType := "transfer"
  actions := .obj [("set_account", .str "joint")]

theorem booked_on_detected_pay :
    ∃ outcome, detectAccount payRules (salaryOn "wallet") =
      .ok (some (.str "giro")) ∧
      resolve none .transfers payRules (salaryOn "wallet") = .ok outcome ∧
      outcome.1.accountId = some "giro" ∧
      detectAccount (movingRule :: payRules) (salaryOn "wallet") =
        .ok (some (.str "giro")) := by
  have undisturbed : ∀ stored ∈ payRules, ∀ accountId,
      ¬ stored.Reroutes accountId := by
    intro stored member accountId reroutes
    obtain ⟨_, _, otherKind, named, notEmpty⟩ := reroutes
    rcases List.mem_pair.mp member with rfl | rfl
    · cases named
      exact notEmpty rfl
    · simp [RuleKind.text] at otherKind
  have passedOver : (movingRule :: payRules).filter
        (fun stored => !Intent.accountDetection.passesOver stored) =
      payRules.filter fun stored => !Intent.accountDetection.passesOver
        stored := by
    have passed : Intent.accountDetection.passesOver movingRule = true := by cbv
    rw [List.filter_cons_of_neg (by simp [passed])]
  have detects : detectAccount payRules (salaryOn "wallet") =
      .ok (some (.str "giro")) := by cbv
  obtain ⟨outcome, resolves⟩ : ∃ outcome,
      resolve none .transfers payRules (salaryOn "wallet") = .ok outcome :=
    eq_ok_of_fault? (by cbv)
  obtain ⟨booked, sameDetected⟩ := booked_on_detected payRules
    (salaryOn "wallet")
  refine ⟨outcome, detects, resolves, ?_, (sameDetected _ passedOver).trans
    detects⟩
  rcases booked undisturbed none .transfers _ outcome detects resolves with
    ⟨accountId, same, account⟩ | ⟨none, _⟩
  · cases same
    exact account
  · cases none

end Resolution

end LedgerRules
