import LedgerRules.Proofs.Rule.Gathering
import LedgerRules.Resolution.Fold

/-!
# What rules settle together

The rules that match a candidate settle its fields without regard to how they
are folded: every exclusive field goes to the first rule that has a value for
it, a link counts only when its account is known, and notes and reconciliation
add up.  `ofRules_eq_settlement` says that folding selected rules gives just
that, together with the audit trail and the issues.
-/

namespace LedgerRules

namespace Rule

/-- The rule with only some of its actions. -/
def doing (rule : Rule) (done : List Action) : Rule :=
  { rule with actions := done }

section Doing

variable (rule : Rule) (done : List Action)

@[simp] theorem id_doing : (rule.doing done).id = rule.id := rfl

@[simp] theorem name_doing : (rule.doing done).name = rule.name := rfl

@[simp] theorem type?_doing : (rule.doing done).type? =
  done.findSome? Action.type? := rfl

@[simp] theorem category?_doing :
    (rule.doing done).category? = done.findSome? Action.category? := rfl

@[simp] theorem account?_doing :
    (rule.doing done).account? = done.findSome? Action.account? := rfl

@[simp] theorem destination?_doing :
    (rule.doing done).destination? = done.findSome? Action.destination? := rfl

@[simp] theorem note?_doing : (rule.doing done).note? =
  done.findSome? Action.note? := rfl

@[simp] theorem reconciles_doing :
    (rule.doing done).reconciles = done.contains .reconcile := rfl

theorem doing_actions : rule.doing rule.actions = rule := rfl

end Doing

/-- Whether the conditions of a rule have an answer for a candidate. -/
def Decides (candidate : Candidate) (rule : Rule) : Prop :=
  ∃ answer, Condition.hold rule.logic rule.conditions candidate = .ok answer

def fits (candidate : Candidate) (rule : Rule) : Bool :=
  match Condition.hold rule.logic rule.conditions candidate with
  | .ok answer => answer
  | .error _ => false

instance (candidate : Candidate) (rule : Rule) :
    Decidable (rule.Decides candidate) :=
  match answered : Condition.hold rule.logic rule.conditions candidate with
  | .ok answer => .isTrue ⟨answer, answered⟩
  | .error _ => .isFalse fun ⟨_, success⟩ => by simp [answered] at success

end Rule

namespace Settlement

def firstType? (rules : List Rule) : Option String :=
  rules.findSome? fun rule => rule.type?

def firstCategory? (rules : List Rule) : Option String :=
  rules.findSome? fun rule => rule.category?

def firstAccount? (rules : List Rule) : Option String :=
  rules.findSome? fun rule => rule.account?

/-- The account of the first link to an account that is known. -/
def firstDestination? (known : KnownAccounts) (rules : List Rule) :
    Option String :=
  rules.findSome? fun rule => rule.destination?.filter known.allow

/-- Rules in order, each with the rules before it. -/
def turns (earlier : List Rule) : List Rule → List (List Rule × Rule)
  | [] => []
  | rule :: rest => (earlier, rule) :: turns (earlier ++ [rule]) rest

/-- Whether an action contributes after some rules: its field is not taken yet,
and a link leads to an account that is known. -/
def contributes (known : KnownAccounts) (earlier : List Rule) : Action → Bool
  | .setType _ => (firstType? earlier).isNone
  | .setCategory _ => (firstCategory? earlier).isNone
  | .setAccount _ => (firstAccount? earlier).isNone
  | .linkTo accountId =>
      (firstDestination? known earlier).isNone && known.allow accountId
  | .reconcile | .addNote _ => true

/-- What a rule in its turn is credited with: the actions that contribute, when
there are any. -/
def credit? (known : KnownAccounts) (turn : List Rule × Rule) :
    Option AppliedRule :=
  match turn.2.actions.filter (contributes known turn.1) with
  | [] => none
  | contributed =>
      some ⟨turn.2.id, turn.2.name, contributed.map fun action =>
        (action.key, action.credit)⟩

/-- The issue of a rule in its turn that links to an account that is not known,
while no earlier link has taken the destination. -/
def strayLink? (known : KnownAccounts) (turn : List Rule × Rule) :
    Option Issue :=
  match firstDestination? known turn.1, turn.2.destination? with
  | none, some accountId =>
      if known.allow accountId then none
      else some ⟨some turn.2.id, turn.2.name, "transfer destination " ++
        accountId ++ " not found"⟩
  | _, _ => none

/-- The notes of a candidate and of the rules after it. -/
def notes (candidate : Candidate) (rules : List Rule) : List String :=
  (nonEmpty? candidate.notes).toList ++ rules.filterMap fun rule => rule.note?

end Settlement

namespace Settlement

private theorem turns_append_singleton (earlier rules : List Rule)
    (rule : Rule) :
    turns earlier (rules ++ [rule]) = turns earlier rules ++
      [(earlier ++ rules, rule)] := by
  induction rules generalizing earlier with
  | nil => simp [turns]
  | cons first rest induction => simp [turns, induction]

end Settlement

open Settlement

def settlement (known : KnownAccounts) (candidate : Candidate)
    (rules : List Rule) :
    Resolution where
  description := candidate.description
  amount := candidate.amount
  type := (firstType? rules).getD candidate.type
  source := candidate.source
  original := ⟨candidate.accountId, candidate.categoryId⟩
  rawText := candidate.rawText
  accountId := (firstAccount? rules).or candidate.accountId
  categoryId := (firstCategory? rules).or candidate.categoryId
  transactionDate := candidate.transactionDate
  transactionTime := candidate.transactionTime
  notes :=
    match Settlement.notes candidate rules with
    | [] => none
    | texts => some (String.intercalate "\n" texts)
  isReconciled := rules.any fun rule => rule.reconciles
  transferTo := (firstDestination? known rules).or candidate.transferTo
  transferId := candidate.transferId
  appliedRules := (turns [] rules).filterMap (credit? known)
  issues := (turns [] rules).filterMap (strayLink? known)

namespace Settling

/-- The fields as some rules that match a candidate leave them. -/
def settledBy (known : KnownAccounts) (candidate : Candidate)
    (rules : List Rule) :
    Settling where
  type := (firstType? rules).getD candidate.type
  accountId := (firstAccount? rules).or candidate.accountId
  categoryId := (firstCategory? rules).or candidate.categoryId
  transferTo := (firstDestination? known rules).or candidate.transferTo
  notes := Settlement.notes candidate rules
  isReconciled := rules.any fun rule => rule.reconciles
  issues := (turns [] rules).filterMap (strayLink? known)
  typeTaken := (firstType? rules).isSome
  accountTaken := (firstAccount? rules).isSome
  categoryTaken := (firstCategory? rules).isSome
  transferTaken := (firstDestination? known rules).isSome

theorem settledBy_nil (known : KnownAccounts) (candidate : Candidate) :
    settledBy known candidate [] = ofCandidate candidate := by
  simp [settledBy, ofCandidate, firstType?, firstAccount?, firstCategory?,
    firstDestination?, turns, Settlement.notes]

theorem settledBy_append_singleton (known : KnownAccounts)
    (candidate : Candidate) (earlier : List Rule) (rule : Rule) :
    settledBy known candidate (earlier ++ [rule]) = {
      type := ((firstType? earlier).or rule.type?).getD candidate.type
      accountId := ((firstAccount? earlier).or rule.account?).or
        candidate.accountId
      categoryId := ((firstCategory? earlier).or rule.category?).or
        candidate.categoryId
      transferTo := ((firstDestination? known earlier).or
        (rule.destination?.filter known.allow)).or candidate.transferTo
      notes := Settlement.notes candidate earlier ++ rule.note?.toList
      isReconciled := (earlier.any fun rule => rule.reconciles) ||
        rule.reconciles
      issues := (turns [] earlier).filterMap (strayLink? known) ++
        (strayLink? known (earlier, rule)).toList
      typeTaken := ((firstType? earlier).or rule.type?).isSome
      accountTaken := ((firstAccount? earlier).or rule.account?).isSome
      categoryTaken := ((firstCategory? earlier).or rule.category?).isSome
      transferTaken := ((firstDestination? known earlier).or
        (rule.destination?.filter known.allow)).isSome } := by
  have note : [rule].filterMap Rule.note? = rule.note?.toList := by
    cases added : rule.note? <;> simp [added]
  have stray : [(earlier, rule)].filterMap (strayLink? known) =
      (strayLink? known (earlier, rule)).toList := by
    cases issue : strayLink? known (earlier, rule) <;> simp [issue]
  simp [settledBy, firstType?, firstAccount?, firstCategory?, firstDestination?,
    Settlement.notes, turns_append_singleton, List.findSome?_append, note,
    stray]

/-- Actions without one of a kind have no value of that kind. -/
theorem findSome?_eq_none {value? : Action → Option String} {name : String}
    (named : ∀ action, action.key ≠ name → value? action = none)
    {actions : List Action} (absent : name ∉ actions.map Action.key) :
    actions.findSome? value? = none := by
  apply List.findSome?_eq_none_iff.mpr
  intro action member
  apply named
  intro same
  exact absent (List.mem_map.mpr ⟨action, member, same⟩)

private theorem act_settledBy (known : KnownAccounts) (candidate : Candidate)
    (earlier : List Rule) (rule : Rule) (done : List Action) (action : Action)
    (newKind : action.key ∉ done.map Action.key) :
    (settledBy known candidate (earlier ++ [rule.doing done])).act known rule
      action =
      (settledBy known candidate (earlier ++ [rule.doing (done ++ [action])]),
        contributes known earlier action) := by
  rw [settledBy_append_singleton, settledBy_append_singleton]
  cases action with
  | setType type =>
      have absent : done.findSome? Action.type? = none :=
        findSome?_eq_none (by intro action; cases action <;> simp [Action.key])
          newKind
      cases taken : firstType? earlier <;>
        simp [act, contributes, strayLink?, List.findSome?_append, taken,
          absent]
  | setCategory categoryId =>
      have absent : done.findSome? Action.category? = none :=
        findSome?_eq_none (by intro action; cases action <;> simp [Action.key])
          newKind
      cases taken : firstCategory? earlier <;>
        simp [act, contributes, strayLink?, List.findSome?_append, taken,
          absent]
  | setAccount accountId =>
      have absent : done.findSome? Action.account? = none :=
        findSome?_eq_none (by intro action; cases action <;> simp [Action.key])
          newKind
      cases taken : firstAccount? earlier <;>
        simp [act, contributes, strayLink?, List.findSome?_append, taken,
          absent]
  | linkTo accountId =>
      have absent : done.findSome? Action.destination? = none :=
        findSome?_eq_none (by intro action; cases action <;> simp [Action.key])
          newKind
      cases taken : firstDestination? known earlier <;>
        cases allowed : known.allow accountId <;>
        simp [act, contributes, strayLink?, List.findSome?_append, taken,
          absent, allowed, unknownDestination, Option.filter]
  | reconcile => simp [act, contributes, strayLink?, List.findSome?_append]
  | addNote note =>
      have absent : done.findSome? Action.note? = none :=
        findSome?_eq_none (by intro action; cases action <;> simp [Action.key])
          newKind
      simp [act, contributes, strayLink?, List.findSome?_append, absent]

private theorem actAll_settledBy (known : KnownAccounts) (candidate : Candidate)
    (earlier : List Rule) (rule : Rule) (done rest : List Action)
    (distinct : ((done ++ rest).map Action.key).Nodup) :
    (settledBy known candidate (earlier ++ [rule.doing done])).actAll known rule
      rest =
      (settledBy known candidate (earlier ++ [rule.doing (done ++ rest)]),
        rest.filter (contributes known earlier)) := by
  induction rest generalizing done with
  | nil => simp [actAll]
  | cons action rest induction =>
      have newKind : action.key ∉ done.map Action.key := by
        intro member
        rw [List.map_append, List.map_cons] at distinct
        exact (List.nodup_append.mp distinct).2.2 _ member _ List.mem_cons_self
          rfl
      have further := induction (done ++ [action]) (by simpa using distinct)
      simp only [List.append_assoc, List.singleton_append] at further
      simp only [actAll, act_settledBy known candidate earlier rule done action
        newKind, further, List.filter_cons]

private theorem settledBy_doing_nil (known : KnownAccounts)
    (candidate : Candidate) (earlier : List Rule) (rule : Rule) :
    settledBy known candidate (earlier ++ [rule.doing []]) =
      settledBy known candidate earlier := by
  have noStray : strayLink? known (earlier, rule.doing []) = none := by
    cases taken : firstDestination? known earlier <;> simp [strayLink?, taken]
  rw [settledBy_append_singleton, noStray]
  simp [settledBy]

theorem actAll_actions (known : KnownAccounts) (candidate : Candidate)
    (earlier : List Rule) {rule : Rule} (single : rule.OneOfEachKind) :
    (settledBy known candidate earlier).actAll known rule rule.actions =
      (settledBy known candidate (earlier ++ [rule]),
        rule.actions.filter (contributes known earlier)) := by
  have acted := actAll_settledBy known candidate earlier rule [] rule.actions
    single
  rw [settledBy_doing_nil, List.nil_append, Rule.doing_actions] at acted
  exact acted

theorem credit_eq_toList (known : KnownAccounts) (earlier : List Rule)
    (rule : Rule) :
    credit rule (rule.actions.filter (contributes known earlier)) =
      (credit? known (earlier, rule)).toList := by
  unfold credit credit?
  cases rule.actions.filter (contributes known earlier) <;> simp

/-- Running further rules settles what all matching rules together settle. -/
theorem run_settledBy (known : KnownAccounts) (candidate : Candidate)
    (earlier rules : List Rule) (single : ∀ rule ∈ rules, rule.OneOfEachKind)
    (decided : ∀ rule ∈ rules, rule.Decides candidate) :
    (settledBy known candidate earlier).run known candidate rules =
      .ok (settledBy known candidate
        (earlier ++ rules.filter (Rule.fits candidate)),
        (turns earlier (rules.filter (Rule.fits candidate))).filterMap
        (credit? known)) := by
  induction rules generalizing earlier with
  | nil => simp [run, turns]
  | cons rule rest induction =>
      have singleRest : ∀ other ∈ rest, other.OneOfEachKind := by
        intro other member
        exact single other (List.mem_cons_of_mem rule member)
      have decidedRest : ∀ other ∈ rest, other.Decides candidate := by
        intro other member
        exact decided other (List.mem_cons_of_mem rule member)
      obtain ⟨answer, held⟩ := decided rule List.mem_cons_self
      have fits : rule.fits candidate = answer := by simp [Rule.fits, held]
      cases answer with
      | false =>
          simp [run, held, fits, bind, Except.bind,
            induction earlier singleRest decidedRest]
      | true =>
          have acted := actAll_actions known candidate earlier
            (single rule List.mem_cons_self)
          have further := induction (earlier ++ [rule]) singleRest decidedRest
          simp only [run, held, bind, Except.bind, if_true, acted, further,
            pure, Except.pure]
          rw [List.filter_cons_of_pos fits, turns, credit_eq_toList,
            List.append_assoc, List.singleton_append]
          cases credited : credit? known (earlier, rule) <;> simp [credited]

end Settling

namespace Resolution

/-- Folding selected rules into a candidate that they can decide gives what the
rules that match it settle. -/
theorem ofRules_eq_settlement {intent : Intent} {stored : List StoredRule}
    {selection : Selection}
    (selected : Selection.select intent stored = .ok selection)
    (known : KnownAccounts) {candidate : Candidate}
    (decided : ∀ rule ∈ selection.rules, rule.Decides candidate) :
    ofRules known selection.rules candidate =
      .ok (settlement known candidate
        (selection.rules.filter (Rule.fits candidate))) := by
  have single : ∀ rule ∈ selection.rules, rule.OneOfEachKind := by
    intro rule member
    exact Selection.oneOfEachKind_of_select selected member
  have settled := Settling.run_settledBy known candidate [] selection.rules
    single decided
  rw [Settling.settledBy_nil, List.nil_append] at settled
  simp only [ofRules, settled, bind, Except.bind, pure, Except.pure, settlement,
    Settling.settledBy, noteSeparator]
  cases texts : Settlement.notes candidate
    (selection.rules.filter (Rule.fits candidate)) <;>
    simp

end Resolution

namespace Settlement

/-- Rules that cross each other: a rule that does not match, a link to an
account that is not known, a shadowed category, and a link that comes too
late. -/
def crossingRules : List StoredRule := [
  { id := "late", name := "Late",
    conditions := .obj [("source", .arr [.str "manual"])]
    actions := .obj
      [("set_type", .str "income"), ("link_to_account", .str "gone"),
        ("add_note", .str " late ")] },
  { id := "first", name := "First", priority := 2
    actions := .obj
      [("link_to_account", .str "lost"), ("set_category", .str "food")] },
  { id := "second", name := "Second", priority := 1,
    transferTo := some "savings"
    actions := .obj
      [("set_category", .str "fuel"), ("auto_reconcile", .bool true)] },
  { id := "idle", name := "Idle", priority := 3
    conditions := .obj [("type", .str "income")]
    actions := .obj [("set_account", .str "savings")] }]

def crossingSelection : Selection where
  rules := [
    ⟨"idle", "Idle", 3, .general, .all, [.typeIs "income"],
      [.setAccount "savings"], none⟩,
    ⟨"first", "First", 2, .general, .all, [],
      [.setCategory "food", .linkTo "lost"], none⟩,
    ⟨"second", "Second", 1, .general, .all, [],
      [.setCategory "fuel", .linkTo "savings", .reconcile], none⟩,
    ⟨"late", "Late", 0, .general, .all, [.sourceIn ["manual"]],
      [.setType "income", .linkTo "gone", .addNote "late"], none⟩]
  issues := []

/-- A candidate that the crossing rules are tried on. -/
def crossedCandidate : Candidate where
  description := some "Lunch"
  amount := .ofInt 5
  accountId := some "wallet"
  notes := some "paid"

theorem ofRules_eq_settlement_crossing :
    Selection.select .general crossingRules = .ok crossingSelection ∧
      (∀ rule ∈ crossingSelection.rules, rule.Decides crossedCandidate) ∧
      Resolution.ofRules (some ["wallet", "savings"]) crossingSelection.rules
        crossedCandidate =
        .ok (settlement (some ["wallet", "savings"]) crossedCandidate
          (crossingSelection.rules.filter (Rule.fits crossedCandidate))) := by
  have selected : Selection.select .general crossingRules =
      .ok crossingSelection := by cbv
  have decided : ∀ rule ∈ crossingSelection.rules,
      rule.Decides crossedCandidate := by decide
  exact ⟨selected, decided, Resolution.ofRules_eq_settlement selected _ decided⟩

end Settlement

end LedgerRules
