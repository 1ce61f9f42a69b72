import LedgerRules.Proofs.Resolution.Linking
import LedgerRules.Proofs.Resolution.Settlement
import LedgerRules.Proofs.Rule.Breaking
import LedgerRules.Proofs.Rule.Gathering

/-!
# When resolving answers

Resolving reports every active rule that is malformed and applies the other
ones.  Two kinds of rules keep it from answering at all: a rule whose pattern
overflows, and a rule that comes to a range of amounts with a bound that is no
number.
-/

namespace LedgerRules

namespace Rule

theorem decides_iff_not_breaks {rule : Rule} {candidate : Candidate}
    (finite : candidate.amount.isFinite = true)
    (quiet : ∀ condition ∈ rule.conditions, condition.Quiet) :
    rule.Decides candidate ↔ ¬ rule.Breaks candidate := by
  have failing : Condition.hold rule.logic rule.conditions candidate =
      .error {} ↔
      rule.Breaks candidate := Condition.hold_eq_error_iff finite quiet
  rw [← failing, Decides]
  cases Condition.hold rule.logic rule.conditions candidate with
  | ok answer => simp
  | error fault => simp

end Rule

namespace Resolution

theorem decides_of_run {known : KnownAccounts} {candidate : Candidate}
    {settling : Settling} {rules : List Rule}
    {result : Settling × List AppliedRule}
    (success : settling.run known candidate rules = .ok result) :
    ∀ rule ∈ rules, rule.Decides candidate := by
  induction rules generalizing settling result with
  | nil =>
      intro rule member
      cases member
  | cons rule rest induction =>
      obtain ⟨answer, answered, success⟩ := bind_eq_ok_iff.mp success
      have later : ∀ other ∈ rest, other.Decides candidate := by
        split at success
        case isTrue =>
          obtain ⟨_, ran, _⟩ := bind_eq_ok_iff.mp success
          exact induction ran
        case isFalse => exact induction success
      intro other member
      rcases List.mem_cons.mp member with rfl | inRest
      · exact ⟨answer, answered⟩
      · exact later other inRest

/-- Rules with at most one action of each kind are folded when they decide the
candidate, into what the rules that match it settle. -/
theorem ofRules_eq_ok_iff {known : KnownAccounts} {candidate : Candidate}
    {rules : List Rule} (single : ∀ rule ∈ rules, rule.OneOfEachKind)
    {resolution : Resolution} :
    ofRules known rules candidate = .ok resolution ↔
      (∀ rule ∈ rules, rule.Decides candidate) ∧
        settlement known candidate (rules.filter (Rule.fits candidate)) =
          resolution := by
  have answers : (∀ rule ∈ rules, rule.Decides candidate) →
      ofRules known rules candidate =
        .ok (settlement known candidate
          (rules.filter (Rule.fits candidate))) := by
    intro decided
    have settled := Settling.run_settledBy known candidate [] rules single
      decided
    rw [Settling.settledBy_nil, List.nil_append] at settled
    simp only [ofRules, settled, bind, Except.bind, pure, Except.pure,
      settlement, Settling.settledBy, noteSeparator]
    cases Settlement.notes candidate (rules.filter (Rule.fits candidate)) <;>
      simp
  constructor
  · intro success
    obtain ⟨_, ran, _⟩ := bind_eq_ok_iff.mp success
    have decided := decides_of_run ran
    rw [answers decided] at success
    exact ⟨decided, Except.ok.inj success⟩
  · rintro ⟨decided, rfl⟩
    exact answers decided

/-- The resolution with other issues in front of its own. -/
def reporting (resolution : Resolution) (issues : List Issue) : Resolution :=
  { resolution with issues := issues ++ resolution.issues }

/-- Resolving answers when the selected rules decide the candidate: with what
those that match settle, the issues of the selection in front, linked. -/
theorem resolve_eq_ok_iff_linked {known : KnownAccounts} {ids : IdSource}
    {rules : List StoredRule} {candidate : Candidate}
    {result : Resolution × IdSource} :
    resolve known ids rules candidate = .ok result ↔
      ∃ selection, Selection.select .general rules = .ok selection ∧
        (∀ rule ∈ selection.rules, rule.Decides candidate) ∧
        Linked known ids ((settlement known candidate
          (selection.rules.filter (Rule.fits candidate))).reporting
            selection.issues) result := by
  have single : ∀ {selection : Selection}, Selection.select .general rules =
      .ok selection →
      ∀ rule ∈ selection.rules, rule.OneOfEachKind := by
    intro selection selected rule member
    exact Selection.oneOfEachKind_of_select selected member
  rw [resolve_eq_ok_iff]
  constructor
  · rintro ⟨selection, folded, selected, success, rfl⟩
    obtain ⟨decided, rfl⟩ := (ofRules_eq_ok_iff (single selected)).mp success
    exact ⟨selection, selected, decided, linked_link known ids _⟩
  · rintro ⟨selection, selected, decided, linked⟩
    exact ⟨selection, _, selected, (ofRules_eq_ok_iff (single selected)).mpr
      ⟨decided, rfl⟩, link_eq_of_linked linked⟩

/-- What resolving answers when it does: what the rules that can be used and
match settle, with the issues of the malformed rules in front, linked. -/
def answer (known : KnownAccounts) (ids : IdSource) (rules : List StoredRule)
    (candidate : Candidate) : Resolution × IdSource :=
  let usable := (rules.filterMap StoredRule.usable?).mergeSort Rule.precedes
  let settled := settlement known candidate
    (usable.filter (Rule.fits candidate))
  { settled with issues := rules.filterMap StoredRule.issue? ++
    settled.issues }.link known ids

/-- A stored rule that keeps resolving from answering: its pattern overflows, or
it breaks on the candidate. -/
inductive Halts (candidate : Candidate) (stored : StoredRule) : Prop where
  | overflow (overflows : stored.Overflows)
  | breaking {rule : Rule} (compiled : stored.compile = .ok rule)
      (breaks : rule.Breaks candidate)

def candidateOfFive : Candidate where
  description := some "Lunch"
  amount := .ofInt 5

/-- A rule with a count that is beyond all bounds. -/
def countless : StoredRule where
  id := "countless"
  name := "Countless"
  conditions := .obj [("description_regex", .str "a\x7b4294967295\x7d")]

/-- A rule with a range of amounts whose least amount is no number. -/
def boundless : StoredRule where
  id := "boundless"
  name := "Boundless"
  conditions := .obj [("amount_between", .arr [.str "nan", .int 5])]

/-- A rule of a kind that there is not, a rule that would halt but is switched
off, and a rule that applies unless a range is come to that cannot be asked
for. -/
def answered : List StoredRule := [
  { id := "odd", name := "Odd", ruleType := "odd" },
  { countless with isActive := false },
  { id := "food", name := "Food", logic := "or"
    conditions := .obj [("description_contains", .arr [.str "lunch"]),
      ("amount_between", .arr [.str "nan", .int 5])]
    actions := .obj [("set_category", .str "food")] }]

end Resolution

end LedgerRules
