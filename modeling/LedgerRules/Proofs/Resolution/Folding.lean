import LedgerRules.Proofs.Payload.Accepted
import LedgerRules.Proofs.Resolution.Linking
import LedgerRules.Proofs.Rule.Asking
import LedgerRules.Proofs.Rule.Gathering

/-!
# What folding keeps

Actions of compiled rules set types that transactions have and add notes that
are not empty, and whatever every action keeps, folding rules keeps.  Folding
never looks at the date of a candidate.
-/

namespace LedgerRules

/-- An action that sets a type which transactions have, or adds a note that is
not empty, or does something else. -/
def Action.Sound : Action → Prop
  | .setType type => type ∈ transactionTypes
  | .addNote note => note ≠ ""
  | _ => True

namespace StoredRule

theorem sound_of_compile {stored : StoredRule} {rule : Rule}
    (success : stored.compile = .ok rule) {action : Action}
    (member : action ∈ rule.actions) :
    action.Sound := by
  obtain ⟨payload, accepted, actions⟩ := actions_of_compile success
  rw [actions] at member
  cases Payload.Actions.makes_of_mem_compile member with
  | setType given =>
      exact Payload.Actions.setType_mem accepted
        (nonEmpty?_eq_some_iff.mp given).1
  | addNote given => exact (nonEmpty?_eq_some_iff.mp given).2
  | setCategory | setAccount | linkTo | reconcile => trivial

end StoredRule

theorem Selection.sound_of_select {intent : Intent} {stored : List StoredRule}
    {selection : Selection} (success : select intent stored = .ok selection) :
    ∀ rule ∈ selection.rules, ∀ action ∈ rule.actions, action.Sound := by
  intro rule member action done
  obtain ⟨record, _, _, compiled⟩ := mem_of_select success member
  exact StoredRule.sound_of_compile compiled done

namespace Settling

section Keeps

variable {Keeps : Settling → Prop} {known : KnownAccounts}

theorem actAll_keeps {rule : Rule} {actions : List Action}
    (step : ∀ action ∈ actions, ∀ settling, Keeps settling →
      Keeps (settling.act known rule action).1)
    {settling : Settling} (start : Keeps settling) :
    Keeps (settling.actAll known rule actions).1 := by
  induction actions generalizing settling with
  | nil => exact start
  | cons action rest induction =>
      apply induction
      · intro other member
        exact step other (List.mem_cons_of_mem action member)
      · exact step action List.mem_cons_self settling start

private theorem run_keeps {candidate : Candidate} {rules : List Rule}
    (step : ∀ rule ∈ rules, ∀ action ∈ rule.actions, ∀ settling,
      Keeps settling → Keeps (settling.act known rule action).1)
    {settling final : Settling} {applied : List AppliedRule}
    (success : settling.run known candidate rules = .ok (final, applied))
    (start : Keeps settling) : Keeps final := by
  induction rules generalizing settling applied with
  | nil =>
      cases success
      exact start
  | cons rule rest induction =>
      have later : ∀ other ∈ rest, ∀ action ∈ other.actions, ∀ settling,
          Keeps settling →
          Keeps (settling.act known other action).1 := by
        intro other member
        exact step other (List.mem_cons_of_mem rule member)
      obtain ⟨holds, _, success⟩ := bind_eq_ok_iff.mp success
      cases holds with
      | false => exact induction later success start
      | true =>
          obtain ⟨⟨between, more⟩, ran, success⟩ := bind_eq_ok_iff.mp success
          cases success
          exact induction later ran
            (actAll_keeps (step rule List.mem_cons_self) start)

end Keeps

/-- A settled type that transactions have, and notes that are not empty. -/
structure Sound (settling : Settling) : Prop where
  type : settling.type ∈ transactionTypes
  notes : ∀ note ∈ settling.notes, note ≠ ""

theorem Sound.act {known : KnownAccounts} {rule : Rule} {action : Action}
    (soundAction : action.Sound) {settling : Settling}
    (sound : settling.Sound) :
    (settling.act known rule action).1.Sound := by
  cases action with
  | setType type =>
      simp only [Settling.act]
      split
      · exact sound
      · exact ⟨soundAction, sound.notes⟩
  | addNote note =>
      refine ⟨sound.type, ?_⟩
      intro other member
      rcases List.mem_append.mp member with old | new
      · exact sound.notes other old
      · rw [List.mem_singleton.mp new]
        exact soundAction
  | reconcile => exact ⟨sound.type, sound.notes⟩
  | setCategory categoryId =>
      simp only [Settling.act]
      split
      · exact sound
      · exact ⟨sound.type, sound.notes⟩
  | setAccount accountId =>
      simp only [Settling.act]
      split
      · exact sound
      · exact ⟨sound.type, sound.notes⟩
  | linkTo accountId =>
      simp only [Settling.act]
      split
      · exact sound
      · split
        · exact ⟨sound.type, sound.notes⟩
        · exact ⟨sound.type, sound.notes⟩

theorem sound_ofCandidate {candidate : Candidate}
    (type : candidate.type ∈ transactionTypes) :
    (ofCandidate candidate).Sound where
  type := type
  notes := by
    intro note member
    exact (nonEmpty?_eq_some_iff.mp (Option.mem_toList.mp member)).2

theorem run_credits {known : KnownAccounts} {candidate : Candidate}
    {rules : List Rule} {settling final : Settling} {applied : List AppliedRule}
    (success : settling.run known candidate rules = .ok (final, applied)) :
    ∀ entry ∈ applied, ∃ actions : List Action,
      entry.actions = actions.map fun action =>
        (action.key, action.credit) := by
  induction rules generalizing settling applied with
  | nil =>
      cases success
      exact nofun
  | cons rule rest induction =>
      obtain ⟨holds, _, success⟩ := bind_eq_ok_iff.mp success
      cases holds with
      | false => exact induction success
      | true =>
          obtain ⟨⟨between, more⟩, ran, success⟩ := bind_eq_ok_iff.mp success
          cases success
          intro entry member
          rcases List.mem_append.mp member with credited | later
          · unfold credit at credited
            split at credited
            · cases credited
            · rw [List.mem_singleton.mp credited]
              exact ⟨_, rfl⟩
          · exact induction ran entry later

end Settling

namespace Resolution

/-- A type that transactions have, notes that are not empty, and rules that are
credited with actions. -/
structure Sound (resolution : Resolution) : Prop where
  type : resolution.type ∈ transactionTypes
  notes : resolution.notes ≠ some ""
  applied : ∀ entry ∈ resolution.appliedRules, ∃ actions : List Action,
    entry.actions = actions.map fun action => (action.key, action.credit)

private theorem intercalate_ne_empty {separator first : String}
    (rest : List String) (notEmpty : first ≠ "") :
    String.intercalate separator (first :: rest) ≠ "" := by
  cases rest with
  | nil =>
      rw [String.intercalate_singleton]
      exact notEmpty
  | cons second rest =>
      rw [String.intercalate_cons_cons]
      simp [notEmpty]

private theorem sound_of_ofRules {known : KnownAccounts} {rules : List Rule}
    {candidate : Candidate} {resolution : Resolution}
    (success : ofRules known rules candidate = .ok resolution)
    (sound : ∀ rule ∈ rules, ∀ action ∈ rule.actions, action.Sound)
    (type : candidate.type ∈ transactionTypes) : resolution.Sound := by
  obtain ⟨⟨settling, applied⟩, ran, success⟩ := bind_eq_ok_iff.mp success
  cases success
  have settled : settling.Sound := by
    refine Settling.run_keeps ?_ ran (Settling.sound_ofCandidate type)
    intro rule member action done between soundBetween
    exact soundBetween.act (sound rule member action done)
  refine ⟨settled.type, ?_, Settling.run_credits ran⟩
  cases texts : settling.notes with
  | nil => simp
  | cons first rest =>
      have notEmpty : first ≠ "" := settled.notes first (by simp [texts])
      simp [intercalate_ne_empty rest notEmpty]

theorem credits_of_resolve {known : KnownAccounts} {ids after : IdSource}
    {rules : List StoredRule} {candidate : Candidate} {resolution : Resolution}
    (success : resolve known ids rules candidate = .ok (resolution, after)) :
    ∀ entry ∈ resolution.appliedRules, ∃ actions : List Action,
      entry.actions = actions.map fun action =>
        (action.key, action.credit) := by
  obtain ⟨selection, folded, _, folding, linked⟩ := linked_of_resolve success
  obtain ⟨_, ran, made⟩ := bind_eq_ok_iff.mp folding
  cases made
  rw [linked.keeps.2.2]
  exact Settling.run_credits ran

/-- Resolving a candidate of a type that transactions have gives a sound
resolution. -/
theorem sound_of_resolve {known : KnownAccounts} {ids after : IdSource}
    {rules : List StoredRule} {candidate : Candidate} {resolution : Resolution}
    (success : resolve known ids rules candidate = .ok (resolution, after))
    (type : candidate.type ∈ transactionTypes) : resolution.Sound := by
  obtain ⟨selection, folded, selected, ofRules, linked⟩ :=
    linked_of_resolve success
  obtain ⟨settled, notes, applied⟩ :=
    sound_of_ofRules ofRules (Selection.sound_of_select selected) type
  cases linked with
  | noDestination absent => exact ⟨settled, notes, applied⟩
  | already destined linked => exact ⟨settled, notes, applied⟩
  | unknown destined unlinked refused => exact ⟨settled, notes, applied⟩
  | own destined unlinked allowed same => exact ⟨settled, notes, applied⟩
  | paired destined unlinked allowed apart =>
      have transfer : transferType ∈ transactionTypes := by decide
      exact ⟨transfer, notes, applied⟩

end Resolution

section Dates

variable (candidate : Candidate) (date : Option Date)

namespace Condition

theorem holds_onDate (condition : Condition) :
    condition.holds { candidate with transactionDate := date } =
      condition.holds candidate := by
  cases condition <;> rfl

theorem hold_onDate (logic : Logic) (conditions : List Condition) :
    hold logic conditions { candidate with transactionDate := date } =
      hold logic conditions candidate :=
  hold_congr (List.forall₂_same.mpr fun condition _ =>
    holds_onDate candidate date condition) logic

end Condition

theorem Settling.run_onDate (known : KnownAccounts) (settling : Settling)
    (rules : List Rule) :
    settling.run known { candidate with transactionDate := date } rules =
      settling.run known candidate rules := by
  induction rules generalizing settling with
  | nil => rfl
  | cons rule rest induction =>
      simp only [run, Condition.hold_onDate, induction]

theorem Resolution.ofRules_onDate {known : KnownAccounts} {rules : List Rule}
    {candidate : Candidate} {resolution : Resolution}
    (success : ofRules known rules candidate = .ok resolution)
    (date : Option Date) :
    ofRules known rules { candidate with transactionDate := date } =
      .ok { resolution with transactionDate := date } := by
  obtain ⟨⟨settling, applied⟩, ran, success⟩ := bind_eq_ok_iff.mp success
  cases success
  apply bind_eq_ok_iff.mpr
  refine ⟨(settling, applied), ?_, rfl⟩
  rw [Settling.run_onDate]
  exact ran

end Dates

end LedgerRules
