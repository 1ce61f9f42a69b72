import Mathlib
import LedgerRules.Payload.Scalar

/-!
# Outcomes taken apart

A computation that may fail succeeds when each of its steps does, and a check of
several parts accepts when it accepts each of them.
-/

namespace LedgerRules

section Except

variable {Fault OtherFault Value Result : Type}

theorem bind_eq_ok_iff {first : Except Fault Value}
    {next : Value → Except Fault Result} {result : Result} :
    (first >>= next) = .ok result ↔ ∃ value, first = .ok value ∧
    next value = .ok result := by
  cases first with
  | error fault => simp [bind, Except.bind]
  | ok value => simp [bind, Except.bind]

theorem bind_eq_error_iff {first : Except Fault Value}
    {next : Value → Except Fault Result} {fault : Fault} :
    (first >>= next) = .error fault ↔
      first = .error fault ∨ ∃ value, first = .ok value ∧
      next value = .error fault := by
  cases first with
  | error other => simp [bind, Except.bind]
  | ok value => simp [bind, Except.bind]

theorem mapError_eq_ok_iff {rename : Fault → OtherFault}
    {outcome : Except Fault Value} {value : Value} :
    outcome.mapError rename = .ok value ↔ outcome = .ok value := by
  cases outcome <;> simp [Except.mapError]

theorem mapM_eq_ok {compute : Value → Except Fault Result}
    {result : Value → Result} {values : List Value}
    (each : ∀ value ∈ values, compute value = .ok (result value)) :
    values.mapM compute = .ok (values.map result) := by
  induction values with
  | nil => rfl
  | cons value rest induction =>
      obtain ⟨first, others⟩ := List.forall_mem_cons.mp each
      rw [List.mapM_cons, first, induction others]
      rfl

/-- The fault of a computation that failed. -/
def fault? : Except Fault Value → Option Fault
  | .ok _ => none
  | .error fault => some fault

theorem eq_error_of_fault? {outcome : Except Fault Value} {fault : Fault}
    (failed : fault? outcome = some fault) : outcome = .error fault := by
  cases outcome with
  | ok value => cases failed
  | error other =>
      cases failed
      rfl

theorem eq_ok_of_fault? {outcome : Except Fault Value}
    (answered : fault? outcome = none) :
    ∃ value, outcome = .ok value := by
  cases outcome with
  | ok value => exact ⟨value, rfl⟩
  | error fault => cases answered

/-- What was seen of an outcome was seen of a computation that succeeded. -/
theorem exists_ok_of_seen {outcome : Except Fault Value} {view : Value → Result}
    {result : Result} (seen : outcome.toOption.map view = some result) :
    ∃ value, outcome = .ok value ∧ view value = result := by
  cases outcome with
  | ok value => exact ⟨value, rfl, Option.some.inj seen⟩
  | error fault => cases seen

end Except

/-- When two lists are related element by element, each element on the right has
a partner. -/
theorem exists_mem_of_forall₂ {Left Right : Type}
    {related : Left → Right → Prop} {lefts : List Left} {rights : List Right}
    (pairs : List.Forall₂ related lefts rights) :
    ∀ right ∈ rights, ∃ left ∈ lefts, related left right := by
  induction pairs with
  | nil => exact List.forall_mem_nil _
  | @cons left right lefts rights pair _ induction =>
      refine List.forall_mem_cons.mpr ⟨⟨left, List.mem_cons_self, pair⟩, ?_⟩
      intro other member
      obtain ⟨partner, memberPartner, pairOther⟩ := induction other member
      exact ⟨partner, List.mem_cons_of_mem left memberPartner, pairOther⟩

/-- When each element has a partner, there is a list of partners. -/
theorem exists_forall₂ {Left Right : Type} {related : Left → Right → Prop}
    {lefts : List Left}
    (partnered : ∀ left ∈ lefts, ∃ right, related left right) :
    ∃ rights, List.Forall₂ related lefts rights := by
  induction lefts with
  | nil => exact ⟨[], .nil⟩
  | cons left rest induction =>
      obtain ⟨right, pair⟩ := partnered left List.mem_cons_self
      obtain ⟨rights, pairs⟩ := induction fun other member =>
        partnered other (List.mem_cons_of_mem left member)
      exact ⟨right :: rights, .cons pair pairs⟩

/-- Among elements with keys of their own, an element is found by its key. -/
theorem find?_key_eq_some_iff {Element Key : Type} [DecidableEq Key]
    {key : Element → Key} {elements : List Element}
    (distinct : (elements.map key).Nodup) {wanted : Key} {element : Element} :
    elements.find? (fun other => key other = wanted) = some element ↔
      element ∈ elements ∧ key element = wanted := by
  constructor
  · intro found
    exact ⟨List.mem_of_find?_eq_some
      found, by simpa using List.find?_some found⟩
  · rintro ⟨member, same⟩
    cases found : elements.find? (fun other => key other = wanted) with
    | none =>
        exact absurd same
          (by simpa using List.find?_eq_none.mp found element member)
    | some other =>
        have otherKey : key other = wanted := by
          simpa using List.find?_some found
        exact congrArg some
          (List.inj_on_of_nodup_map distinct (List.mem_of_find?_eq_some found)
          member (otherKey.trans same.symm))

namespace Payload

namespace Checked

variable {Value Result : Type}

theorem seq_eq_accepted_iff {function : Checked (Value → Result)}
    {argument : Checked Value} {result : Result} :
    (function <*> argument) = .accepted result ↔
      ∃ accepted value, function = .accepted accepted ∧
        argument = .accepted value ∧
        accepted value = result := by
  change apply function argument = _ ↔ _
  cases function <;> cases argument <;> simp [apply]

theorem map_eq_accepted_iff {function : Value → Result}
    {argument : Checked Value} {result : Result} :
    (function <$> argument) = .accepted result ↔
      ∃ value, argument = .accepted value ∧ function value = result := by
  change apply (.accepted function) argument = _ ↔ _
  cases argument <;> simp [apply]

theorem alsoReporting_eq_accepted_iff {more : List Problem}
    {outcome : Checked Value} {value : Value} :
    outcome.alsoReporting more = .accepted value ↔
      outcome = .accepted value ∧ more = [] := by
  cases outcome with
  | accepted found => cases more <;> simp [alsoReporting]
  | rejected problems => simp [alsoReporting]
  | overflowed => simp [alsoReporting]

theorem eq_accepted_of_alsoReporting {more : List Problem}
    {outcome : Checked Value} {value : Value}
    (accepted : outcome.alsoReporting more = .accepted value) :
    outcome = .accepted value :=
  (alsoReporting_eq_accepted_iff.mp accepted).1

theorem under_eq_accepted_iff {step : Step} {outcome : Checked Value}
    {value : Value} :
    outcome.under step = .accepted value ↔ outcome = .accepted value := by
  cases outcome <;> simp [under]

theorem seq_eq_overflowed_iff {function : Checked (Value → Result)}
    {argument : Checked Value} :
    (function <*> argument) = .overflowed ↔
      function = .overflowed ∨ argument = .overflowed := by
  change apply function argument = _ ↔ _
  cases function <;> cases argument <;> simp [apply]

theorem map_eq_overflowed_iff {function : Value → Result}
    {argument : Checked Value} :
    (function <$> argument) = .overflowed ↔ argument = .overflowed := by
  change apply (.accepted function) argument = _ ↔ _
  cases argument <;> simp [apply]

theorem under_eq_overflowed_iff {step : Step} {outcome : Checked Value} :
    outcome.under step = .overflowed ↔ outcome = .overflowed := by
  cases outcome <;> simp [under]

theorem alsoReporting_eq_overflowed_iff {more : List Problem}
    {outcome : Checked Value} :
    outcome.alsoReporting more = .overflowed ↔ outcome = .overflowed := by
  cases outcome with
  | accepted value => cases more <;> simp [alsoReporting]
  | rejected problems => simp [alsoReporting]
  | overflowed => simp [alsoReporting]

end Checked

end Payload

end LedgerRules
