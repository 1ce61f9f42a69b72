import LedgerRules.Proofs.Number.Instants
import LedgerRules.Proofs.Rule.Ordering

/-!
# Rules in the order of exact instants

A sort key holds the time of creation as seconds, rounded to a double.  Up to `2
^ 33` seconds before or after the start of 1970 doubles lie closer than
microseconds, so rounding keeps different instants apart: the keys order the
rules as their exact instants would, whatever the offsets of the times, and only
rules that agree in all parts have one key.
-/

namespace LedgerRules

/-- The code points of a text. -/
def codePoints (text : String) : List Nat :=
  text.toList.map Char.toNat

theorem compareLex_toNat_of_lt {left right : List Char} (less : left < right) :
    List.compareLex compare (left.map Char.toNat) (right.map Char.toNat) =
      .lt := by
  induction less with
  | nil => rfl
  | cons _ induction =>
      rw [List.map_cons, List.map_cons, List.compareLex_cons_cons, induction,
        compare_eq_iff_eq.mpr rfl, Ordering.eq_then]
  | @rel character _ other _ less =>
      have lessCode : character.toNat < other.toNat := less
      rw [List.map_cons, List.map_cons, List.compareLex_cons_cons,
        compare_lt_iff_lt.mpr lessCode, Ordering.lt_then]

theorem compare_eq_compareLex (left right : String) :
    compare left right = List.compareLex compare (codePoints left)
      (codePoints right) := by
  rcases lt_trichotomy left right with less | rfl | more
  · rw [compare_lt_iff_lt.mpr less]
    exact (compareLex_toNat_of_lt (String.lt_iff_toList_lt.mp less)).symm
  · rw [compare_eq_iff_eq.mpr rfl]
    exact Std.ReflCmp.compare_self.symm
  · rw [compare_gt_iff_gt.mpr more]
    apply Eq.symm
    apply Std.OrientedCmp.gt_of_lt
    exact compareLex_toNat_of_lt (String.lt_iff_toList_lt.mp more)

namespace Rule

/-- The instant of the creation of a rule, in microseconds since the start of
1970. -/
def instant? (rule : Rule) : Option Int :=
  rule.createdAt.map Timestamp.instant

/-- A rule was created at no time or at one around which doubles lie closer than
microseconds. -/
def IsFine (rule : Rule) : Prop :=
  ∀ time ∈ rule.createdAt, |time.exactSeconds| ≤ Timestamp.fineSeconds

/-- The order of rules in which nothing is rounded: greater priorities come
first, then rules without a time of creation, then earlier instants, then
smaller identifiers. -/
def exactOrder (left right : Rule) : Ordering :=
  (compare right.priority left.priority).then
    ((compare left.instant? right.instant?).then
      (List.compareLex compare (codePoints left.id) (codePoints right.id)))

/-- Two rules that agree in all that rules are ordered by. -/
structure OnPar (left right : Rule) : Prop where
  priority : left.priority = right.priority
  dated : left.createdAt.isSome = right.createdAt.isSome
  instant? : left.instant? = right.instant?
  id : left.id = right.id

variable {left right : Rule}

theorem compare_times_sortKey (fine : left.IsFine) (otherFine : right.IsFine) :
    (compare left.sortKey.dated right.sortKey.dated).then
        ((left.sortKey.seconds.compare? right.sortKey.seconds).getD .eq) =
      compare left.instant? right.instant? := by
  unfold instant?
  cases created : left.createdAt with
  | none =>
      cases createdLater : right.createdAt with
      | none =>
          rw [sortKey_of_undated created, sortKey_of_undated createdLater]
          rfl
      | some later =>
          rw [sortKey_of_undated created, sortKey_of_dated createdLater]
          rfl
  | some time =>
      cases createdLater : right.createdAt with
      | none =>
          rw [sortKey_of_dated created, sortKey_of_undated createdLater]
          rfl
      | some later =>
          rw [sortKey_of_dated created, sortKey_of_dated createdLater,
            Timestamp.compare?_seconds (fine time created)
              (otherFine later createdLater)]
          rfl

private theorem order_eq_exactOrder (fine : left.IsFine)
    (otherFine : right.IsFine) :
    left.order right = left.exactOrder right := by
  calc left.order right
      = (compare left.sortKey.descendingPriority
        right.sortKey.descendingPriority).then
          (((compare left.sortKey.dated right.sortKey.dated).then
              ((left.sortKey.seconds.compare? right.sortKey.seconds).getD
                .eq)).then
            (compare left.sortKey.ruleId right.sortKey.ruleId)) := by
        rw [order, SortKey.order, Ordering.then_assoc]
    _ = left.exactOrder right := by
        rw [compare_times_sortKey fine otherFine, descendingPriority_sortKey,
          descendingPriority_sortKey, compare_neg, ruleId_sortKey,
          ruleId_sortKey,
          compare_eq_compareLex, exactOrder]

theorem exactOrder_eq_iff_onPar : left.exactOrder right = .eq ↔
    left.OnPar right := by
  rw [exactOrder, Ordering.then_eq_eq, Ordering.then_eq_eq,
    ← compare_eq_compareLex, compare_eq_iff_eq, compare_eq_iff_eq,
    Std.LawfulEqOrd.compare_eq_iff_eq]
  constructor
  · intro ⟨samePriority, sameInstant, sameId⟩
    have sameDated := congrArg Option.isSome sameInstant
    rw [instant?, instant?, Option.isSome_map, Option.isSome_map] at sameDated
    exact ⟨samePriority.symm, sameDated, sameInstant, sameId⟩
  · intro par
    exact ⟨par.priority.symm, par.instant?, par.id⟩

theorem OnPar.sortKey_eq (par : left.OnPar right) :
    left.sortKey = right.sortKey := by
  have sameInstant := par.instant?
  unfold Rule.instant? at sameInstant
  cases created : left.createdAt with
  | none =>
      rw [created, Option.map_none, eq_comm, Option.map_eq_none_iff]
        at sameInstant
      rw [sortKey_of_undated created, sortKey_of_undated sameInstant,
        par.priority, par.id]
  | some time =>
      rw [created, Option.map_some, eq_comm, Option.map_eq_some_iff]
        at sameInstant
      obtain ⟨later, createdLater, same⟩ := sameInstant
      rw [sortKey_of_dated created, sortKey_of_dated createdLater, par.priority,
        par.id, Timestamp.seconds_congr same]

/-- While doubles lie closer than microseconds, the sort keys of two rules are
ordered as the rules are by priority, exact instant and identifier, and they are
one key only when the rules agree in all of these. -/
theorem order_sortKey_exact (fine : left.IsFine) (otherFine : right.IsFine) :
    left.sortKey.order right.sortKey = left.exactOrder right ∧
      (left.sortKey.order right.sortKey = .eq ↔ left.OnPar right) ∧
      (left.sortKey = right.sortKey ↔ left.OnPar right) := by
  have exact : left.sortKey.order right.sortKey = left.exactOrder right :=
    order_eq_exactOrder fine otherFine
  have par : left.sortKey.order right.sortKey = .eq ↔ left.OnPar right := by
    rw [exact, exactOrder_eq_iff_onPar]
  refine ⟨exact, par, ?_, OnPar.sortKey_eq⟩
  intro same
  apply par.mp
  rw [same]
  exact (Std.ReflCmp.compare_self : right.order right = .eq)

/-- A general rule of priority ten without conditions and actions. -/
def createdAs (id : String) (createdAt : Timestamp) : Rule where
  id := id
  name := id
  priority := 10
  kind := .general
  logic := .all
  conditions := []
  actions := []
  createdAt := createdAt

/-- The last time around which doubles lie closer than microseconds, two hours
ahead of universal time. -/
def lastFine : Timestamp := ⟨8589934592000000 + 7200000000, some 7200000000⟩

/-- The microsecond before that, without an offset. -/
def nextToLastFine : Timestamp := ⟨8589934592000000 - 1, none⟩

/-- One microsecond decides at the end of the fine times, before the identifiers
do. -/
theorem order_sortKey_exact_lastFine :
    (createdAs "z" nextToLastFine).IsFine ∧ (createdAs "a" lastFine).IsFine ∧
      (createdAs "z" nextToLastFine).sortKey.order
        (createdAs "a" lastFine).sortKey = .lt ∧
      (createdAs "z" nextToLastFine).sortKey ≠
        (createdAs "a" lastFine).sortKey := by
  have fine : (createdAs "z" nextToLastFine).IsFine := by
    intro time created
    cases created
    norm_num [nextToLastFine, Timestamp.exactSeconds, Timestamp.instant,
      Timestamp.perSecond, Timestamp.fineSeconds, abs_le]
  have otherFine : (createdAs "a" lastFine).IsFine := by
    intro time created
    cases created
    norm_num [lastFine, Timestamp.exactSeconds, Timestamp.instant,
      Timestamp.perSecond, Timestamp.fineSeconds, abs_le]
  obtain ⟨exact, par, keys⟩ := order_sortKey_exact fine otherFine
  have before : (createdAs "z" nextToLastFine).exactOrder
      (createdAs "a" lastFine) = .lt := rfl
  rw [before] at exact
  refine ⟨fine, otherFine, exact, ?_⟩
  intro same
  cases exact.symm.trans (par.mpr (keys.mp same))

end Rule

end LedgerRules
