import LedgerRules.Proofs.Number.Order
import LedgerRules.Rule.Order

/-!
# Rules in order

Sort keys are compared part by part, and each part is compared as a linear
order: the times of creation never are values that are no number.  So every list
of rules has an order, and as keys end with the identifier, rules of distinct
identifiers have only one.
-/

namespace LedgerRules

/-- The number of a double; a value that is no number is taken for zero. -/
def Double.rank (double : Double) : Extended :=
  double.number?.getD (.rational 0)

theorem Double.number?_eq_some_rank {double : Double} (number : double ≠ .nan) :
    double.number? = some double.rank := by
  cases double with
  | nan => exact (number rfl).elim
  | infinite negative => rfl
  | finite negative significand exponent => rfl

namespace Rule

theorem sortKey_of_undated {rule : Rule} (undated : rule.createdAt = none) :
    rule.sortKey = ⟨-rule.priority, false, .ofInt 0, rule.id⟩ := by
  rw [sortKey, undated]

theorem sortKey_of_dated {rule : Rule} {time : Timestamp}
    (created : rule.createdAt = some time) :
    rule.sortKey = ⟨-rule.priority, true, time.seconds, rule.id⟩ := by
  rw [sortKey, created]

theorem descendingPriority_sortKey (rule : Rule) :
    rule.sortKey.descendingPriority = -rule.priority := by
  unfold sortKey
  split <;> rfl

theorem seconds_sortKey_ne_nan (rule : Rule) : rule.sortKey.seconds ≠ .nan := by
  unfold sortKey
  split
  · exact Double.ofQuotient_ne_nan _ _ _
  · exact Double.ofQuotient_ne_nan (decide ((0 : Int) < 0)) (0 : Int).natAbs 1

theorem ruleId_sortKey (rule : Rule) : rule.sortKey.ruleId = rule.id := by
  unfold sortKey
  split <;> rfl

/-- The order of rules by their sort keys. -/
def order (left right : Rule) : Ordering :=
  left.sortKey.order right.sortKey

theorem order_eq_compareLex :
    order =
      compareLex (compareOn fun rule => rule.sortKey.descendingPriority)
        (compareLex (compareOn fun rule => rule.sortKey.dated)
          (compareLex (compareOn fun rule => rule.sortKey.seconds.rank)
            (compareOn fun rule => rule.sortKey.ruleId))) := by
  funext left right
  have seconds := Double.compare?_of_number
    (Double.number?_eq_some_rank left.seconds_sortKey_ne_nan)
    (Double.number?_eq_some_rank right.seconds_sortKey_ne_nan)
  simp only [order, SortKey.order, seconds, Option.getD_some, compareLex,
    compareOn]

instance : Std.TransCmp order := by
  rw [order_eq_compareLex]
  infer_instance

theorem precedes_iff_isLE (left right : Rule) :
    left.precedes right = true ↔ (left.order right).isLE = true := by
  unfold precedes order
  cases left.sortKey.order right.sortKey <;> decide

theorem precedes_trans (first second third : Rule)
    (left : first.precedes second = true)
    (right : second.precedes third = true) : first.precedes third = true := by
  rw [precedes_iff_isLE] at *
  exact Std.TransCmp.isLE_trans left right

theorem precedes_total (left right : Rule) :
    (left.precedes right || right.precedes left) = true := by
  have swapped : right.order left = (left.order right).swap :=
    Std.OrientedCmp.eq_swap
  rw [Bool.or_eq_true, precedes_iff_isLE, precedes_iff_isLE, swapped]
  cases left.order right <;> decide

theorem id_eq_of_order_eq {left right : Rule} (same : left.order right = .eq) :
    left.id = right.id := by
  rw [order_eq_compareLex] at same
  simp only [compareLex, compareOn, Ordering.then_eq_eq] at same
  rw [← left.ruleId_sortKey, ← right.ruleId_sortKey]
  exact Std.LawfulEqOrd.eq_of_compare same.2.2.2

theorem id_eq_of_precedes {left right : Rule}
    (before : left.precedes right = true) (after : right.precedes left = true) :
    left.id = right.id := by
  rw [precedes_iff_isLE] at before after
  exact id_eq_of_order_eq (Std.OrientedCmp.isLE_antisymm before after)

/-- Sorted rules of distinct identifiers stand strictly in order. -/
theorem pairwise_order_mergeSort {rules : List Rule}
    (distinct : (rules.map Rule.id).Nodup) :
    (rules.mergeSort precedes).Pairwise fun left right => left.order right =
      .lt := by
  have sorted := List.pairwise_mergeSort precedes_trans precedes_total rules
  have apart : (rules.mergeSort precedes).Pairwise fun left right => left.id ≠
      right.id := by
    rw [← List.pairwise_map]
    exact ((List.mergeSort_perm rules precedes).map Rule.id).nodup_iff.mpr
      distinct
  refine (sorted.and apart).imp ?_
  rintro left right ⟨before, different⟩
  rw [precedes_iff_isLE] at before
  cases compared : left.order right with
  | lt => rfl
  | eq => exact (different (id_eq_of_order_eq compared)).elim
  | gt =>
      rw [compared] at before
      cases before

/-- Rules of distinct identifiers are sorted alike, in whatever order they
come. -/
theorem mergeSort_eq_of_perm {rules other : List Rule}
    (distinct : (rules.map Rule.id).Nodup) (permutation : other.Perm rules) :
    other.mergeSort precedes = rules.mergeSort precedes := by
  have sameRules : (other.mergeSort precedes).Perm (rules.mergeSort precedes) :=
    (List.mergeSort_perm other precedes).trans
      (permutation.trans (List.mergeSort_perm rules precedes).symm)
  refine sameRules.eq_of_pairwise ?_
    (List.pairwise_mergeSort precedes_trans precedes_total other)
    (List.pairwise_mergeSort precedes_trans precedes_total rules)
  intro left right memberLeft memberRight before after
  have leftInRules := permutation.mem_iff.mp (List.mem_mergeSort.mp memberLeft)
  exact List.inj_on_of_nodup_map distinct leftInRules
    (List.mem_mergeSort.mp memberRight)
    (id_eq_of_precedes before after)

/-- Sorting puts a rule behind the sorted rules that it does not precede, and in
front of those that it precedes. -/
theorem exists_mergeSort_cons (rule : Rule) (rest : List Rule) :
    ∃ front back, rest.mergeSort precedes = front ++ back ∧
      (rule :: rest).mergeSort precedes = front ++ rule :: back ∧
      front = (rest.mergeSort precedes).filter
        (fun other => !rule.precedes other) ∧
      back = (rest.mergeSort precedes).filter rule.precedes := by
  obtain ⟨front, back, whole, sorted, notPreceded⟩ :=
    List.mergeSort_cons precedes_trans precedes_total rule rest
  have inOrder := List.pairwise_mergeSort precedes_trans precedes_total
    (rule :: rest)
  rw [whole] at inOrder
  have preceded : ∀ other ∈ back, rule.precedes other = true :=
    (List.pairwise_cons.mp (List.pairwise_append.mp inOrder).2.1).1
  refine ⟨front, back, sorted, whole, ?_, ?_⟩
  · rw [sorted, List.filter_append, List.filter_eq_self.mpr notPreceded,
      List.filter_eq_nil_iff.mpr, List.append_nil]
    intro other member
    simp [preceded other member]
  · rw [sorted, List.filter_append, List.filter_eq_self.mpr preceded,
      List.filter_eq_nil_iff.mpr, List.nil_append]
    intro other member
    simpa using notPreceded other member

/-- Sorted, a rule stands first among others if it may stand before each of
them; otherwise one of those stands first that it may not stand before. -/
theorem head?_mergeSort_cons (rule : Rule) (rest : List Rule) :
    (∀ other ∈ rest, rule.precedes other = true) ∧
        ((rule :: rest).mergeSort precedes).head? = some rule ∨
      ∃ other ∈ rest, rule.precedes other = false ∧
        ((rule :: rest).mergeSort precedes).head? = some other := by
  obtain ⟨front, back, _, whole, frontEq, _⟩ := exists_mergeSort_cons rule rest
  rw [whole]
  cases front with
  | nil =>
      refine .inl ⟨fun other member => ?_, rfl⟩
      have notLeft := List.filter_eq_nil_iff.mp frontEq.symm other
        (List.mem_mergeSort.mpr member)
      simpa using notLeft
  | cons other front =>
      have member : other ∈ (rest.mergeSort precedes).filter fun other =>
          !rule.precedes other :=
        frontEq ▸ List.mem_cons_self
      obtain ⟨given, notPreceded⟩ := List.mem_filter.mp member
      exact .inr ⟨other,
        List.mem_mergeSort.mp given, by simpa using notPreceded, rfl⟩

/-- Sorting is stable, so rules may be left out before it or after it. -/
theorem mergeSort_filter (kept : Rule → Bool) (rules : List Rule) :
    (rules.filter kept).mergeSort precedes = (rules.mergeSort precedes).filter
      kept := by
  induction rules with
  | nil => simp
  | cons rule rest induction =>
      obtain ⟨front, back, sorted, whole, frontEq, backEq⟩ :=
        exists_mergeSort_cons rule rest
      rw [whole, List.filter_append]
      cases keeps : kept rule with
      | false =>
          have leftOut : ¬ kept rule = true := by simp [keeps]
          rw [List.filter_cons_of_neg leftOut, List.filter_cons_of_neg leftOut,
            induction, sorted, List.filter_append]
      | true =>
          -- What a rule precedes does not depend on which other rules there
          -- are.
          obtain ⟨keptFront, keptBack, _, keptWhole, keptFrontEq, keptBackEq⟩ :=
            exists_mergeSort_cons rule (rest.filter kept)
          rw [List.filter_cons_of_pos keeps, List.filter_cons_of_pos keeps,
            keptWhole, keptFrontEq, keptBackEq, induction, frontEq, backEq,
            List.filter_comm,
            List.filter_comm kept rule.precedes]

end Rule

end LedgerRules
