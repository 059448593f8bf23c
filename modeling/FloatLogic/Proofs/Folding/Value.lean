import FloatLogic.Double.Comparison
import FloatLogic.Proofs.Evaluation.Success
import FloatLogic.Proofs.Folding.Operations
import FloatLogic.Proofs.Subformula
import Mathlib

/-!
# Folding and evaluation

Building a tree again folds some of its nodes away and keeps the others.  A
folded tree has a value wherever the tree itself has one: an absorbing operand
drops the other operand together with its failures, and no fold adds a failure.
Junctions and negations keep the value.  A comparison of a term with itself
keeps it unless the term has a NaN for its value, since a NaN is not even equal
to itself.
-/

namespace FloatLogic

/-- Two numbers that are one and compare as a number does with itself. -/
theorem Comparison.holds_self (relation : Comparison) {number : Double}
    (proper : number.isNaN = false) : relation.holds number number = relation.reflexive := by
  cases relation with
  | eq => exact Double.equal_self proper
  | ne => simp [holds, reflexive, Double.equal_self proper]
  | lt => exact Double.less_self number
  | le => exact Double.lessEqual_self proper
  | gt => exact Double.less_self number
  | ge => exact Double.lessEqual_self proper

namespace Formula

variable {environment : Environment}

/-- The value of a formula that is a truth value. -/
theorem value_of_truth?_eq_some {formula : Formula} {constant value : Bool}
    (isConstant : formula.truth? = some constant)
    (evaluated : formula.evaluate environment = .ok value) : constant = value := by
  rw [eq_truth_of_truth?_eq_some isConstant] at evaluated
  exact evaluate_truth_eq_ok_iff.mp evaluated

/-- Joining keeps the value of a junction, folded or not. -/
theorem evaluate_join {connective : Connective} {left right : Formula}
    {leftValue rightValue : Bool}
    (leftOk : left.evaluate environment = .ok leftValue)
    (rightOk : right.evaluate environment = .ok rightValue) :
    (join connective left right).evaluate environment =
      .ok (connective.apply leftValue rightValue) := by
  by_cases absorbed : Absorbs connective left right
  · rw [join_of_absorbs absorbed, evaluate_truth]
    rcases absorbed with leftAbsorbing | rightAbsorbing
    · rw [← value_of_truth?_eq_some leftAbsorbing leftOk, Connective.apply_absorbing_left]
    · rw [← value_of_truth?_eq_some rightAbsorbing rightOk, Connective.apply_absorbing_right]
  · rw [evaluate_join_of_not_absorbs absorbed, leftOk, rightOk]
    rfl

/-- Negating flips the value, folded or not. -/
theorem evaluate_negate {operand : Formula} {value : Bool}
    (operandOk : operand.evaluate environment = .ok value) :
    operand.negate.evaluate environment = .ok !value := by
  rw [evaluate_negate_eq_opposite, operandOk]
  rfl

/-- Comparing keeps the value, folded or not, unless a term with a NaN for its
value is compared with itself. -/
theorem exists_evaluate_compare (relation : Comparison) {left right : Term}
    {leftValue rightValue : Double}
    (leftOk : left.evaluate environment = .ok leftValue)
    (rightOk : right.evaluate environment = .ok rightValue) :
    ∃ value, (compare relation left right).evaluate environment = .ok value ∧
      ((left = right → leftValue.isNaN = false) →
        value = relation.holds leftValue rightValue) := by
  by_cases same : left = right
  · have sameValue : leftValue = rightValue := by
      rw [same, rightOk] at leftOk
      exact (Except.ok.inj leftOk).symm
    rw [same, compare_self]
    refine ⟨relation.reflexive, evaluate_truth _ _, fun proper => ?_⟩
    rw [← sameValue, relation.holds_self (proper rfl)]
  · rw [compare_of_ne relation same]
    exact ⟨relation.holds leftValue rightValue,
      evaluate_comparison_eq_ok_iff.mpr ⟨leftValue, rightValue, leftOk, rightOk, rfl⟩,
      fun _ => rfl⟩

/-! ## Building a tree again -/

theorem build_comparison (relation : Comparison) (left right : Term) :
    (Formula.comparison relation left right).build = compare relation left right := rfl

theorem build_junction (connective : Connective) (left right : Formula) :
    (Formula.junction connective left right).build = join connective left.build right.build := rfl

theorem build_negation (operand : Formula) :
    (Formula.negation operand).build = operand.build.negate := rfl

/-- No term that is compared with itself has a NaN for its value. -/
def SelfComparisonsProper (environment : Environment) (tree : Formula) : Prop :=
  tree.ForallComparisons fun left right =>
    left = right → ∀ value, left.evaluate environment = .ok value → value.isNaN = false

/-- Folding turns no value into a failure, and it keeps the value unless a term
with a NaN for its value is compared with itself. -/
theorem evaluate_build (tree : Formula) (environment : Environment) {value : Bool}
    (evaluated : tree.evaluate environment = .ok value) :
    ∃ folded, tree.build.evaluate environment = .ok folded ∧
      (tree.SelfComparisonsProper environment → folded = value) := by
  unfold SelfComparisonsProper
  induction tree generalizing value with
  | truth constant => exact ⟨value, evaluated, fun _ => rfl⟩
  | comparison relation left right =>
    obtain ⟨leftValue, rightValue, leftOk, rightOk, rfl⟩ :=
      evaluate_comparison_eq_ok_iff.mp evaluated
    rcases exists_evaluate_compare relation leftOk rightOk with ⟨folded, foldedOk, keeps⟩
    rw [build_comparison]
    refine ⟨folded, foldedOk, fun proper => keeps fun same => ?_⟩
    exact forallComparisons_comparison_iff.mp proper same leftValue leftOk
  | junction connective left right leftHypothesis rightHypothesis =>
    obtain ⟨leftValue, rightValue, leftOk, rightOk, rfl⟩ :=
      evaluate_junction_eq_ok_iff.mp evaluated
    rcases leftHypothesis leftOk with ⟨leftFolded, leftFoldedOk, leftKeeps⟩
    rcases rightHypothesis rightOk with ⟨rightFolded, rightFoldedOk, rightKeeps⟩
    rw [build_junction]
    refine ⟨_, evaluate_join leftFoldedOk rightFoldedOk, fun proper => ?_⟩
    rcases forallComparisons_junction_iff.mp proper with ⟨leftProper, rightProper⟩
    rw [leftKeeps leftProper, rightKeeps rightProper]
  | negation operand inductionHypothesis =>
    obtain ⟨operandValue, operandOk, rfl⟩ := evaluate_negation_eq_ok_iff.mp evaluated
    rcases inductionHypothesis operandOk with ⟨folded, foldedOk, keeps⟩
    rw [build_negation]
    refine ⟨_, evaluate_negate foldedOk, fun proper => ?_⟩
    rw [keeps (forallComparisons_negation_iff.mp proper)]
  | universal binders body => exact absurd evaluated evaluate_universal_ne_ok

/-- A conjunction whose left side folds away and whose right side loses a truth
value, where the variable has the value 1.5. -/
theorem evaluate_build_conjunction :
    (junction .and (comparison .le (.var ⟨0⟩) (.var ⟨0⟩))
        (negation (junction .or (truth false)
          (comparison .gt (.var ⟨0⟩) (.constant ⟨0x4000000000000000⟩))))).evaluate
      (.ofList [(⟨0⟩, ⟨0x3ff8000000000000⟩)]) = .ok true ∧
    ∃ folded,
      (junction .and (comparison .le (.var ⟨0⟩) (.var ⟨0⟩))
        (negation (junction .or (truth false)
          (comparison .gt (.var ⟨0⟩) (.constant ⟨0x4000000000000000⟩))))).build.evaluate
        (.ofList [(⟨0⟩, ⟨0x3ff8000000000000⟩)]) = .ok folded ∧
      folded = true := by
  have evaluated :
      (junction .and (comparison .le (.var ⟨0⟩) (.var ⟨0⟩))
        (negation (junction .or (truth false)
          (comparison .gt (.var ⟨0⟩) (.constant ⟨0x4000000000000000⟩))))).evaluate
      (.ofList [(⟨0⟩, ⟨0x3ff8000000000000⟩)]) = .ok true := by decide +kernel
  have bound : (Term.var ⟨0⟩).evaluate (.ofList [(⟨0⟩, ⟨0x3ff8000000000000⟩)]) =
      .ok ⟨0x3ff8000000000000⟩ := by decide +kernel
  rcases evaluate_build _ _ evaluated with ⟨folded, foldedOk, keeps⟩
  refine ⟨evaluated, folded, foldedOk, keeps ?_⟩
  simp only [SelfComparisonsProper, forallComparisons_junction_iff,
    forallComparisons_comparison_iff, forallComparisons_negation_iff, forallComparisons_truth,
    reduceCtorEq, false_imp_iff, true_imp_iff, and_true]
  intro value valueOk
  rw [bound] at valueOk
  cases valueOk
  decide +kernel

/-- A NaN that is compared with itself is where folding changes a value. -/
example :
    (comparison .eq (.var ⟨0⟩) (.var ⟨0⟩)).evaluate
      (.ofList [(⟨0⟩, ⟨0x7ff8000000000000⟩)]) = .ok false ∧
    (comparison .eq (.var ⟨0⟩) (.var ⟨0⟩)).build.evaluate
      (.ofList [(⟨0⟩, ⟨0x7ff8000000000000⟩)]) = .ok true := by
  decide +kernel

end Formula

end FloatLogic
