import FloatLogic.Evaluation

/-!
# Results of evaluation

The result of a formula without the record of what was refused on the way: one
equation for each constructor, in terms of the results of the operands.  The
operands are evaluated from left to right, and the first failure among them is
the result of the node.
-/

namespace FloatLogic

/-- Going on with a value concerns its result in the same way. -/
theorem Evaluation.value_onSuccess {α β : Type} (first : Evaluation α)
    (next : α → Evaluation β) :
    (first.onSuccess next).value = first.value >>= fun value => (next value).value := by
  unfold onSuccess
  cases first.value <;> rfl

namespace Formula

variable (environment : Environment)

theorem evaluate_truth (value : Bool) :
    (Formula.truth value).evaluate environment = .ok value := rfl

theorem evaluate_comparison (relation : Comparison) (left right : Term) :
    (Formula.comparison relation left right).evaluate environment = (do
      let leftValue ← left.evaluate environment
      let rightValue ← right.evaluate environment
      .ok (relation.holds leftValue rightValue)) := rfl

/-- Both operands of a junction are evaluated, also where the left one decides the
junction. -/
theorem evaluate_junction (connective : Connective) (left right : Formula) :
    (Formula.junction connective left right).evaluate environment = (do
      let leftValue ← left.evaluate environment
      let rightValue ← right.evaluate environment
      .ok (connective.apply leftValue rightValue)) := by
  rw [evaluate, evaluateLogged, Evaluation.value_onSuccess]
  simp only [Evaluation.value_onSuccess]
  rfl

theorem evaluate_negation (operand : Formula) :
    (Formula.negation operand).evaluate environment = (do
      let value ← operand.evaluate environment
      .ok !value) :=
  Evaluation.value_onSuccess _ _

theorem evaluate_universal (binders : VarSet) (body : Formula) :
    (Formula.universal binders body).evaluate environment = .error .quantifier := rfl

end Formula

end FloatLogic
