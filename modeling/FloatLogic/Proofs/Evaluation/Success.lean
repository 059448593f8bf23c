import Mathlib.Logic.Basic
import FloatLogic.Proofs.Evaluation.Results

/-!
# Successful evaluations

An evaluation that gives a value has evaluated every operand before it.  This
file reads a successful evaluation backwards, one lemma for each constructor of
terms and formulas; the condition on each operand is exact, so the lemmas also
serve to run an evaluation forwards.
-/

namespace FloatLogic

/-- A sequence of two evaluations succeeds exactly if both parts do. -/
theorem bind_eq_ok_iff {α β : Type} {first : Except Failure α} {next : α → Except Failure β}
    {result : β} :
    (first >>= next) = .ok result ↔ ∃ value, first = .ok value ∧ next value = .ok result := by
  cases first with
  | error failure =>
    constructor
    · intro impossible
      cases impossible
    · rintro ⟨value, impossible, _⟩
      cases impossible
  | ok value =>
    constructor
    · intro continued
      exact ⟨value, rfl, continued⟩
    · rintro ⟨other, same, continued⟩
      cases same
      exact continued

/-- Two evaluations in sequence succeed exactly if both do and so does what is made of
their values. -/
theorem bind_bind_eq_ok_iff {α β γ : Type} {first : Except Failure α}
    {second : Except Failure β} {next : α → β → Except Failure γ} {result : γ} :
    (do
      let value ← first
      let other ← second
      next value other) = .ok result ↔
      ∃ value other, first = .ok value ∧ second = .ok other ∧ next value other = .ok result := by
  simp only [bind_eq_ok_iff]
  constructor
  · rintro ⟨value, firstOk, other, secondOk, continued⟩
    exact ⟨value, other, firstOk, secondOk, continued⟩
  · rintro ⟨value, other, firstOk, secondOk, continued⟩
    exact ⟨value, firstOk, other, secondOk, continued⟩

namespace Environment

variable {environment : Environment} {v : Variable}

/-- A variable has a value exactly if it is bound. -/
theorem exists_lookup_eq_ok_iff :
    (∃ value, environment.lookup v = .ok value) ↔ environment.contains v = true := by
  rw [lookup, contains]
  cases environment.get? v <;> simp

end Environment

namespace Term

variable {environment : Environment} {operation : Arithmetic} {operand left right : Term}
  {leftValue rightValue result : Double}

theorem evaluate_neg_eq_ok_iff :
    (Term.neg operand).evaluate environment = .ok result ↔
      ∃ value, operand.evaluate environment = .ok value ∧ value.neg = result := by
  rw [evaluate, bind_eq_ok_iff]
  simp

/-- The only arithmetic node without a value is a division by zero. -/
theorem evaluateBinary_eq_ok_iff :
    evaluateBinary operation left right leftValue rightValue = .ok result ↔
      ¬ (operation = .div ∧ rightValue.isZero = true) ∧
        operation.apply leftValue rightValue = result := by
  rw [evaluateBinary]
  by_cases division : operation = .div ∧ rightValue.isZero = true
  · simp [division]
  · simp [division]

theorem evaluate_binary_eq_ok_iff :
    (Term.binary operation left right).evaluate environment = .ok result ↔
      ∃ leftValue rightValue, left.evaluate environment = .ok leftValue ∧
        right.evaluate environment = .ok rightValue ∧
        evaluateBinary operation left right leftValue rightValue = .ok result :=
  bind_bind_eq_ok_iff

end Term

namespace Formula

variable {environment : Environment} {relation : Comparison} {connective : Connective}
  {left right : Term} {first second operand body : Formula} {binders : VarSet} {result : Bool}

theorem evaluate_truth_eq_ok_iff {value : Bool} :
    (Formula.truth value).evaluate environment = .ok result ↔ value = result := by
  simp [evaluate_truth]

theorem evaluate_comparison_eq_ok_iff :
    (Formula.comparison relation left right).evaluate environment = .ok result ↔
      ∃ leftValue rightValue, left.evaluate environment = .ok leftValue ∧
        right.evaluate environment = .ok rightValue ∧
        relation.holds leftValue rightValue = result := by
  rw [evaluate_comparison, bind_bind_eq_ok_iff]
  simp only [Except.ok.injEq]

/-- Both operands of a junction are evaluated, also where one of them decides the
junction. -/
theorem evaluate_junction_eq_ok_iff :
    (Formula.junction connective first second).evaluate environment = .ok result ↔
      ∃ firstValue secondValue, first.evaluate environment = .ok firstValue ∧
        second.evaluate environment = .ok secondValue ∧
        connective.apply firstValue secondValue = result := by
  rw [evaluate_junction, bind_bind_eq_ok_iff]
  simp only [Except.ok.injEq]

theorem evaluate_negation_eq_ok_iff :
    (Formula.negation operand).evaluate environment = .ok result ↔
      ∃ value, operand.evaluate environment = .ok value ∧ (!value) = result := by
  rw [evaluate_negation, bind_eq_ok_iff]
  simp only [Except.ok.injEq]

/-- A quantifier has no value under any environment. -/
theorem evaluate_universal_ne_ok :
    (Formula.universal binders body).evaluate environment ≠ .ok result := by
  intro impossible
  cases impossible

end Formula

end FloatLogic
