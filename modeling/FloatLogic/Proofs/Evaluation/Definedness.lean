import FloatLogic.Environment.Lemmas
import FloatLogic.Proofs.Evaluation.Success
import FloatLogic.Proofs.Subformula

/-!
# When an evaluation succeeds

A term has a value exactly if its variables are bound and no division in it has
a zero denominator.  A formula has a value exactly if it contains no quantifier,
its free variables are bound, and no division in the terms that it compares has
a zero denominator.  Junctions evaluate both operands, so all three conditions
are about the whole formula and none depends on the value of an operand.
-/

namespace FloatLogic

variable {environment : Environment}

/-! ## Terms -/

namespace Term

/-- No division in the term has a denominator whose value is a zero of either
sign. -/
def DenominatorsNonzero (environment : Environment) (term : Term) : Prop :=
  ∀ numerator denominator, binary .div numerator denominator ∈ term.subterms →
    ∀ value, denominator.evaluate environment = .ok value → value.isZero = false

variable {operand left right : Term} {operation : Arithmetic}

@[simp]
theorem denominatorsNonzero_constant {value : Double} :
    (Term.constant value).DenominatorsNonzero environment := by
  simp [DenominatorsNonzero]

@[simp]
theorem denominatorsNonzero_var {v : Variable} :
    (Term.var v).DenominatorsNonzero environment := by
  simp [DenominatorsNonzero]

@[simp]
theorem denominatorsNonzero_neg_iff :
    (Term.neg operand).DenominatorsNonzero environment ↔
      operand.DenominatorsNonzero environment := by
  simp [DenominatorsNonzero]

theorem denominatorsNonzero_binary_iff :
    (Term.binary operation left right).DenominatorsNonzero environment ↔
      (operation = .div →
        ∀ value, right.evaluate environment = .ok value → value.isZero = false) ∧
      left.DenominatorsNonzero environment ∧ right.DenominatorsNonzero environment := by
  constructor
  · intro nonzero
    refine ⟨?_, ?_, ?_⟩
    · rintro rfl
      exact nonzero left right (by simp)
    · intro numerator denominator below
      exact nonzero numerator denominator (by simp [below])
    · intro numerator denominator below
      exact nonzero numerator denominator (by simp [below])
  · rintro ⟨root, leftNonzero, rightNonzero⟩ numerator denominator below
    rcases mem_subterms_binary.mp below with same | below | below
    · cases same
      exact root rfl
    · exact leftNonzero numerator denominator below
    · exact rightNonzero numerator denominator below

/-- A term has a value exactly if its variables are bound and its denominators
are not zero. -/
theorem exists_evaluate_eq_ok_iff (environment : Environment) (term : Term) :
    (∃ value, term.evaluate environment = .ok value) ↔
      (∀ v ∈ term.vars, environment.contains v = true) ∧
        term.DenominatorsNonzero environment := by
  induction term with
  | constant value => simp [evaluate, vars]
  | var v => simp [evaluate, vars, Environment.exists_lookup_eq_ok_iff]
  | neg operand inductionHypothesis =>
    rw [vars, denominatorsNonzero_neg_iff, ← inductionHypothesis]
    constructor
    · rintro ⟨_, evaluated⟩
      rcases evaluate_neg_eq_ok_iff.mp evaluated with ⟨value, operandOk, _⟩
      exact ⟨value, operandOk⟩
    · rintro ⟨value, operandOk⟩
      exact ⟨value.neg, evaluate_neg_eq_ok_iff.mpr ⟨value, operandOk, rfl⟩⟩
  | binary operation left right leftHypothesis rightHypothesis =>
    rw [denominatorsNonzero_binary_iff]
    constructor
    · rintro ⟨result, evaluated⟩
      obtain ⟨leftValue, rightValue, leftOk, rightOk, applied⟩ :=
        evaluate_binary_eq_ok_iff.mp evaluated
      rcases leftHypothesis.mp ⟨leftValue, leftOk⟩ with ⟨leftBound, leftNonzero⟩
      rcases rightHypothesis.mp ⟨rightValue, rightOk⟩ with ⟨rightBound, rightNonzero⟩
      refine ⟨?_, ?_, leftNonzero, rightNonzero⟩
      · intro v occurs
        rcases VarSet.mem_union.mp occurs with occurs | occurs
        · exact leftBound v occurs
        · exact rightBound v occurs
      · intro division value valueOk
        have same : rightValue = value := Except.ok.inj (rightOk.symm.trans valueOk)
        have proper := (evaluateBinary_eq_ok_iff.mp applied).1
        simpa [division, same] using proper
    · rintro ⟨bound, root, leftNonzero, rightNonzero⟩
      obtain ⟨leftValue, leftOk⟩ := leftHypothesis.mpr
        ⟨fun v occurs => bound v (VarSet.mem_union.mpr (.inl occurs)), leftNonzero⟩
      obtain ⟨rightValue, rightOk⟩ := rightHypothesis.mpr
        ⟨fun v occurs => bound v (VarSet.mem_union.mpr (.inr occurs)), rightNonzero⟩
      have proper : ¬ (operation = .div ∧ rightValue.isZero = true) := by
        rintro ⟨division, zero⟩
        rw [root division rightValue rightOk] at zero
        cases zero
      exact ⟨_, evaluate_binary_eq_ok_iff.mpr
        ⟨leftValue, rightValue, leftOk, rightOk, evaluateBinary_eq_ok_iff.mpr ⟨proper, rfl⟩⟩⟩

end Term

/-! ## Formulas -/

namespace Formula

/-- No division in the terms that a formula compares has a zero denominator. -/
def DenominatorsNonzero (environment : Environment) (formula : Formula) : Prop :=
  formula.ForallComparisons fun left right =>
    left.DenominatorsNonzero environment ∧ right.DenominatorsNonzero environment

/-- A formula has a value exactly if it is free of quantifiers, its free variables
are bound and its denominators are not zero. -/
theorem exists_value_iff (formula : Formula) :
    (∃ value, formula.evaluate environment = .ok value) ↔
      formula.QuantifierFree ∧
        (∀ v ∈ formula.freeVariables, environment.contains v = true) ∧
        formula.DenominatorsNonzero environment := by
  unfold DenominatorsNonzero
  induction formula with
  | truth value => simp [evaluate_truth_eq_ok_iff, freeVariables]
  | comparison relation left right =>
    have leftDefined := left.exists_evaluate_eq_ok_iff environment
    have rightDefined := right.exists_evaluate_eq_ok_iff environment
    simp only [evaluate_comparison_eq_ok_iff, freeVariables, VarSet.mem_union,
      quantifierFree_comparison, forallComparisons_comparison_iff, true_and, or_imp, forall_and]
    constructor
    · rintro ⟨_, leftValue, rightValue, leftOk, rightOk, _⟩
      rcases leftDefined.mp ⟨leftValue, leftOk⟩ with ⟨leftBound, leftNonzero⟩
      rcases rightDefined.mp ⟨rightValue, rightOk⟩ with ⟨rightBound, rightNonzero⟩
      exact ⟨⟨leftBound, rightBound⟩, leftNonzero, rightNonzero⟩
    · rintro ⟨⟨leftBound, rightBound⟩, leftNonzero, rightNonzero⟩
      rcases leftDefined.mpr ⟨leftBound, leftNonzero⟩ with ⟨leftValue, leftOk⟩
      rcases rightDefined.mpr ⟨rightBound, rightNonzero⟩ with ⟨rightValue, rightOk⟩
      exact ⟨_, leftValue, rightValue, leftOk, rightOk, rfl⟩
  | junction connective first second firstHypothesis secondHypothesis =>
    simp only [evaluate_junction_eq_ok_iff, freeVariables, VarSet.mem_union,
      quantifierFree_junction_iff, forallComparisons_junction_iff, or_imp, forall_and]
    constructor
    · rintro ⟨_, firstValue, secondValue, firstOk, secondOk, _⟩
      rcases firstHypothesis.mp ⟨firstValue, firstOk⟩ with ⟨firstFree, firstBound, firstNonzero⟩
      obtain ⟨secondFree, secondBound, secondNonzero⟩ :=
        secondHypothesis.mp ⟨secondValue, secondOk⟩
      exact ⟨⟨firstFree, secondFree⟩, ⟨firstBound, secondBound⟩, firstNonzero, secondNonzero⟩
    · rintro ⟨⟨firstFree, secondFree⟩, ⟨firstBound, secondBound⟩, firstNonzero, secondNonzero⟩
      rcases firstHypothesis.mpr ⟨firstFree, firstBound, firstNonzero⟩ with ⟨firstValue, firstOk⟩
      obtain ⟨secondValue, secondOk⟩ :=
        secondHypothesis.mpr ⟨secondFree, secondBound, secondNonzero⟩
      exact ⟨_, firstValue, secondValue, firstOk, secondOk, rfl⟩
  | negation operand inductionHypothesis =>
    rw [quantifierFree_negation_iff, forallComparisons_negation_iff, freeVariables,
      ← inductionHypothesis]
    constructor
    · rintro ⟨_, evaluated⟩
      rcases evaluate_negation_eq_ok_iff.mp evaluated with ⟨value, operandOk, _⟩
      exact ⟨value, operandOk⟩
    · rintro ⟨value, operandOk⟩
      exact ⟨!value, evaluate_negation_eq_ok_iff.mpr ⟨value, operandOk, rfl⟩⟩
  | universal binders body =>
    constructor
    · rintro ⟨_, evaluated⟩
      exact absurd evaluated evaluate_universal_ne_ok
    · rintro ⟨free, _⟩
      exact absurd free not_quantifierFree_universal

/-- Evaluation succeeds exactly when it can, and a quantifier or an unbound free
variable anywhere is a failure, whatever the rest of the formula is. -/
theorem evaluate_succeeds_iff (formula : Formula) (environment : Environment) :
    ((∃ value, formula.evaluate environment = .ok value) ↔
      formula.QuantifierFree ∧ environment.bindsAll formula.freeVariables = true ∧
        formula.DenominatorsNonzero environment) ∧
    (¬ formula.QuantifierFree ∨ environment.bindsAll formula.freeVariables = false →
      ∃ failure, formula.evaluate environment = .error failure) := by
  have defined : (∃ value, formula.evaluate environment = .ok value) ↔
      formula.QuantifierFree ∧ environment.bindsAll formula.freeVariables = true ∧
        formula.DenominatorsNonzero environment := by
    rw [exists_value_iff, Environment.bindsAll_eq_true_iff]
  constructor
  · exact defined
  · intro obstacle
    cases evaluated : formula.evaluate environment with
    | error failure => exact ⟨failure, rfl⟩
    | ok value =>
      rcases defined.mp ⟨value, evaluated⟩ with ⟨free, bound, _⟩
      rcases obstacle with quantified | unbound
      · exact absurd free quantified
      · rw [bound] at unbound
        cases unbound

end Formula

end FloatLogic
