import FloatLogic.Environment.Lemmas
import FloatLogic.Evaluation
import FloatLogic.Proofs.Double.Agreement

/-!
# The sign of zero

Environments that are equal as environments bind the same variables to numbers that
are equal as values, so they may differ in the signs of zeros.  No formula tells them
apart: its value and its failure are the same under both, since a division by zero of
either sign is refused before the sign could show in a quotient.  The values of a term
under both agree.
-/

namespace FloatLogic

/-! ## Results that agree -/

/-- Two results are the same failure, or values that are related. -/
inductive ResultsAgree {α β : Type} (agree : α → β → Prop) :
    Except Failure α → Except Failure β → Prop
  | ok {value : α} {other : β} (values : agree value other) :
      ResultsAgree agree (.ok value) (.ok other)
  | error (failure : Failure) : ResultsAgree agree (.error failure) (.error failure)

namespace ResultsAgree

variable {α β γ δ : Type} {agree : α → β → Prop} {agreeNext : γ → δ → Prop}
  {first : Except Failure α} {second : Except Failure β}

/-- Related values are continued alike. -/
theorem bind (results : ResultsAgree agree first second) {next : α → Except Failure γ}
    {otherNext : β → Except Failure δ}
    (continued : ∀ value other, agree value other →
      ResultsAgree agreeNext (next value) (otherNext other)) :
    ResultsAgree agreeNext (first >>= next) (second >>= otherNext) := by
  cases results with
  | ok values => exact continued _ _ values
  | error failure => exact .error failure

theorem eq {first second : Except Failure α} (results : ResultsAgree Eq first second) :
    first = second := by
  cases results with
  | ok values => exact congrArg Except.ok values
  | error failure => rfl

end ResultsAgree

/-! ## Environments that agree -/

namespace Environment

/-- Two environments bind the same variables, and to numbers that agree. -/
def Agrees (first second : Environment) : Prop :=
  ∀ v, Option.Rel Double.Agrees (first.get? v) (second.get? v)

theorem agrees_of_sameValues {left right : List (Variable × Double)}
    (same : sameValues left right = true) (v : Variable) :
    Option.Rel Double.Agrees (valueIn v left) (valueIn v right) := by
  induction left generalizing right with
  | nil =>
    cases right with
    | nil => exact .none
    | cons => cases same
  | cons binding rest inductionHypothesis =>
    cases right with
    | nil => cases same
    | cons otherBinding otherRest =>
      obtain ⟨bound, value⟩ := binding
      obtain ⟨otherBound, other⟩ := otherBinding
      simp only [sameValues, Bool.and_eq_true, decide_eq_true_eq] at same
      obtain ⟨⟨rfl, equal⟩, restSame⟩ := same
      rw [valueIn, valueIn]
      by_cases here : bound = v
      · rw [if_pos here, if_pos here]
        exact .some (.inl equal)
      · rw [if_neg here, if_neg here]
        exact inductionHypothesis restSame

/-- Equal environments agree. -/
theorem agrees_of_equal {first second : Environment} (equal : first.equal second = true) :
    first.Agrees second :=
  agrees_of_sameValues equal

theorem Agrees.lookup {first second : Environment} (agree : first.Agrees second)
    (v : Variable) : ResultsAgree Double.Agrees (first.lookup v) (second.lookup v) := by
  have values := agree v
  rw [Environment.lookup, Environment.lookup]
  generalize first.get? v = value at values ⊢
  generalize second.get? v = other at values ⊢
  cases values with
  | none => exact .error _
  | some valuesAgree => exact .ok valuesAgree

end Environment

/-! ## Evaluation -/

variable {first second : Environment}

/-- Division by zero is refused for zeros of both signs, and every other operation takes
numbers that agree to numbers that agree. -/
theorem Term.evaluateBinary_agrees (operation : Arithmetic) (left right : Term)
    {leftValue leftOther rightValue rightOther : Double}
    (leftAgree : leftValue.Agrees leftOther) (rightAgree : rightValue.Agrees rightOther) :
    ResultsAgree Double.Agrees (evaluateBinary operation left right leftValue rightValue)
      (evaluateBinary operation left right leftOther rightOther) := by
  rw [evaluateBinary, evaluateBinary, ← rightAgree.isZero_eq]
  by_cases division : operation = .div ∧ rightValue.isZero = true
  · rw [if_pos division, if_pos division]
    exact .error _
  · rw [if_neg division, if_neg division]
    exact .ok (Arithmetic.apply_agrees leftAgree rightAgree division)

/-- Under environments that agree a term has the same failure or values that agree. -/
theorem Term.evaluate_agrees (agree : first.Agrees second) (term : Term) :
    ResultsAgree Double.Agrees (term.evaluate first) (term.evaluate second) := by
  induction term with
  | constant value => exact .ok (.refl value)
  | var v => exact agree.lookup v
  | neg operand inductionHypothesis =>
    exact inductionHypothesis.bind fun _ _ values => .ok values.neg
  | binary operation left right leftHypothesis rightHypothesis =>
    exact leftHypothesis.bind fun _ _ leftAgree => rightHypothesis.bind fun _ _ rightAgree =>
      evaluateBinary_agrees operation left right leftAgree rightAgree

/-- Environments that agree evaluate a formula alike. -/
theorem Formula.evaluateLogged_eq_of_agrees (agree : first.Agrees second) (formula : Formula) :
    formula.evaluateLogged first = formula.evaluateLogged second := by
  induction formula with
  | truth value => rfl
  | comparison relation left right =>
    rw [evaluateLogged, evaluateLogged]
    refine congrArg Evaluation.ofResult (ResultsAgree.eq ?_)
    exact (left.evaluate_agrees agree).bind fun _ _ leftAgree =>
      (right.evaluate_agrees agree).bind fun _ _ rightAgree =>
        .ok (relation.holds_eq_of_agrees leftAgree rightAgree)
  | junction connective left right leftHypothesis rightHypothesis =>
    simp only [evaluateLogged, leftHypothesis, rightHypothesis]
  | negation operand inductionHypothesis => simp only [evaluateLogged, inductionHypothesis]
  | universal binders body => rfl

/-- Equal environments evaluate every formula to the same result, and every term to the
same failure or to values that agree. -/
theorem Environment.evaluation_ignores_zero_signs (first second : Environment)
    (equal : first.equal second = true) :
    (∀ formula : Formula, formula.evaluate first = formula.evaluate second) ∧
      ∀ term : Term,
        (∃ failure, term.evaluate first = .error failure ∧
          term.evaluate second = .error failure) ∨
        ∃ value other, term.evaluate first = .ok value ∧ term.evaluate second = .ok other ∧
          value.Agrees other := by
  have agree := agrees_of_equal equal
  constructor
  · intro formula
    exact congrArg Logged.value (formula.evaluateLogged_eq_of_agrees agree)
  · intro term
    have results := term.evaluate_agrees agree
    generalize term.evaluate first = firstResult at results ⊢
    generalize term.evaluate second = secondResult at results ⊢
    cases results with
    | ok values => exact .inr ⟨_, _, rfl, rfl, values⟩
    | error failure => exact .inl ⟨failure, rfl, rfl⟩

/-- Two environments with zeros of opposite signs.  A division by the zero fails alike,
and a product with it shows its sign and still agrees. -/
theorem Environment.evaluation_ignores_zero_signs_opposite :
    Environment.equal (.ofList [(⟨0⟩, ⟨0⟩)]) (.ofList [(⟨0⟩, ⟨0x8000000000000000⟩)]) = true ∧
      (Formula.comparison .gt (.constant ⟨0x3ff0000000000000⟩ / .var ⟨0⟩) (.var ⟨0⟩)).evaluate
          (.ofList [(⟨0⟩, ⟨0⟩)]) =
        (Formula.comparison .gt (.constant ⟨0x3ff0000000000000⟩ / .var ⟨0⟩) (.var ⟨0⟩)).evaluate
          (.ofList [(⟨0⟩, ⟨0x8000000000000000⟩)]) ∧
      (Term.var ⟨0⟩ * .constant ⟨0x3ff0000000000000⟩).evaluate
        (.ofList [(⟨0⟩, ⟨0⟩)]) = .ok ⟨0⟩ ∧
      (Term.var ⟨0⟩ * .constant ⟨0x3ff0000000000000⟩).evaluate
        (.ofList [(⟨0⟩, ⟨0x8000000000000000⟩)]) = .ok ⟨0x8000000000000000⟩ ∧
      Double.Agrees ⟨0⟩ ⟨0x8000000000000000⟩ := by
  have equal : Environment.equal (.ofList [(⟨0⟩, ⟨0⟩)])
      (.ofList [(⟨0⟩, ⟨0x8000000000000000⟩)]) = true := by
    decide +kernel
  have positive : (Term.var ⟨0⟩ * .constant ⟨0x3ff0000000000000⟩).evaluate
      (.ofList [(⟨0⟩, ⟨0⟩)]) = .ok ⟨0⟩ := by
    decide +kernel
  have negative : (Term.var ⟨0⟩ * .constant ⟨0x3ff0000000000000⟩).evaluate
      (.ofList [(⟨0⟩, ⟨0x8000000000000000⟩)]) = .ok ⟨0x8000000000000000⟩ := by
    decide +kernel
  rcases evaluation_ignores_zero_signs _ _ equal with ⟨formulas, terms⟩
  refine ⟨equal, formulas _, positive, negative, ?_⟩
  have results := terms (.var ⟨0⟩ * .constant ⟨0x3ff0000000000000⟩)
  rw [positive, negative] at results
  rcases results with ⟨failure, failed, _⟩ | ⟨value, other, sameValue, sameOther, agree⟩
  · cases failed
  · cases sameValue
    cases sameOther
    exact agree

end FloatLogic
