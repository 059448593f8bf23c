import FloatLogic.Proofs.Evaluation.Failures
import FloatLogic.Proofs.Occurrence
import FloatLogic.Text

/-!
# The first failure

Evaluation reports the first failure among those of all nodes of a formula, from
left to right and from the leaves up, and it succeeds exactly if there is none.  So
the variable that a failure blames is the leftmost one without a value, and the
division that it shows is part of the formula.
-/

namespace FloatLogic

/-- A result blames the leftmost variable that is not bound: if it is a failure for such
a variable, then for the leftmost one, and if it is a value, then there is none. -/
structure BlamesLeftmost {α : Type} (environment : Environment) (leaves : List Variable)
    (result : Except Failure α) : Prop where
  blamed : ∀ v, result = .error (.unbound v) →
    leaves.find? (fun leaf => !environment.contains leaf) = some v
  bound : ∀ value, result = .ok value →
    leaves.find? (fun leaf => !environment.contains leaf) = none

namespace BlamesLeftmost

variable {α β γ : Type} {environment : Environment} {leaves others : List Variable}
  {first : Except Failure α} {second : Except Failure β}

theorem ok (value : α) : BlamesLeftmost environment [] (.ok value) := by
  constructor
  · intro v impossible
    cases impossible
  · intro _ _
    rfl

/-- A quantifier blames no variable, not even one of its body. -/
theorem quantifier : BlamesLeftmost environment leaves (.error .quantifier : Except Failure α) := by
  constructor
  · intro v impossible
    cases impossible
  · intro value impossible
    cases impossible

/-- What is made of a value blames no variable. -/
theorem bind (blames : BlamesLeftmost environment leaves first) {next : α → Except Failure γ}
    (blameless : ∀ value v, next value ≠ .error (.unbound v)) :
    BlamesLeftmost environment leaves (first >>= next) := by
  cases first with
  | error failure =>
    constructor
    · intro v same
      exact blames.blamed v (congrArg Except.error (Except.error.inj same))
    · intro value impossible
      cases impossible
  | ok value =>
    constructor
    · intro v blamed
      exact absurd blamed (blameless value v)
    · intro _ _
      exact blames.bound value rfl

/-- Of two evaluations in sequence the second blames a variable only if all variables of
the first are bound. -/
theorem bind_bind (blames : BlamesLeftmost environment leaves first)
    (blamesNext : BlamesLeftmost environment others second)
    {next : α → β → Except Failure γ}
    (blameless : ∀ value other v, next value other ≠ .error (.unbound v)) :
    BlamesLeftmost environment (leaves ++ others) (do
      let value ← first
      let other ← second
      next value other) := by
  cases first with
  | error failure =>
    constructor
    · intro v same
      rw [List.find?_append, blames.blamed v (congrArg Except.error (Except.error.inj same))]
      rfl
    · intro value impossible
      cases impossible
  | ok value =>
    have rest := blamesNext.bind (blameless value)
    constructor
    · intro v same
      rw [List.find?_append, blames.bound value rfl]
      exact rest.blamed v same
    · intro result same
      rw [List.find?_append, blames.bound value rfl]
      exact rest.bound result same

end BlamesLeftmost

variable {environment : Environment}

theorem Term.evaluateBinary_ne_unbound {operation : Arithmetic} {left right : Term}
    {leftValue rightValue : Double} {v : Variable} :
    evaluateBinary operation left right leftValue rightValue ≠ .error (.unbound v) := by
  rw [evaluateBinary]
  split <;> simp

theorem Term.blamesLeftmost (term : Term) :
    BlamesLeftmost environment term.leaves (term.evaluate environment) := by
  induction term with
  | constant value => exact .ok value
  | var v =>
    cases bound : environment.get? v with
    | some value =>
      constructor <;> simp [evaluate, Environment.lookup, leaves, Environment.contains, bound]
    | none =>
      constructor <;> simp [evaluate, Environment.lookup, leaves, Environment.contains, bound]
  | neg operand inductionHypothesis =>
    exact inductionHypothesis.bind fun _ _ impossible => by cases impossible
  | binary operation left right leftHypothesis rightHypothesis =>
    exact leftHypothesis.bind_bind rightHypothesis fun _ _ _ => evaluateBinary_ne_unbound

namespace Formula

theorem blamesLeftmost (formula : Formula) :
    BlamesLeftmost environment formula.leaves (formula.evaluate environment) := by
  unfold leaves
  induction formula with
  | truth value =>
    rw [collect_truth, evaluate_truth]
    exact .ok value
  | comparison relation left right =>
    rw [collect_comparison, evaluate_comparison]
    exact left.blamesLeftmost.bind_bind right.blamesLeftmost
      fun _ _ _ impossible => by cases impossible
  | junction connective left right leftHypothesis rightHypothesis =>
    rw [collect_junction, evaluate_junction]
    exact leftHypothesis.bind_bind rightHypothesis fun _ _ _ impossible => by cases impossible
  | negation operand inductionHypothesis =>
    rw [collect_negation, evaluate_negation]
    exact inductionHypothesis.bind fun _ _ impossible => by cases impossible
  | universal binders body =>
    rw [evaluate_universal]
    exact .quantifier

/-- A term that evaluation can reach is part of a term that the formula compares. -/
theorem mem_subterms_of_mem_visited {part : Term} {formula : Formula}
    (reached : .term part ∈ formula.visited) : part ∈ formula.subterms := by
  unfold subterms
  induction formula with
  | truth value => simp [visited] at reached
  | comparison relation left right =>
    simpa [visited, Term.mem_postorder_iff] using reached
  | junction connective left right leftHypothesis rightHypothesis =>
    simp only [visited, List.mem_append, List.mem_singleton, reduceCtorEq, or_false] at reached
    rw [collect_junction, List.mem_append]
    exact reached.imp leftHypothesis rightHypothesis
  | negation operand inductionHypothesis =>
    simp only [visited, List.mem_append, List.mem_singleton, reduceCtorEq, or_false] at reached
    exact inductionHypothesis reached
  | universal binders body => simp [visited] at reached

/-- A division by zero among the failures is the failure of a division in a term that the
formula compares. -/
theorem div_mem_subterms_of_mem_failures {formula : Formula} {numerator denominator : Term}
    (fails : .divisionByZero numerator denominator ∈ formula.failures environment) :
    numerator / denominator ∈ formula.subterms := by
  rcases List.mem_filterMap.mp fails with ⟨node, reached, own⟩
  cases node with
  | term part =>
    rw [← Term.eq_div_of_ownFailure own]
    exact mem_subterms_of_mem_visited reached
  | formula part => cases part <;> cases own

/-- A formula has a value exactly if no node of it fails, and otherwise its failure is
the first one among those of its nodes.  In particular a failure for want of a binding
names the leftmost variable without one, and a division by zero shows the text of a
division of the formula. -/
theorem evaluate_reports_first_failure (formula : Formula) (environment : Environment) :
    ((∃ value, formula.evaluate environment = .ok value) ↔
        formula.failures environment = []) ∧
      (∀ failure, formula.evaluate environment = .error failure ↔
        (formula.failures environment).head? = some failure) ∧
      (∀ names v, formula.evaluate environment = .error (.unbound v) →
        formula.leaves.find? (fun leaf => !environment.contains leaf) = some v ∧
          (Failure.unbound v).message names =
            "The variable `" ++ names v ++ "` is not bound in the environment. " ++
              "Every free variable must be assigned before evaluation.") ∧
      ∀ names numerator denominator,
        formula.evaluate environment = .error (.divisionByZero numerator denominator) →
        ∃ division ∈ formula.subterms, division = numerator / denominator ∧
          (Failure.divisionByZero numerator denominator).message names =
            "Division by zero while evaluating `" ++ division.text names ++ "`." := by
  have first := formula.head?_failures environment
  have reported (failure : Failure) : formula.evaluate environment = .error failure ↔
      (formula.failures environment).head? = some failure := by
    rw [first, failure?_eq_some_iff]
  refine ⟨?_, reported, ?_, ?_⟩
  · rw [← List.head?_eq_none_iff, first, failure?_eq_none_iff]
  · intro names v blamed
    exact ⟨formula.blamesLeftmost.blamed v blamed, rfl⟩
  · intro names numerator denominator divided
    have fails := List.mem_of_head? ((reported _).mp divided)
    exact ⟨_, div_mem_subterms_of_mem_failures fails, rfl, rfl⟩

/-- One over the first variable is less than the second, or a quantified truth value. -/
def reciprocalOrQuantifier : Formula :=
  junction .or (comparison .lt (.constant ⟨0x3ff0000000000000⟩ / .var ⟨0⟩) (.var ⟨1⟩))
    (universal .empty (truth true))

/-- A division by negative zero, a variable without a value and a quantifier fail side by
side, and the division is reported.  Where nothing is bound, the variable of the
denominator comes first. -/
theorem evaluate_reports_first_failure_reciprocal :
    reciprocalOrQuantifier.failures (.ofList [(⟨0⟩, ⟨0x8000000000000000⟩)]) =
        [.divisionByZero (.constant ⟨0x3ff0000000000000⟩) (.var ⟨0⟩), .unbound ⟨1⟩,
          .quantifier] ∧
      reciprocalOrQuantifier.evaluate (.ofList [(⟨0⟩, ⟨0x8000000000000000⟩)]) =
        .error (.divisionByZero (.constant ⟨0x3ff0000000000000⟩) (.var ⟨0⟩)) ∧
      reciprocalOrQuantifier.leaves.find? (fun leaf => !Environment.empty.contains leaf) =
        some ⟨0⟩ := by
  have listed : reciprocalOrQuantifier.failures (.ofList [(⟨0⟩, ⟨0x8000000000000000⟩)]) =
      [.divisionByZero (.constant ⟨0x3ff0000000000000⟩) (.var ⟨0⟩), .unbound ⟨1⟩,
        .quantifier] := by
    decide +kernel
  have unbound : reciprocalOrQuantifier.evaluate .empty = .error (.unbound ⟨0⟩) := rfl
  refine ⟨listed, ?_, ?_⟩
  · rw [(evaluate_reports_first_failure _ _).2.1, listed]
    rfl
  · exact ((evaluate_reports_first_failure _ _).2.2.1 (fun _ => "") _ unbound).1

end Formula

end FloatLogic
