import FloatLogic.Proofs.Evaluation.Results
import FloatLogic.Proofs.Subformula

/-!
# Failing nodes

Several nodes of a formula can fail at once: variables without a value, divisions
by zero and quantifiers.  This file lists all of them, whether or not evaluation
gets that far, and relates the list to evaluation, which stops at the first one
(`Formula.head?_failures`).

A node is listed behind its operands, and the body of a quantifier is not visited.
A node is listed only for a failure of its own, so a division whose operands
already fail is not listed for its denominator.
-/

namespace FloatLogic

/-! ## Failures of results -/

/-- The failure that a result is, if it is one. -/
def failure? {α : Type} : Except Failure α → Option Failure
  | .ok _ => none
  | .error failure => some failure

section

variable {α β γ : Type} {result : Except Failure α}

theorem failure?_eq_none_iff : failure? result = none ↔ ∃ value, result = .ok value := by
  cases result <;> simp [failure?]

theorem failure?_eq_some_iff {failure : Failure} :
    failure? result = some failure ↔ result = .error failure := by
  cases result <;> simp [failure?]

/-- Two evaluations in sequence fail with the failure of the first, or else of the
second, or else of what is made of the two values. -/
theorem failure?_bind_bind {first : Except Failure α} {second : Except Failure β}
    {next : α → β → Except Failure γ} {own : Option Failure}
    (last : ∀ firstValue secondValue, first = .ok firstValue → second = .ok secondValue →
      failure? (next firstValue secondValue) = own) :
    failure? (do
      let firstValue ← first
      let secondValue ← second
      next firstValue secondValue) = ((failure? first).or (failure? second)).or own := by
  cases first with
  | error failure => rfl
  | ok firstValue =>
    cases second with
    | error failure => rfl
    | ok secondValue => exact last firstValue secondValue rfl rfl

theorem failure?_bind_bind_ok (first : Except Failure α) (second : Except Failure β)
    (next : α → β → γ) :
    failure? (do
      let firstValue ← first
      let secondValue ← second
      .ok (next firstValue secondValue)) = (failure? first).or (failure? second) := by
  rw [← Option.or_none (o := (failure? first).or (failure? second))]
  apply failure?_bind_bind
  intro firstValue secondValue _ _
  rfl

end

/-! ## Nodes that fail -/

namespace Term

/-- The nodes of a term from left to right, each behind its operands. -/
def postorder : Term → List Term
  | constant value => [constant value]
  | var v => [var v]
  | neg operand => operand.postorder ++ [neg operand]
  | binary operation left right =>
    left.postorder ++ right.postorder ++ [binary operation left right]

/-- The failure of a node by itself: a variable fails if it is not bound, a division
fails if both operands have values and the denominator is zero. -/
def ownFailure (environment : Environment) : Term → Option Failure
  | var v => if environment.contains v then none else some (.unbound v)
  | binary .div numerator denominator =>
    match numerator.evaluate environment, denominator.evaluate environment with
    | .ok _, .ok value =>
      if value.isZero then some (.divisionByZero numerator denominator) else none
    | _, _ => none
  | _ => none

/-- The failures of all nodes of a term. -/
def failures (environment : Environment) (term : Term) : List Failure :=
  term.postorder.filterMap (ownFailure environment)

variable {environment : Environment}

theorem failures_neg {operand : Term} :
    (Term.neg operand).failures environment = operand.failures environment := by
  simp [failures, postorder, ownFailure]

theorem failures_binary {operation : Arithmetic} {left right : Term} :
    (Term.binary operation left right).failures environment =
      left.failures environment ++ right.failures environment ++
        (ownFailure environment (.binary operation left right)).toList := by
  rw [failures, postorder, List.filterMap_append, List.filterMap_append]
  rfl

/-- An arithmetic node over values fails by itself or not at all. -/
theorem failure?_evaluateBinary {operation : Arithmetic} {left right : Term}
    {leftValue rightValue : Double} (leftOk : left.evaluate environment = .ok leftValue)
    (rightOk : right.evaluate environment = .ok rightValue) :
    failure? (evaluateBinary operation left right leftValue rightValue) =
      ownFailure environment (.binary operation left right) := by
  cases operation with
  | div =>
    rw [evaluateBinary, ownFailure, leftOk, rightOk]
    cases zero : rightValue.isZero <;> simp [zero, failure?]
  | add => rfl
  | sub => rfl
  | mul => rfl

/-- The first failure of a term is the one that its evaluation reports. -/
theorem head?_failures (term : Term) (environment : Environment) :
    (term.failures environment).head? = failure? (term.evaluate environment) := by
  induction term with
  | constant value => rfl
  | var v =>
    cases bound : environment.get? v <;>
      simp [failures, postorder, ownFailure, Environment.contains, evaluate, Environment.lookup,
        failure?, bound]
  | neg operand inductionHypothesis =>
    rw [failures_neg, inductionHypothesis, evaluate]
    cases operand.evaluate environment <;> rfl
  | binary operation left right leftHypothesis rightHypothesis =>
    rw [failures_binary, List.head?_append, List.head?_append, leftHypothesis, rightHypothesis,
      Option.head?_toList, evaluate]
    exact (failure?_bind_bind fun _ _ => failure?_evaluateBinary).symm

theorem mem_postorder_iff {part : Term} (term : Term) :
    part ∈ term.postorder ↔ part ∈ term.subterms := by
  induction term with
  | constant value => simp [postorder]
  | var v => simp [postorder]
  | neg operand inductionHypothesis => simp [postorder, inductionHypothesis, or_comm]
  | binary operation left right leftHypothesis rightHypothesis =>
    simp [postorder, leftHypothesis, rightHypothesis, or_comm, or_left_comm]

/-- Only the division itself fails with a division by zero. -/
theorem eq_div_of_ownFailure {term numerator denominator : Term}
    (fails : ownFailure environment term = some (.divisionByZero numerator denominator)) :
    term = numerator / denominator := by
  unfold ownFailure at fails
  split at fails
  · split at fails <;> cases fails
  · split at fails
    · split at fails <;> cases fails
      rfl
    · cases fails
  · cases fails

end Term

/-! ## Visiting a formula -/

/-- A node of a formula or of a term that it compares. -/
inductive Node where
  | term (term : Term)
  | formula (formula : Formula)

/-- The failure of a node by itself: every quantifier fails. -/
def Node.ownFailure (environment : Environment) : Node → Option Failure
  | .term part => part.ownFailure environment
  | .formula (.universal _ _) => some .quantifier
  | .formula _ => none

namespace Formula

/-- The nodes that evaluation can reach, from left to right, each behind its operands.
The body of a quantifier is out of reach. -/
def visited : Formula → List Node
  | truth value => [.formula (truth value)]
  | comparison relation left right =>
    (left.postorder ++ right.postorder).map .term ++ [.formula (comparison relation left right)]
  | junction connective left right =>
    left.visited ++ right.visited ++ [.formula (junction connective left right)]
  | negation operand => operand.visited ++ [.formula (negation operand)]
  | universal binders body => [.formula (universal binders body)]

/-- The failures of all nodes that evaluation can reach. -/
def failures (environment : Environment) (formula : Formula) : List Failure :=
  formula.visited.filterMap (Node.ownFailure environment)

variable {environment : Environment}

theorem failures_comparison {relation : Comparison} {left right : Term} :
    (Formula.comparison relation left right).failures environment =
      left.failures environment ++ right.failures environment := by
  simp only [failures, visited, Term.failures, List.filterMap_append, List.filterMap_map]
  exact List.append_nil _

theorem failures_junction {connective : Connective} {left right : Formula} :
    (Formula.junction connective left right).failures environment =
      left.failures environment ++ right.failures environment := by
  simp only [failures, visited, List.filterMap_append]
  exact List.append_nil _

theorem failures_negation {operand : Formula} :
    (Formula.negation operand).failures environment = operand.failures environment := by
  simp only [failures, visited, List.filterMap_append]
  exact List.append_nil _

/-- The first failure of a formula is the one that its evaluation reports. -/
theorem head?_failures (formula : Formula) (environment : Environment) :
    (formula.failures environment).head? = failure? (formula.evaluate environment) := by
  induction formula with
  | truth value => rfl
  | comparison relation left right =>
    rw [failures_comparison, List.head?_append, left.head?_failures, right.head?_failures,
      evaluate_comparison]
    exact (failure?_bind_bind_ok _ _ _).symm
  | junction connective left right leftHypothesis rightHypothesis =>
    rw [failures_junction, List.head?_append, leftHypothesis, rightHypothesis, evaluate_junction]
    exact (failure?_bind_bind_ok _ _ _).symm
  | negation operand inductionHypothesis =>
    rw [failures_negation, inductionHypothesis, evaluate_negation]
    cases operand.evaluate environment <;> rfl
  | universal binders body => rfl

end Formula

end FloatLogic
