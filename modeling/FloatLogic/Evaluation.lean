import FloatLogic.Environment
import FloatLogic.Failure
import FloatLogic.Formula
import FloatLogic.Logged

/-!
# Evaluation

Terms evaluate to numbers and formulas to truth values under an environment.
Evaluation goes from left to right and visits both operands of every node, so
the first failure is the answer even where the other operand would decide the
value.  A quantifier is refused before its body is touched, and the refusal is
recorded.
-/

namespace FloatLogic

namespace Environment

/-- The number bound to a variable, or the failure that blames the variable. -/
def lookup (environment : Environment) (v : Variable) : Except Failure Double :=
  match environment.get? v with
  | some value => .ok value
  | none => .error (.unbound v)

end Environment

namespace Term

/-- The value of an arithmetic node.  Dividing by a zero of either sign is a
failure. -/
def evaluateBinary (operation : Arithmetic) (left right : Term) (leftValue rightValue : Double) :
    Except Failure Double :=
  if operation = .div ∧ rightValue.isZero then
    .error (.divisionByZero left right)
  else
    .ok (operation.apply leftValue rightValue)

/-- The value of a term. -/
def evaluate (environment : Environment) : Term → Except Failure Double
  | constant value => .ok value
  | var v => environment.lookup v
  | neg operand => do
    let value ← operand.evaluate environment
    .ok value.neg
  | binary operation left right => do
    let leftValue ← left.evaluate environment
    let rightValue ← right.evaluate environment
    evaluateBinary operation left right leftValue rightValue

end Term

/-- A quantifier that was refused, named by its binders. -/
structure Refusal where
  binders : VarSet
deriving DecidableEq

/-- An evaluation in progress: a result or a failure, with the refusals so far. -/
abbrev Evaluation (α : Type) := Logged Refusal (Except Failure α)

namespace Evaluation

variable {α β : Type}

/-- An evaluation that refuses nothing. -/
def ofResult (result : Except Failure α) : Evaluation α := .silent result

/-- Go on with the result; a failure ends the evaluation. -/
def onSuccess (first : Evaluation α) (next : α → Evaluation β) : Evaluation β :=
  match first.value with
  | .ok value =>
    let second := next value
    ⟨second.value, first.records ++ second.records⟩
  | .error failure => ⟨.error failure, first.records⟩

end Evaluation

namespace Formula

/-- Evaluate a formula and record the quantifier that was refused, if any. -/
def evaluateLogged (environment : Environment) : Formula → Evaluation Bool
  | truth value => .ofResult (.ok value)
  | comparison relation left right => .ofResult do
    let leftValue ← left.evaluate environment
    let rightValue ← right.evaluate environment
    .ok (relation.holds leftValue rightValue)
  | junction connective left right =>
    (left.evaluateLogged environment).onSuccess fun leftValue =>
    (right.evaluateLogged environment).onSuccess fun rightValue =>
    .ofResult (.ok (connective.apply leftValue rightValue))
  | negation operand =>
    (operand.evaluateLogged environment).onSuccess fun value => .ofResult (.ok !value)
  | universal binders _ => ⟨.error .quantifier, [⟨binders⟩]⟩

/-- The truth value of a formula under an environment. -/
def evaluate (formula : Formula) (environment : Environment) : Except Failure Bool :=
  (formula.evaluateLogged environment).value

end Formula

end FloatLogic
