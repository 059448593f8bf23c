import FloatLogic.Formula.Equality
import FloatLogic.Logged

/-!
# Folding construction

The operations of this module build formulas and fold constants away while they
do: a junction with a truth value becomes one of its operands or a truth value,
a negated truth value becomes the opposite one, and a comparison of a term with
itself becomes the truth value that it has for every number.  Each application
folds at most once and then emits one record of the rule with its operands.
Quantifiers are never folded, and neither are double negations.
-/

namespace FloatLogic

/-- What a folded junction becomes. -/
inductive JunctionFold where
  | truth (value : Bool)
  | left
  | right
deriving DecidableEq

/-- A rule that fired, with the operands that it fired on. -/
inductive Fold where
  | junction (connective : Connective) (left right : Formula) (outcome : JunctionFold)
  | negation (operand : Bool)
  | comparison (operand : Term) (value : Bool)
deriving DecidableEq

namespace Connective

/-- How a junction of the given operands folds, if it does: an absorbing operand
on either side decides it, a neutral one leaves the other operand. -/
def fold? (connective : Connective) (left right : Formula) : Option JunctionFold :=
  if left.truth? = some connective.absorbing ∨ right.truth? = some connective.absorbing then
    some (.truth connective.absorbing)
  else if left.truth?.isSome then some .right
  else if right.truth?.isSome then some .left
  else none

end Connective

namespace Formula

/-- The formula that a folded junction becomes. -/
def ofJunctionFold (left right : Formula) : JunctionFold → Formula
  | .truth value => .truth value
  | .left => left
  | .right => right

/-- Join two formulas and record the fold, if there is one. -/
def joinLogged (connective : Connective) (left right : Formula) : Logged Fold Formula :=
  match connective.fold? left right with
  | some outcome =>
    ⟨ofJunctionFold left right outcome, [.junction connective left right outcome]⟩
  | none => ⟨.junction connective left right, []⟩

/-- Negate a formula and record the fold, if there is one. -/
def negateLogged (operand : Formula) : Logged Fold Formula :=
  match operand.truth? with
  | some value => ⟨.truth !value, [.negation value]⟩
  | none => ⟨.negation operand, []⟩

/-- Compare two terms and record the fold, if there is one. -/
def compareLogged (relation : Comparison) (left right : Term) : Logged Fold Formula :=
  if left = right then
    ⟨.truth relation.reflexive, [.comparison left relation.reflexive]⟩
  else
    ⟨.comparison relation left right, []⟩

/-- The folded junction of two formulas. -/
def join (connective : Connective) (left right : Formula) : Formula :=
  (joinLogged connective left right).value

/-- The folded conjunction of two formulas. -/
def and (left right : Formula) : Formula := join .and left right

/-- The folded disjunction of two formulas. -/
def or (left right : Formula) : Formula := join .or left right

/-- The folded negation of a formula. -/
def negate (operand : Formula) : Formula := operand.negateLogged.value

/-- The folded comparison of two terms. -/
def compare (relation : Comparison) (left right : Term) : Formula :=
  (compareLogged relation left right).value

/-- The universal quantification of a formula, whatever its binders and body. -/
def quantify (binders : VarSet) (body : Formula) : Formula := .universal binders body

/-! ## Building a tree again -/

/-- Build a formula again from its comparisons and truth values, operands from
left to right and then the node. -/
def buildLogged : Formula → Logged Fold Formula
  | truth value => pure (.truth value)
  | comparison relation left right => compareLogged relation left right
  | junction connective left right => do
    let left ← left.buildLogged
    let right ← right.buildLogged
    joinLogged connective left right
  | negation operand => do
    let operand ← operand.buildLogged
    operand.negateLogged
  | universal binders body => do
    let body ← body.buildLogged
    pure (quantify binders body)

/-- The formula that building a tree again gives. -/
def build (tree : Formula) : Formula := tree.buildLogged.value

end Formula

end FloatLogic
