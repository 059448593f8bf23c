import FloatLogic.Decimal.Positional
import FloatLogic.Environment
import FloatLogic.Failure
import FloatLogic.Formula

/-!
# Texts

The text of every value on one line, under a naming of the variables.  Terms and
formulas are fully parenthesised; sets and environments stand in braces.
-/

namespace FloatLogic

/-- Texts with a comma and a space between two neighbours. -/
def commaSeparated : List String → String
  | [] => ""
  | [only] => only
  | first :: second :: rest => first ++ ", " ++ commaSeparated (second :: rest)

/-- A set: the names of its members in braces. -/
def VarSet.text (names : Naming) (set : VarSet) : String :=
  "\x7b" ++ commaSeparated (set.toList.map names) ++ "\x7d"

/-- An environment: its bindings as arrows in braces. -/
def Environment.text (names : Naming) (environment : Environment) : String :=
  "\x7b" ++
    commaSeparated (environment.toList.map fun binding =>
      names binding.1 ++ " -> " ++ binding.2.text) ++
    "\x7d"

/-- A term: arithmetic in parentheses, a negation as a sign before them. -/
def Term.text (names : Naming) : Term → String
  | constant value => value.text
  | var v => names v
  | neg operand => "-(" ++ operand.text names ++ ")"
  | binary operation left right =>
    "(" ++ left.text names ++ " " ++ operation.symbol ++ " " ++ right.text names ++ ")"

/-- The text of a truth value. -/
def truthText : Bool → String
  | true => "True"
  | false => "False"

namespace Formula

/-- A formula: every node but a truth value stands in parentheses. -/
def text (names : Naming) : Formula → String
  | truth value => truthText value
  | comparison relation left right =>
    "(" ++ left.text names ++ " " ++ relation.symbol ++ " " ++ right.text names ++ ")"
  | junction connective left right =>
    "(" ++ left.text names ++ " " ++ connective.word ++ " " ++ right.text names ++ ")"
  | negation operand => "!(" ++ operand.text names ++ ")"
  | universal binders body =>
    "forall(" ++ binders.text names ++ ". " ++ body.text names ++ ")"

/-- A formula with the name of its kind, for inspection. -/
def description (names : Naming) (formula : Formula) : String :=
  "Formula(" ++ formula.kind.name ++ ", " ++ formula.text names ++ ")"

end Formula

namespace Failure

/-- The message of a failure. -/
def message (names : Naming) : Failure → String
  | quantifier => "`Formula::evaluate on forall` is not implemented yet."
  | unbound v =>
    "The variable `" ++ names v ++ "` is not bound in the environment. " ++
      "Every free variable must be assigned before evaluation."
  | divisionByZero numerator denominator =>
    "Division by zero while evaluating `" ++ (numerator / denominator).text names ++ "`."

end Failure

end FloatLogic
