import FloatLogic.Evaluation
import FloatLogic.Formula.Folding
import FloatLogic.Text

/-!
# The log

The records of folding and of evaluation as lines of a log.  Folds are traced;
a refused quantifier is a debug message.
-/

namespace FloatLogic

/-- The importance of a log line. -/
inductive LogLevel where
  | trace
  | debug
deriving DecidableEq

/-- The name of a level. -/
def LogLevel.name : LogLevel → String
  | trace => "TRACE"
  | debug => "DEBUG"

/-- A line of the log. -/
structure LogLine where
  level : LogLevel
  message : String
deriving DecidableEq

/-- What a fold record says that a junction became. -/
def JunctionFold.text : JunctionFold → String
  | truth value => truthText value
  | left => "its left operand"
  | right => "its right operand"

namespace Fold

/-- The message of a fold. -/
def message (names : Naming) : Fold → String
  | junction connective left right outcome =>
    connective.word ++ "(" ++ left.text names ++ ", " ++ right.text names ++ ") folded to " ++
      outcome.text
  | negation operand => "not(" ++ truthText operand ++ ") folded to " ++ truthText !operand
  | comparison operand value =>
    "relation over structurally equal operands " ++ operand.text names ++ " folded to " ++
      (if value then "true" else "false")

/-- The log line of a fold. -/
def logLine (names : Naming) (fold : Fold) : LogLine := ⟨.trace, fold.message names⟩

end Fold

namespace Refusal

/-- The message of a refused quantifier. -/
def message (names : Naming) (refusal : Refusal) : String :=
  "Refusing to evaluate a universal quantifier over " ++ refusal.binders.text names

/-- The log line of a refused quantifier. -/
def logLine (names : Naming) (refusal : Refusal) : LogLine := ⟨.debug, refusal.message names⟩

end Refusal

end FloatLogic
