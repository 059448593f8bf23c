import FloatLogic.Layout.Document
import FloatLogic.Layout.UnicodeRuler
import FloatLogic.Text

/-!
# Rendering of formulas

A formula is rendered within a line width.  A line may end before the word of a
junction and behind the point of a quantifier, and nowhere else; a term and a
list of binders are never broken.

Texts are measured with any ruler.  Where none is given, it is the one of terminals.
-/

namespace FloatLogic.Formula

open Layout

variable {ruler : Ruler}

/-- Text with a style. -/
def styled (style : Style) (content : String) : Document ruler := .text (some style) content

/-- A space where no line may end. -/
def blank : Document ruler := .text none " "

/-- A junction of two documents. -/
def junctionDocument (depth : Fin 6) (connective : Connective) (left right : Document ruler) :
    Document ruler :=
  .group (.nest 1 (styled (.parenthesis depth) "(" ++ (left ++ (.line ++
    (styled .operator connective.word ++ (blank ++ right))))) ++ styled (.parenthesis depth) ")")

/-- The negation of a document. -/
def negationDocument (depth : Fin 6) (operand : Document ruler) : Document ruler :=
  .group (styled .operator "!" ++ (styled (.parenthesis depth) "(" ++
    (operand ++ styled (.parenthesis depth) ")")))

/-- The quantification of a document. -/
def universalDocument (names : Naming) (depth : Fin 6) (binders : VarSet)
    (body : Document ruler) : Document ruler :=
  .group (.nest 2 (styled .keyword "forall" ++ (styled (.parenthesis depth) "(" ++
    (styled .binders (binders.text names) ++ (styled .punctuation "." ++ (.line ++ body))))) ++
      styled (.parenthesis depth) ")")

/-- The document of a formula at a nesting depth of parentheses. -/
def document (ruler : Ruler) (names : Naming) (depth : Fin 6) : Formula → Document ruler
  | truth value => styled .keyword (truthText value)
  | comparison relation left right =>
    styled (.parenthesis depth) "(" ++ (styled .term (left.text names) ++ (blank ++
      (styled .operator relation.symbol ++ (blank ++ (styled .term (right.text names) ++
        styled (.parenthesis depth) ")")))))
  | junction connective left right =>
    junctionDocument depth connective (left.document ruler names (depth + 1))
      (right.document ruler names (depth + 1))
  | negation operand => negationDocument depth (operand.document ruler names (depth + 1))
  | universal binders body =>
    universalDocument names depth binders (body.document ruler names (depth + 1))

/-- The laid out pieces of a formula. -/
def pieces (names : Naming) (width : Nat) (formula : Formula) (ruler : Ruler := unicodeRuler) :
    List Piece :=
  (formula.document ruler names 0).pieces width

/-- A formula within a line width. -/
def render (names : Naming) (width : Nat) (formula : Formula) (ruler : Ruler := unicodeRuler) :
    String :=
  Piece.plainText (formula.pieces names width ruler)

/-- A formula within a line width, with colours for a terminal. -/
def renderColored (names : Naming) (width : Nat) (formula : Formula)
    (ruler : Ruler := unicodeRuler) : String :=
  Piece.coloredText (formula.pieces names width ruler)

/-- A formula as a printed line or lines, with the line end behind it. -/
def printed (names : Naming) (width : Nat) (colored : Bool) (formula : Formula)
    (ruler : Ruler := unicodeRuler) : String :=
  (if colored then formula.renderColored names width ruler
    else formula.render names width ruler) ++ "\n"

end FloatLogic.Formula
