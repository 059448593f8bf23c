import FloatLogic.Formula.Rendering
import FloatLogic.Proofs.Layout.Printer
import FloatLogic.Proofs.Layout.Segment
import Mathlib.Tactic.Use

/-!
# Line breaks of a rendered formula

The text of a formula has a breakable space before the word of every junction
and behind the point of every quantifier.  A line that begins at such a space is
indented by one column for each junction and by two columns for each quantifier
from the root down to the node that the space belongs to; negations and
comparisons do not indent.  The text of a formula and its rendering within any
width are spelled by the same segments and differ in the choice of line breaks
only.
-/

namespace FloatLogic.Formula

open Layout Layout.Segment

/-- The segments of the text of a formula below nodes that indent by the given
amount. -/
def segments (names : Naming) (indentation : Nat) : Formula → List Segment
  | truth value => [.fixed (truthText value)]
  | comparison relation left right => [.fixed ((comparison relation left right).text names)]
  | junction connective left right =>
    .fixed "(" :: (left.segments names (indentation + 1) ++
      (.breakable (indentation + 1) :: .fixed (connective.word ++ " ") ::
        (right.segments names (indentation + 1) ++ [.fixed ")"])))
  | negation operand => .fixed "!(" :: (operand.segments names indentation ++ [.fixed ")"])
  | universal binders body =>
    .fixed ("forall(" ++ binders.text names ++ ".") :: .breakable (indentation + 2) ::
      (body.segments names (indentation + 2) ++ [.fixed ")"])

variable {ruler : Ruler} {names : Naming}

/-- Without line breaks the segments spell the text of the formula. -/
theorem spell_segments_nil (formula : Formula) (indentation : Nat) :
    spell (formula.segments names indentation) [] = formula.text names := by
  induction formula generalizing indentation with
  | truth value => simp [segments, spell, text]
  | comparison relation left right => simp [segments, spell]
  | junction connective left right leftHypothesis rightHypothesis =>
    simp only [segments, spell, spell_append, List.drop_nil, leftHypothesis, rightHypothesis,
      text, String.append_assoc, String.append_empty]
  | negation operand inductionHypothesis =>
    simp only [segments, spell, spell_append, inductionHypothesis, text, String.append_assoc,
      String.append_empty]
  | universal binders body inductionHypothesis =>
    simp only [segments, spell, spell_append, inductionHypothesis, text, String.append_assoc,
      String.append_empty]
    rfl

/-! ## The document of a formula -/

theorem segments_comparison (relation : Comparison) (left right : Term) (depth : Fin 6)
    (indentation : Nat) :
    ((comparison relation left right).document ruler names depth).segments indentation =
      [.fixed "(", .fixed (left.text names), .fixed " ", .fixed relation.symbol, .fixed " ",
        .fixed (right.text names), .fixed ")"] := rfl

theorem segments_junctionDocument (depth : Fin 6) (connective : Connective)
    (left right : Document ruler) (indentation : Nat) :
    (junctionDocument depth connective left right).segments indentation =
      .fixed "(" :: (left.segments (indentation + 1) ++
        (.breakable (indentation + 1) :: .fixed connective.word :: .fixed " " ::
          right.segments (indentation + 1))) ++ [.fixed ")"] := rfl

theorem segments_negationDocument (depth : Fin 6) (operand : Document ruler)
    (indentation : Nat) :
    (negationDocument depth operand).segments indentation =
      .fixed "!" :: .fixed "(" :: (operand.segments indentation ++ [.fixed ")"]) := rfl

theorem segments_universalDocument (depth : Fin 6) (binders : VarSet) (body : Document ruler)
    (indentation : Nat) :
    (universalDocument names depth binders body).segments indentation =
      .fixed "forall" :: .fixed "(" :: .fixed (binders.text names) :: .fixed "." ::
        .breakable (indentation + 2) :: body.segments (indentation + 2) ++ [.fixed ")"] := rfl

/-- The document of a formula has the breakable spaces of its text. -/
theorem breakableCount_document (formula : Formula) (depth : Fin 6) (indentation : Nat) :
    breakableCount ((formula.document ruler names depth).segments indentation) =
      breakableCount (formula.segments names indentation) := by
  induction formula generalizing depth indentation with
  | truth value => rfl
  | comparison relation left right => rfl
  | junction connective left right leftHypothesis rightHypothesis =>
    simp only [document, segments_junctionDocument, segments, List.cons_append,
      breakableCount_append, breakableCount, leftHypothesis, rightHypothesis]
    omega
  | negation operand inductionHypothesis =>
    simp only [document, segments_negationDocument, segments, breakableCount_append,
      breakableCount, inductionHypothesis]
  | universal binders body inductionHypothesis =>
    simp only [document, segments_universalDocument, segments, List.cons_append,
      breakableCount_append, breakableCount, inductionHypothesis]

/-- The document of a formula spells the same texts as the formula itself. -/
theorem spell_document (formula : Formula) (depth : Fin 6) (indentation : Nat)
    (broken : List Bool) :
    spell ((formula.document ruler names depth).segments indentation) broken =
      spell (formula.segments names indentation) broken := by
  induction formula generalizing depth indentation broken with
  | truth value => rfl
  | comparison relation left right =>
    simp only [segments_comparison, segments, spell, text, String.append_assoc,
      String.append_empty]
  | junction connective left right leftHypothesis rightHypothesis =>
    simp only [document, segments_junctionDocument, segments, List.cons_append,
      List.append_assoc, spell, spell_append, leftHypothesis, breakableCount_document]
    -- The choice for the space before the word is the first one that the left operand leaves.
    rcases broken.drop (breakableCount (left.segments names (indentation + 1))) with
      _ | ⟨(_ | _), rest⟩ <;>
      simp only [spell, spell_append, rightHypothesis, String.append_assoc]
  | negation operand inductionHypothesis =>
    have opening : "!(" = "!" ++ "(" := rfl
    simp only [document, segments_negationDocument, segments, spell, spell_append,
      inductionHypothesis, opening, String.append_assoc]
  | universal binders body inductionHypothesis =>
    have opening : "forall(" = "forall" ++ "(" := rfl
    simp only [document, segments_universalDocument, segments, List.cons_append, spell]
    rcases broken with _ | ⟨(_ | _), rest⟩ <;>
      simp only [spell, spell_append, inductionHypothesis, opening, String.append_assoc]

/-- A nest in the document of a formula ends behind an operand, so the line that
a line end begins is indented like the word or the operand that opens it. -/
theorem document_nestsClosed (ruler : Ruler) (names : Naming) (formula : Formula) (depth : Fin 6) :
    (formula.document ruler names depth).NestsClosed ∧
      (formula.document ruler names depth).endsInLine = false := by
  induction formula generalizing depth with
  | truth value => exact ⟨trivial, rfl⟩
  | comparison relation left right => exact ⟨by repeat constructor, rfl⟩
  | junction connective left right leftHypothesis rightHypothesis =>
    rcases leftHypothesis (depth + 1) with ⟨leftClosed, _⟩
    rcases rightHypothesis (depth + 1) with ⟨rightClosed, rightEnd⟩
    exact ⟨⟨⟨rightEnd, trivial, leftClosed, trivial, trivial, trivial, rightClosed⟩, trivial⟩, rfl⟩
  | negation operand inductionHypothesis =>
    rcases inductionHypothesis (depth + 1) with ⟨operandClosed, _⟩
    exact ⟨⟨trivial, trivial, operandClosed, trivial⟩, rfl⟩
  | universal binders body inductionHypothesis =>
    rcases inductionHypothesis (depth + 1) with ⟨bodyClosed, bodyEnd⟩
    exact ⟨⟨⟨bodyEnd, trivial, trivial, trivial, trivial, trivial, bodyClosed⟩, trivial⟩, rfl⟩

/-! ## Renderings -/

/-- The rendering of a formula within a width is what the printer with a stack
prints, and it is the text of the formula with line breaks at some of the breakable
spaces, each indented as the nodes above it say. -/
theorem render_spells (ruler : Ruler) (names : Naming) (formula : Formula) (width : Nat) :
    formula.render names width ruler =
        Piece.plainText (Job.print width 0 [⟨0, true, formula.document ruler names 0⟩]) ∧
      formula.text names = spell (formula.segments names 0) [] ∧
      ∃ broken : List Bool,
        broken.length = breakableCount (formula.segments names 0) ∧
        formula.render names width ruler = spell (formula.segments names 0) broken := by
  rcases document_nestsClosed ruler names formula 0 with ⟨closed, _⟩
  rcases (formula.document ruler names 0).layout_spells width true 0 0 0 with ⟨count, rendered⟩
  constructor
  · rw [render, pieces, Document.pieces_eq_print _ closed]
  constructor
  · exact (spell_segments_nil formula 0).symm
  use Piece.breaks (formula.pieces names width ruler)
  constructor
  · exact count.trans (breakableCount_document formula 0 0)
  · exact rendered.trans (spell_document formula 0 0 _)

end FloatLogic.Formula
