import FloatLogic.Proofs.Layout.Content
import FloatLogic.Proofs.Rendering.Groups

/-!
# Styled texts of a rendered formula

Every rendering of a formula, in whatever width, has the same texts with styles, in the
same order.  Texts without a style are single spaces.
-/

namespace FloatLogic

/-- What the style of parentheses knows of their nesting depth. -/
def Layout.level (depth : Nat) : Fin 6 := ⟨depth % 6, Nat.mod_lt depth (by decide)⟩

theorem Layout.level_succ (depth : Nat) : level (depth + 1) = level depth + 1 := by
  apply Fin.ext
  simp [level, Fin.val_add]

namespace Formula

open Layout

/-- The texts with styles of a formula at a nesting depth of parentheses. -/
def styledTexts (names : Naming) (depth : Nat) : Formula → List (Style × String)
  | truth value => [(.keyword, truthText value)]
  | comparison relation left right =>
    [(.parenthesis (level depth), "("), (.term, left.text names), (.operator, relation.symbol),
      (.term, right.text names), (.parenthesis (level depth), ")")]
  | junction connective left right =>
    (.parenthesis (level depth), "(") :: (left.styledTexts names (depth + 1) ++
      ((.operator, connective.word) :: (right.styledTexts names (depth + 1) ++
        [(.parenthesis (level depth), ")")])))
  | negation operand =>
    (.operator, "!") :: (.parenthesis (level depth), "(") ::
      (operand.styledTexts names (depth + 1) ++ [(.parenthesis (level depth), ")")])
  | universal binders body =>
    (.keyword, "forall") :: (.parenthesis (level depth), "(") :: (.binders, binders.text names) ::
      (.punctuation, ".") :: (body.styledTexts names (depth + 1) ++
        [(.parenthesis (level depth), ")")])

variable {ruler : Ruler} {names : Naming}

theorem filterMap_styled_flatPieces (formula : Formula) (depth : Nat) :
    (formula.document ruler names (level depth)).flatPieces.filterMap Piece.styled? =
      formula.styledTexts names depth := by
  induction formula generalizing depth with
  | truth value => rfl
  | comparison relation left right => rfl
  | junction connective left right leftHypothesis rightHypothesis =>
    rw [flatPieces_junction, ← level_succ, styledTexts, ← leftHypothesis, ← rightHypothesis]
    simp [Piece.styled?, List.filterMap_cons]
  | negation operand inductionHypothesis =>
    rw [flatPieces_negation, ← level_succ, styledTexts, ← inductionHypothesis]
    simp [Piece.styled?]
  | universal binders body inductionHypothesis =>
    rw [flatPieces_universal, ← level_succ, styledTexts, ← inductionHypothesis]
    simp [Piece.styled?, List.filterMap_cons]

/-- The texts with styles in a rendering are those of the formula. -/
theorem filterMap_styled_pieces (formula : Formula) (width : Nat) :
    (formula.pieces names width ruler).filterMap Piece.styled? = formula.styledTexts names 0 := by
  rw [pieces, Document.pieces, Document.filterMap_layout _ _ rfl fun _ => rfl]
  exact formula.filterMap_styled_flatPieces 0

theorem eq_blank_of_mem_flatPieces (formula : Formula) (depth : Fin 6) {content : String}
    (unstyled : .text none content ∈ (formula.document ruler names depth).flatPieces) :
    content = " " := by
  induction formula generalizing depth with
  | truth value => simp [document, styled, Document.flatPieces] at unstyled
  | comparison relation left right =>
    rw [flatPieces_comparison] at unstyled
    simpa using unstyled
  | junction connective left right leftHypothesis rightHypothesis =>
    rw [flatPieces_junction] at unstyled
    simp only [List.cons_append, List.mem_cons, List.mem_append, List.append_assoc,
      List.mem_nil_iff, Piece.text.injEq, reduceCtorEq, false_and, false_or, or_false] at unstyled
    rcases unstyled with left | ⟨_, equal⟩ | right
    · exact leftHypothesis _ left
    · exact equal
    · exact rightHypothesis _ right
  | negation operand inductionHypothesis =>
    rw [flatPieces_negation] at unstyled
    simp only [List.mem_cons, List.mem_append, List.mem_nil_iff, Piece.text.injEq, reduceCtorEq,
      false_and, false_or, or_false] at unstyled
    exact inductionHypothesis _ unstyled
  | universal binders body inductionHypothesis =>
    rw [flatPieces_universal] at unstyled
    simp only [List.cons_append, List.mem_cons, List.mem_append, List.mem_nil_iff,
      Piece.text.injEq, reduceCtorEq, false_and, false_or, or_false] at unstyled
    exact inductionHypothesis _ unstyled

/-- A text without a style in a rendering is a space. -/
theorem eq_blank_of_mem_pieces (formula : Formula) (width : Nat) {content : String}
    (unstyled : .text none content ∈ formula.pieces names width ruler) : content = " " := by
  rw [pieces, Document.pieces, Document.text_mem_layout_iff] at unstyled
  exact formula.eq_blank_of_mem_flatPieces 0 unstyled

end Formula

end FloatLogic
