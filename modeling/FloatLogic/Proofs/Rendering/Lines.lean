import FloatLogic.Proofs.Layout.Line
import FloatLogic.Proofs.Rendering.Groups

/-!
# Lines of a rendered formula

A line of a rendered formula takes more columns than the width only if it has no
breakable space left.  A space is left where a formula is laid out flat, and this
is decided by the columns before the formula and behind it; the columns behind it
are those of the parentheses that close the nodes above it, since a line ends before
anything else that follows.
-/

namespace FloatLogic.Formula

open Layout Layout.Piece

variable {ruler : Ruler} {names : Naming}

/-- A formula may be laid out before any pieces that go on with lines that fit, if the
columns up to the first line break among them are what the layout counts as following. -/
theorem linesFit_layout (formula : Formula) (width : Nat) (depth : Fin 6)
    (indentation column after : Nat) (rest : List Piece) (ahead : columnsAhead ruler rest = after)
    (fit : LinesFit ruler width
      ((formula.document ruler names depth).layout width true indentation column after).2 false
      rest) :
    LinesFit ruler width column false
      (((formula.document ruler names depth).layout width true indentation column after).1 ++
        rest) := by
  induction formula, depth, indentation, column, after using layout_induction ruler names width
    generalizing rest with
  | flat formula depth indentation column after fits =>
    rw [layout_document_flat formula fits] at fit ⊢
    have columns_eq := (formula.document ruler names depth).columns_flatPieces
    rw [flatWidth_document] at columns_eq
    rw [← columns_eq] at fit
    rcases fits with unbreakable | fits
    · apply fit.append_left_of_breaks_eq_nil
      apply Document.breaks_flatPieces_eq_nil
      exact (breakable_document_eq_false_iff formula depth).mpr unbreakable
    · rw [← columns_eq, ← ahead] at fits
      exact fit.append_left (Document.newline_notMem_flatPieces _) fits false
  | junction connective left right depth indentation column after overflows leftHypothesis
      rightHypothesis =>
    rw [layout_junction_of_lt _ _ _ overflows] at fit ⊢
    simp only [List.cons_append, List.append_assoc, linesFit_text_iff]
    -- The line break before the word follows the left operand, the closing parenthesis and
    -- the rest follow the right one.
    apply leftHypothesis _ rfl
    simp only [linesFit_newline_iff, linesFit_text_iff]
    apply rightHypothesis
    · rw [List.nil_append, columnsAhead, ahead]
    · exact fit
  | negation operand depth indentation column after overflows inductionHypothesis =>
    rw [layout_negation_of_lt _ overflows] at fit ⊢
    simp only [List.cons_append, List.append_assoc, linesFit_text_iff]
    apply inductionHypothesis
    · rw [List.nil_append, columnsAhead, ahead]
    · exact fit
  | universal binders body depth indentation column after overflows inductionHypothesis =>
    rw [layout_universal_of_lt _ _ overflows] at fit ⊢
    simp only [List.cons_append, List.append_assoc, linesFit_text_iff, linesFit_newline_iff]
    apply inductionHypothesis
    · rw [List.nil_append, columnsAhead, ahead]
    · exact fit

/-- The lines of a rendered formula are those between its line breaks, and a line on
which a breakable space is left fits into the width. -/
theorem columns_le_of_space_mem (ruler : Ruler) (names : Naming) (formula : Formula) (width : Nat) :
    "\n".intercalate ((lines (formula.pieces names width ruler)).map Line.text) =
        formula.render names width ruler ∧
      ∀ line ∈ lines (formula.pieces names width ruler), .space ∈ line.content →
        line.columns ruler ≤ width := by
  constructor
  · exact intercalate_lines _
  have fit : LinesFit ruler width 0 false (formula.pieces names width ruler ++ []) :=
    formula.linesFit_layout width 0 0 0 0 [] rfl (linesFit_nil _ _)
  rw [List.append_nil] at fit
  exact (linesFit_iff width ⟨0, []⟩ (formula.pieces names width ruler)).mp fit

/-- The second line of two quantifiers has its indentation, a space and the parenthesis
that closes the first quantifier, and takes all of twenty columns. -/
theorem columns_le_of_space_mem_quantifiers :
    ∃ line ∈ lines ((universal (.ofList [⟨0⟩]) (universal (.ofList [⟨1⟩]) (truth true))).pieces
        (fun v => if v.id = 0 then "x" else "y") 20 unicodeRuler),
      .space ∈ line.content ∧ line.text = "  forall(\x7by\x7d. True))" ∧
        line.columns unicodeRuler ≤ 20 := by
  obtain ⟨line, mem, spaced, written⟩ : ∃ line ∈
      lines ((universal (.ofList [⟨0⟩]) (universal (.ofList [⟨1⟩]) (truth true))).pieces
        (fun v => if v.id = 0 then "x" else "y") 20 unicodeRuler),
      .space ∈ line.content ∧ line.text = "  forall(\x7by\x7d. True))" := by decide +kernel
  exact ⟨line, mem, spaced, written,
    (columns_le_of_space_mem unicodeRuler _ _ 20).2 line mem spaced⟩

end FloatLogic.Formula
