import FloatLogic.Formula.Rendering
import FloatLogic.Proofs.Layout.Flat
import FloatLogic.Proofs.Subformula

/-!
# Groups of a rendered formula

Junctions, negations and quantifiers are groups.  A formula that fits into the
width, together with the columns before it and behind it, is laid out flat.  One
that does not fit is laid out part by part, and there neither the column of a part
nor the columns behind it depend on how the parts before it were laid out: a part
stands behind the opening of its node or behind a line break, and behind it stands
a line break or nothing but closing parentheses.
-/

namespace FloatLogic

namespace Layout

/-- The columns of texts one after the other. -/
def textColumns (ruler : Ruler) : List String → Nat
  | [] => 0
  | content :: rest => displayWidth ruler content + textColumns ruler rest

@[simp]
theorem textColumns_append (ruler : Ruler) (first second : List String) :
    textColumns ruler (first ++ second) = textColumns ruler first + textColumns ruler second := by
  induction first with
  | nil => simp [textColumns]
  | cons content rest inductionHypothesis =>
    simp only [List.cons_append, textColumns, inductionHypothesis, Nat.add_assoc]

end Layout

namespace Formula

open Layout

/-- The texts of a formula on one line: terms, sets of binders, operators, words,
parentheses, points and spaces. -/
def flatTexts (names : Naming) : Formula → List String
  | truth value => [truthText value]
  | comparison relation left right =>
    ["(", left.text names, " ", relation.symbol, " ", right.text names, ")"]
  | junction connective left right =>
    "(" :: (left.flatTexts names ++
      (" " :: connective.word :: " " :: (right.flatTexts names ++ [")"])))
  | negation operand => "!" :: "(" :: (operand.flatTexts names ++ [")"])
  | universal binders body =>
    "forall" :: "(" :: binders.text names :: "." :: " " :: (body.flatTexts names ++ [")"])

/-- The columns of a formula on one line. -/
def columns (ruler : Ruler) (names : Naming) (formula : Formula) : Nat :=
  textColumns ruler (formula.flatTexts names)

variable {ruler : Ruler} {names : Naming}

theorem columns_negation (operand : Formula) :
    (negation operand).columns ruler names =
      displayWidth ruler "!" + displayWidth ruler "(" + operand.columns ruler names +
        displayWidth ruler ")" := by
  simp only [columns, flatTexts, textColumns, textColumns_append]
  omega

/-- The flat texts of a formula make up its text. -/
theorem join_flatTexts (formula : Formula) :
    String.join (formula.flatTexts names) = formula.text names := by
  induction formula with
  | truth value => simp [flatTexts, text]
  | comparison relation left right => simp [flatTexts, text, String.append_assoc]
  | junction connective left right leftHypothesis rightHypothesis =>
    simp [flatTexts, text, leftHypothesis, rightHypothesis, String.append_assoc]
  | negation operand inductionHypothesis =>
    have opening : "!(" = "!" ++ "(" := rfl
    simp only [flatTexts, text, String.join_cons, String.join_append, String.join_nil,
      inductionHypothesis, opening, String.append_empty, String.append_assoc]
  | universal binders body inductionHypothesis =>
    have opening : "forall(" = "forall" ++ "(" := rfl
    have point : ". " = "." ++ " " := rfl
    simp only [flatTexts, text, String.join_cons, String.join_append, String.join_nil,
      inductionHypothesis, opening, point, String.append_empty, String.append_assoc]

/-! ## The document of a formula -/

theorem flatWidth_junctionDocument (depth : Fin 6) (connective : Connective)
    (left right : Document ruler) :
    (junctionDocument depth connective left right).flatWidth =
      displayWidth ruler "(" + (left.flatWidth + (1 + (displayWidth ruler connective.word +
        (displayWidth ruler " " + right.flatWidth)))) + displayWidth ruler ")" := rfl

theorem flatWidth_negationDocument (depth : Fin 6) (operand : Document ruler) :
    (negationDocument depth operand).flatWidth =
      displayWidth ruler "!" + (displayWidth ruler "(" +
        (operand.flatWidth + displayWidth ruler ")")) := rfl

theorem flatWidth_universalDocument (depth : Fin 6) (binders : VarSet) (body : Document ruler) :
    (universalDocument names depth binders body).flatWidth =
      displayWidth ruler "forall" + (displayWidth ruler "(" +
        (displayWidth ruler (binders.text names) + (displayWidth ruler "." +
          (1 + body.flatWidth)))) + displayWidth ruler ")" := rfl

/-- The document of a formula takes the columns of its flat texts. -/
theorem flatWidth_document (formula : Formula) (depth : Fin 6) :
    (formula.document ruler names depth).flatWidth = formula.columns ruler names := by
  have space : displayWidth ruler " " = 1 := rfl
  unfold columns
  induction formula generalizing depth with
  | truth value => rfl
  | comparison relation left right => rfl
  | junction connective left right leftHypothesis rightHypothesis =>
    simp only [document, flatWidth_junctionDocument, leftHypothesis, rightHypothesis, flatTexts,
      textColumns, textColumns_append, space]
    omega
  | negation operand inductionHypothesis =>
    simp only [document, flatWidth_negationDocument, inductionHypothesis, flatTexts, textColumns,
      textColumns_append]
    omega
  | universal binders body inductionHypothesis =>
    simp only [document, flatWidth_universalDocument, inductionHypothesis, flatTexts, textColumns,
      textColumns_append, space]
    omega

theorem breakable_append (first second : Document ruler) :
    (first ++ second).breakable = (first.breakable || second.breakable) := rfl

@[simp]
theorem breakable_junctionDocument (depth : Fin 6) (connective : Connective)
    (left right : Document ruler) :
    (junctionDocument depth connective left right).breakable = true := by
  simp [junctionDocument, breakable_append, Document.breakable]

@[simp]
theorem breakable_negationDocument (depth : Fin 6) (operand : Document ruler) :
    (negationDocument depth operand).breakable = operand.breakable := by
  simp [negationDocument, styled, breakable_append, Document.breakable]

@[simp]
theorem breakable_universalDocument (depth : Fin 6) (binders : VarSet) (body : Document ruler) :
    (universalDocument names depth binders body).breakable = true := by
  simp [universalDocument, breakable_append, Document.breakable]

/-- A formula has no place where a line may end exactly if it contains neither a junction
nor a quantifier. -/
theorem breakable_document_eq_false_iff (formula : Formula) (depth : Fin 6) :
    (formula.document ruler names depth).breakable = false ↔
      formula.JunctionFree ∧ formula.QuantifierFree := by
  induction formula generalizing depth with
  | truth value => simp [document, styled, Document.breakable]
  | comparison relation left right =>
    simp [document, styled, blank, breakable_append, Document.breakable]
  | junction connective left right leftHypothesis rightHypothesis =>
    simp [document]
  | negation operand inductionHypothesis =>
    rw [junctionFree_negation_iff, quantifierFree_negation_iff, ← inductionHypothesis (depth + 1),
      document, breakable_negationDocument]
  | universal binders body inductionHypothesis =>
    simp [document]

/-! ## Flat pieces of a formula -/

theorem flatPieces_comparison (relation : Comparison) (left right : Term) (depth : Fin 6) :
    ((comparison relation left right).document ruler names depth).flatPieces =
      [.text (some (.parenthesis depth)) "(", .text (some .term) (left.text names),
        .text none " ", .text (some .operator) relation.symbol, .text none " ",
        .text (some .term) (right.text names), .text (some (.parenthesis depth)) ")"] := rfl

theorem flatPieces_junction (connective : Connective) (left right : Formula) (depth : Fin 6) :
    ((junction connective left right).document ruler names depth).flatPieces =
      .text (some (.parenthesis depth)) "(" ::
        ((left.document ruler names (depth + 1)).flatPieces ++
          (.space :: .text (some .operator) connective.word :: .text none " " ::
            (right.document ruler names (depth + 1)).flatPieces)) ++
        [.text (some (.parenthesis depth)) ")"] := rfl

theorem flatPieces_negation (operand : Formula) (depth : Fin 6) :
    ((negation operand).document ruler names depth).flatPieces =
      .text (some .operator) "!" :: .text (some (.parenthesis depth)) "(" ::
        ((operand.document ruler names (depth + 1)).flatPieces ++
          [.text (some (.parenthesis depth)) ")"]) := rfl

theorem flatPieces_universal (binders : VarSet) (body : Formula) (depth : Fin 6) :
    ((universal binders body).document ruler names depth).flatPieces =
      .text (some .keyword) "forall" :: .text (some (.parenthesis depth)) "(" ::
        .text (some .binders) (binders.text names) :: .text (some .punctuation) "." :: .space ::
        (body.document ruler names (depth + 1)).flatPieces ++
        [.text (some (.parenthesis depth)) ")"] := rfl

/-! ## Layouts of a formula -/

variable {width column after : Nat} {depth : Fin 6} {broken : Bool} {indentation : Nat}

/-- A formula that fits, or that has no place where a line may end, is laid out flat. -/
theorem layout_document_flat (formula : Formula)
    (flat : formula.JunctionFree ∧ formula.QuantifierFree ∨
      column + formula.columns ruler names + after ≤ width) :
    (formula.document ruler names depth).layout width broken indentation column after =
      ((formula.document ruler names depth).flatPieces, column + formula.columns ruler names) := by
  rw [← flatWidth_document formula depth] at flat ⊢
  rcases flat with unbreakable | fits
  · apply Document.layout_of_breakable_eq_false
    exact (breakable_document_eq_false_iff formula depth).mpr unbreakable
  · cases formula with
    | truth value => exact Document.layout_of_breakable_eq_false _ _ rfl
    | comparison relation left right => exact Document.layout_of_breakable_eq_false _ _ rfl
    | junction connective left right => exact Document.layout_group_of_le _ _ fits
    | negation operand => exact Document.layout_group_of_le _ _ fits
    | universal binders body => exact Document.layout_group_of_le _ _ fits

/-- A junction that does not fit has a line break before its word. -/
theorem layout_junction_of_lt (connective : Connective) (left right : Formula)
    (overflows : width < column + (junction connective left right).columns ruler names + after) :
    ((junction connective left right).document ruler names depth).layout width true indentation
        column after =
      let leftLayout := (left.document ruler names (depth + 1)).layout width true
        (indentation + 1) (column + displayWidth ruler "(") 0
      let rightLayout := (right.document ruler names (depth + 1)).layout width true
        (indentation + 1)
        (indentation + 1 + displayWidth ruler connective.word + displayWidth ruler " ")
        (displayWidth ruler ")" + after)
      (.text (some (.parenthesis depth)) "(" ::
          (leftLayout.1 ++ .newline (indentation + 1) ::
            .text (some .operator) connective.word :: .text none " " :: rightLayout.1) ++
          [.text (some (.parenthesis depth)) ")"],
        rightLayout.2 + displayWidth ruler ")") := by
  rw [← flatWidth_document _ depth] at overflows
  refine (Document.layout_group_of_lt _ _ overflows).trans ?_
  rfl

/-- A negation that does not fit has no line break of its own. -/
theorem layout_negation_of_lt (operand : Formula)
    (overflows : width < column + (negation operand).columns ruler names + after) :
    ((negation operand).document ruler names depth).layout width true indentation column after =
      let operandLayout := (operand.document ruler names (depth + 1)).layout width true indentation
        (column + displayWidth ruler "!" + displayWidth ruler "(") (displayWidth ruler ")" + after)
      (.text (some .operator) "!" :: .text (some (.parenthesis depth)) "(" ::
          (operandLayout.1 ++ [.text (some (.parenthesis depth)) ")"]),
        operandLayout.2 + displayWidth ruler ")") := by
  rw [← flatWidth_document _ depth] at overflows
  refine (Document.layout_group_of_lt _ _ overflows).trans ?_
  rfl

/-- A quantifier that does not fit has a line break behind its point. -/
theorem layout_universal_of_lt (binders : VarSet) (body : Formula)
    (overflows : width < column + (universal binders body).columns ruler names + after) :
    ((universal binders body).document ruler names depth).layout width true indentation column
        after =
      let bodyLayout := (body.document ruler names (depth + 1)).layout width true (indentation + 2)
        (indentation + 2) (displayWidth ruler ")" + after)
      (.text (some .keyword) "forall" :: .text (some (.parenthesis depth)) "(" ::
          .text (some .binders) (binders.text names) :: .text (some .punctuation) "." ::
          .newline (indentation + 2) :: bodyLayout.1 ++ [.text (some (.parenthesis depth)) ")"],
        bodyLayout.2 + displayWidth ruler ")") := by
  rw [← flatWidth_document _ depth] at overflows
  refine (Document.layout_group_of_lt _ _ overflows).trans ?_
  rfl

/-- Induction over the parts of a formula that are laid out by themselves: a formula that
is laid out flat is one piece, and any other one is taken apart, each part with the
indentation, the column and the columns behind it that its layout has. -/
theorem layout_induction (ruler : Ruler) (names : Naming) (width : Nat)
    {motive : Formula → Fin 6 → (indentation column after : Nat) → Prop}
    (flat : ∀ formula depth indentation column after,
      formula.JunctionFree ∧ formula.QuantifierFree ∨
        column + formula.columns ruler names + after ≤ width →
      motive formula depth indentation column after)
    (junction : ∀ connective left right depth indentation column after,
      width < column + (junction connective left right).columns ruler names + after →
      motive left (depth + 1) (indentation + 1) (column + displayWidth ruler "(") 0 →
      motive right (depth + 1) (indentation + 1)
        (indentation + 1 + displayWidth ruler connective.word + displayWidth ruler " ")
        (displayWidth ruler ")" + after) →
      motive (junction connective left right) depth indentation column after)
    (negation : ∀ operand depth indentation column after,
      width < column + (negation operand).columns ruler names + after →
      motive operand (depth + 1) indentation
        (column + displayWidth ruler "!" + displayWidth ruler "(")
        (displayWidth ruler ")" + after) →
      motive (negation operand) depth indentation column after)
    (universal : ∀ binders body depth indentation column after,
      width < column + (universal binders body).columns ruler names + after →
      motive body (depth + 1) (indentation + 2) (indentation + 2) (displayWidth ruler ")" + after) →
      motive (universal binders body) depth indentation column after)
    (formula : Formula) (depth : Fin 6) (indentation column after : Nat) :
    motive formula depth indentation column after := by
  induction formula generalizing depth indentation column after with
  | truth value => exact flat _ _ _ _ _ (.inl ⟨junctionFree_truth, quantifierFree_truth⟩)
  | comparison relation left right =>
    exact flat _ _ _ _ _ (.inl ⟨junctionFree_comparison, quantifierFree_comparison⟩)
  | junction connective left right leftHypothesis rightHypothesis =>
    rcases Nat.lt_or_ge width
        (column + (Formula.junction connective left right).columns ruler names + after)
      with overflows | fits
    · exact junction _ _ _ _ _ _ _ overflows (leftHypothesis _ _ _ _) (rightHypothesis _ _ _ _)
    · exact flat _ _ _ _ _ (.inr fits)
  | negation operand inductionHypothesis =>
    rcases Nat.lt_or_ge width
        (column + (Formula.negation operand).columns ruler names + after)
      with overflows | fits
    · exact negation _ _ _ _ _ overflows (inductionHypothesis _ _ _ _)
    · exact flat _ _ _ _ _ (.inr fits)
  | universal binders body inductionHypothesis =>
    rcases Nat.lt_or_ge width
        (column + (Formula.universal binders body).columns ruler names + after)
      with overflows | fits
    · exact universal _ _ _ _ _ _ overflows (inductionHypothesis _ _ _ _)
    · exact flat _ _ _ _ _ (.inr fits)

end Formula

end FloatLogic
