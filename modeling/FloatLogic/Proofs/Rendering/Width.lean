import FloatLogic.Proofs.Rendering.Groups
import FloatLogic.Proofs.Rendering.LineBreaks

/-!
# Line breaks and the width

Where the lines of a rendered formula end is decided by the width alone.  A larger
width ends no line that a smaller one leaves whole, and a formula is rendered as
its text exactly if the text fits into the width or has no breakable space.
-/

namespace FloatLogic.Formula

open Layout Layout.Segment Layout.Piece

/-- At which of its breakable spaces the lines of a formula end, from left to right. -/
def lineBreaks (ruler : Ruler) (names : Naming) (width : Nat) (formula : Formula) : List Bool :=
  breaks (formula.pieces names width ruler)

variable {ruler : Ruler} {names : Naming}

/-- A rendering is spelled by its line breaks. -/
theorem render_eq_spell (ruler : Ruler) (names : Naming) (formula : Formula) (width : Nat) :
    (formula.lineBreaks ruler names width).length = breakableCount (formula.segments names 0) ∧
      formula.render names width ruler =
        spell (formula.segments names 0) (formula.lineBreaks ruler names width) := by
  rcases (formula.document ruler names 0).layout_spells width true 0 0 0 with ⟨count, rendered⟩
  constructor
  · exact count.trans (breakableCount_document formula 0 0)
  · exact rendered.trans (spell_document formula 0 0 _)

/-! ## Smaller and larger widths -/

/-- A line that ends in a layout also ends in a narrower one from the same column. -/
theorem breaks_layout_antitone {narrow wide : Nat} (le : narrow ≤ wide) (formula : Formula)
    (depth : Fin 6) (indentation column after : Nat) :
    FewerBreaks
      (breaks ((formula.document ruler names depth).layout wide true indentation column after).1)
      (breaks
        ((formula.document ruler names depth).layout narrow true indentation column after).1) := by
  induction formula, depth, indentation, column, after using layout_induction ruler names wide with
  | flat formula depth indentation column after fits =>
    rw [layout_document_flat formula fits]
    exact Document.fewerBreaks_flatPieces _ indentation
  | junction connective left right depth indentation column after overflows leftHypothesis
      rightHypothesis =>
    -- The narrower layout takes the junction apart too, and puts both operands where the
    -- wider one puts them.
    rw [layout_junction_of_lt _ _ _ overflows,
      layout_junction_of_lt _ _ _ (Nat.lt_of_le_of_lt le overflows)]
    simp only [List.cons_append, breaks_append, breaks_text_cons, breaks_newline_cons]
    refine (leftHypothesis.append ?_).append .nil
    exact .cons (fun _ => rfl) rightHypothesis
  | negation operand depth indentation column after overflows inductionHypothesis =>
    rw [layout_negation_of_lt _ overflows,
      layout_negation_of_lt _ (Nat.lt_of_le_of_lt le overflows)]
    simp only [breaks_append, breaks_text_cons]
    exact inductionHypothesis.append .nil
  | universal binders body depth indentation column after overflows inductionHypothesis =>
    rw [layout_universal_of_lt _ _ overflows,
      layout_universal_of_lt _ _ (Nat.lt_of_le_of_lt le overflows)]
    simp only [List.cons_append, breaks_append, breaks_text_cons, breaks_newline_cons]
    exact .cons (fun _ => rfl) (inductionHypothesis.append .nil)

/-- With more room no breakable space becomes a line break that was none before, and so
there are no more line breaks. -/
theorem lineBreaks_antitone (ruler : Ruler) (names : Naming) (formula : Formula) {narrow wide : Nat}
    (le : narrow ≤ wide) :
    (∀ width, (formula.lineBreaks ruler names width).length =
        breakableCount (formula.segments names 0) ∧
      formula.render names width ruler =
        spell (formula.segments names 0) (formula.lineBreaks ruler names width)) ∧
    FewerBreaks (formula.lineBreaks ruler names wide) (formula.lineBreaks ruler names narrow) ∧
    (formula.lineBreaks ruler names wide).count true ≤
      (formula.lineBreaks ruler names narrow).count true := by
  have fewer : FewerBreaks (formula.lineBreaks ruler names wide)
      (formula.lineBreaks ruler names narrow) :=
    breaks_layout_antitone le formula 0 0 0 0
  exact ⟨formula.render_eq_spell ruler names, fewer, fewer.count_le⟩

/-- Two quantifiers: with twenty columns only the outer one breaks its line, with nineteen
the inner one does too. -/
theorem lineBreaks_antitone_quantifiers :
    19 ≤ 20 ∧
      (universal (.ofList [⟨0⟩]) (universal (.ofList [⟨1⟩]) (truth true))).lineBreaks
        unicodeRuler (fun v => if v.id = 0 then "x" else "y") 20 = [true, false] ∧
      (universal (.ofList [⟨0⟩]) (universal (.ofList [⟨1⟩]) (truth true))).lineBreaks
        unicodeRuler (fun v => if v.id = 0 then "x" else "y") 19 = [true, true] ∧
      FewerBreaks
        ((universal (.ofList [⟨0⟩]) (universal (.ofList [⟨1⟩]) (truth true))).lineBreaks
          unicodeRuler (fun v => if v.id = 0 then "x" else "y") 20)
        ((universal (.ofList [⟨0⟩]) (universal (.ofList [⟨1⟩]) (truth true))).lineBreaks
          unicodeRuler (fun v => if v.id = 0 then "x" else "y") 19) := by
  have le : 19 ≤ 20 := by decide
  exact ⟨le, by decide +kernel, by decide +kernel, (lineBreaks_antitone unicodeRuler _ _ le).2.1⟩

/-! ## Formulas that fit -/

/-- A line of a formula ends exactly if there is a place for it and the formula does not
fit.  A negation passes the question on to its operand, which overflows with it. -/
theorem true_mem_breaks_layout_iff (ruler : Ruler) (names : Naming) (formula : Formula)
    (width : Nat) (depth : Fin 6) (indentation column after : Nat) :
    true ∈ breaks
        ((formula.document ruler names depth).layout width true indentation column after).1 ↔
      ¬ (formula.JunctionFree ∧ formula.QuantifierFree) ∧
        width < column + formula.columns ruler names + after := by
  induction formula, depth, indentation, column, after using layout_induction ruler names width with
  | flat formula depth indentation column after fits =>
    rw [layout_document_flat formula fits]
    constructor
    · intro chosen
      exact absurd chosen (Document.true_notMem_breaks_flatPieces _)
    · rintro ⟨breakable, overflows⟩
      rcases fits with unbreakable | fits
      · exact absurd unbreakable breakable
      · exact absurd fits (Nat.not_le_of_lt overflows)
  | junction connective left right depth indentation column after overflows =>
    rw [layout_junction_of_lt _ _ _ overflows]
    simp [overflows, breaks_append]
  | negation operand depth indentation column after overflows inductionHypothesis =>
    rw [layout_negation_of_lt _ overflows, junctionFree_negation_iff, quantifierFree_negation_iff]
    have operandOverflows : width < column + displayWidth ruler "!" + displayWidth ruler "(" +
        operand.columns ruler names + (displayWidth ruler ")" + after) := by
      rw [columns_negation] at overflows
      omega
    simpa [operandOverflows, overflows, breaks_append] using inductionHypothesis
  | universal binders body depth indentation column after overflows =>
    rw [layout_universal_of_lt _ _ overflows]
    simp [overflows, breaks_append]

/-- A line of a formula begins behind an indentation that is larger than that of the
nodes above the formula. -/
theorem lt_of_breakable_mem_segments (formula : Formula) (above indentation : Nat)
    (mem : .breakable indentation ∈ formula.segments names above) : above < indentation := by
  induction formula generalizing above with
  | truth value => simp [segments] at mem
  | comparison relation left right => simp [segments] at mem
  | junction connective left right leftHypothesis rightHypothesis =>
    simp only [segments, List.mem_cons, List.mem_append, reduceCtorEq, false_or, or_false,
      List.not_mem_nil, breakable.injEq] at mem
    rcases mem with mem | rfl | mem
    · exact Nat.lt_of_succ_lt (leftHypothesis _ mem)
    · exact Nat.lt_succ_self above
    · exact Nat.lt_of_succ_lt (rightHypothesis _ mem)
  | negation operand inductionHypothesis =>
    simp only [segments, List.mem_cons, List.mem_append, reduceCtorEq, false_or, or_false,
      List.not_mem_nil] at mem
    exact inductionHypothesis _ mem
  | universal binders body inductionHypothesis =>
    simp only [segments, List.mem_cons, List.mem_append, reduceCtorEq, false_or, or_false,
      List.not_mem_nil, breakable.injEq] at mem
    rcases mem with rfl | mem
    · omega
    · exact Nat.lt_of_succ_lt (Nat.lt_of_succ_lt (inductionHypothesis _ mem))

/-- The rendering of a formula is its text exactly if the formula contains neither a
junction nor a quantifier or if its flat texts, which make up its text, fit into the
width. -/
theorem render_eq_text_iff (ruler : Ruler) (names : Naming) (formula : Formula) (width : Nat) :
    String.join (formula.flatTexts names) = formula.text names ∧
    (formula.render names width ruler = formula.text names ↔
      formula.JunctionFree ∧ formula.QuantifierFree ∨
        textColumns ruler (formula.flatTexts names) ≤ width) := by
  constructor
  · exact formula.join_flatTexts
  rcases formula.render_eq_spell ruler names width with ⟨count, rendered⟩
  have indented indentation (mem : .breakable indentation ∈ formula.segments names 0) :
      0 < indentation := formula.lt_of_breakable_mem_segments 0 indentation mem
  have chosen := formula.true_mem_breaks_layout_iff ruler names width 0 0 0 0
  rw [Nat.zero_add, Nat.add_zero] at chosen
  calc formula.render names width ruler = formula.text names
      ↔ spell (formula.segments names 0) (formula.lineBreaks ruler names width) =
          spell (formula.segments names 0) [] := by rw [rendered, spell_segments_nil]
    _ ↔ true ∉ formula.lineBreaks ruler names width :=
        spell_eq_spell_nil_iff _ _ indented (Nat.le_of_eq count)
    _ ↔ ¬ (¬ (formula.JunctionFree ∧ formula.QuantifierFree) ∧
          width < formula.columns ruler names) :=
        not_congr chosen
    _ ↔ formula.JunctionFree ∧ formula.QuantifierFree ∨
          textColumns ruler (formula.flatTexts names) ≤ width := by
        rw [not_and_or, not_not, Nat.not_lt, columns]

end FloatLogic.Formula
