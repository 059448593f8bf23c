import FloatLogic.Proofs.Layout.Terminal
import FloatLogic.Proofs.Layout.Writer
import FloatLogic.Proofs.Rendering.LineBreaks
import FloatLogic.Proofs.Rendering.StyledTexts
import FloatLogic.Proofs.Text.Reading

/-!
# Colours of a rendered formula

The rendering with colours and the one without are written by the same calls.  Each
styled text of the formula stands between a call that sets its style and one that resets
it, and what stands between them are spaces and line breaks.

If no name has an escape character in it, the two renderings differ in the escape
sequences of the colours only, and a terminal shows each character as the style of its
piece says, and line breaks and indentation without any.
-/

namespace FloatLogic

open Layout

/-! ## Texts without escape characters -/

theorem escapeFree_commaSeparated (texts : List String)
    (escapeFree : ∀ text ∈ texts, EscapeFree text) : EscapeFree (commaSeparated texts) := by
  fun_induction commaSeparated texts with
  | case1 => decide
  | case2 only => exact escapeFree only List.mem_cons_self
  | case3 first second rest inductionHypothesis =>
    have restFree := inductionHypothesis fun text member =>
      escapeFree text (List.mem_cons_of_mem first member)
    simp only [escapeFree_append_iff, and_assoc]
    exact ⟨escapeFree first List.mem_cons_self, by decide, restFree⟩

variable {ruler : Ruler} {names : Naming}

theorem VarSet.escapeFree_text (set : VarSet) (escapeFree : ∀ v ∈ set, EscapeFree (names v)) :
    EscapeFree (set.text names) := by
  have members : EscapeFree (commaSeparated (set.toList.map names)) := by
    apply escapeFree_commaSeparated
    intro text member
    obtain ⟨v, inSet, rfl⟩ := List.mem_map.mp member
    exact escapeFree v inSet
  simp only [VarSet.text, escapeFree_append_iff, and_assoc]
  exact ⟨by decide, members, by decide⟩

theorem Double.escapeFree_text (number : Double) : EscapeFree number.text := by
  intro escape
  rcases mem_toList_text_cases escape with isDigit | listed
  · exact absurd isDigit (by decide)
  · exact absurd listed (by decide)

theorem Term.escapeFree_text (term : Term) (escapeFree : ∀ v ∈ term.vars, EscapeFree (names v)) :
    EscapeFree (term.text names) := by
  induction term with
  | constant value => exact value.escapeFree_text
  | var v => exact escapeFree v (VarSet.mem_singleton.mpr rfl)
  | neg operand inductionHypothesis =>
    simp only [text, escapeFree_append_iff, and_assoc]
    exact ⟨by decide, inductionHypothesis escapeFree, by decide⟩
  | binary operation left right leftHypothesis rightHypothesis =>
    obtain ⟨leftFree, rightFree⟩ := VarSet.forall_mem_union.mp escapeFree
    have symbol : EscapeFree operation.symbol := by cases operation <;> decide
    simp only [text, escapeFree_append_iff, and_assoc]
    exact ⟨by decide, leftHypothesis leftFree, by decide, symbol, by decide,
      rightHypothesis rightFree, by decide⟩

namespace Formula

theorem escapeFree_styledTexts (formula : Formula) (depth : Nat)
    (escapeFree : ∀ v ∈ formula.mentioned, EscapeFree (names v)) :
    ∀ text ∈ formula.styledTexts names depth, EscapeFree text.2 := by
  induction formula generalizing depth with
  | truth value =>
    cases value <;> simp only [styledTexts, List.forall_mem_singleton] <;> decide
  | comparison relation left right =>
    obtain ⟨leftFree, rightFree⟩ := VarSet.forall_mem_union.mp escapeFree
    have symbol : EscapeFree relation.symbol := by cases relation <;> decide
    simp only [styledTexts, List.forall_mem_cons]
    exact ⟨by decide, left.escapeFree_text leftFree, symbol, right.escapeFree_text rightFree,
      by decide⟩
  | junction connective left right leftHypothesis rightHypothesis =>
    obtain ⟨leftFree, rightFree⟩ := VarSet.forall_mem_union.mp escapeFree
    have word : EscapeFree connective.word := by cases connective <;> decide
    simp only [styledTexts, List.forall_mem_cons, List.forall_mem_append]
    exact ⟨by decide, leftHypothesis _ leftFree, word, rightHypothesis _ rightFree, by decide⟩
  | negation operand inductionHypothesis =>
    simp only [styledTexts, List.forall_mem_cons, List.forall_mem_append]
    exact ⟨by decide, by decide, inductionHypothesis _ escapeFree, by decide⟩
  | universal binders body inductionHypothesis =>
    obtain ⟨bindersFree, bodyFree⟩ := VarSet.forall_mem_union.mp escapeFree
    simp only [styledTexts, List.forall_mem_cons, List.forall_mem_append]
    exact ⟨by decide, by decide, binders.escapeFree_text bindersFree, by decide,
      inductionHypothesis _ bodyFree, by decide⟩

/-- A rendering of a formula has an escape character in no piece if it has none in the
names. -/
theorem escapeFree_pieces (formula : Formula) (width : Nat)
    (escapeFree : ∀ v ∈ formula.mentioned, EscapeFree (names v)) :
    ∀ piece ∈ formula.pieces names width ruler, EscapeFree piece.plain := by
  intro piece member
  rcases piece with ⟨_ | style, content⟩ | _ | indentation
  · rw [formula.eq_blank_of_mem_pieces width member]
    decide
  · have listed : (style, content) ∈ formula.styledTexts names 0 := by
      rw [← filterMap_styled_pieces formula width]
      exact List.mem_filterMap.mpr ⟨_, member, rfl⟩
    exact formula.escapeFree_styledTexts 0 escapeFree _ listed
  · decide
  · exact escapeFree_newline indentation

/-! ## Renderings -/

/-- The renderings with and without colours are written by the same calls, which set a
style before each styled text of the formula and reset it behind the text, and write
spaces and line breaks in between.  If no name has an escape character in it, the
rendering with colours is the one without but for its escape sequences, and a terminal
that shows it gives each character the appearance of its piece, and is left without
settings. -/
theorem colors_change_no_text (ruler : Ruler) (names : Naming) (formula : Formula) (width : Nat) :
    (Writer.colored.output ((formula.document ruler names 0).calls width) =
        formula.renderColored names width ruler ∧
      Writer.plain.output ((formula.document ruler names 0).calls width) =
        formula.render names width ruler ∧
      Bracketed (formula.styledTexts names 0) ((formula.document ruler names 0).calls width)) ∧
    ((∀ v ∈ formula.mentioned, EscapeFree (names v)) →
      deleteEscapes (formula.renderColored names width ruler) = formula.render names width ruler ∧
        Terminal.run {} (formula.renderColored names width ruler).toList =
          ((formula.pieces names width ruler).flatMap Piece.cells, {})) := by
  constructor
  · have written := (formula.document ruler names 0).calls_eq
      (document_nestsClosed ruler names formula 0).1 width
    rw [written, Writer.output_colored, Writer.output_plain,
      ← filterMap_styled_pieces formula width]
    have blank : ∀ content, .text none content ∈ formula.pieces names width ruler →
        IsBlank content := fun content member => .inl (formula.eq_blank_of_mem_pieces width member)
    exact ⟨rfl, rfl, bracketed_calls _ blank⟩
  · intro namesFree
    have escapeFree : ∀ piece ∈ formula.pieces names width ruler, EscapeFree piece.plain :=
      formula.escapeFree_pieces width namesFree
    exact ⟨deleteEscapes_coloredText _ escapeFree, Terminal.run_coloredText _ escapeFree⟩

/-- A variable without a name, as a binder and as an operand, in a formula of two lines. -/
theorem colors_change_no_text_empty_name :
    (∀ v ∈ (universal (.ofList [⟨0⟩]) (comparison .lt (.var ⟨0⟩) (.var ⟨1⟩))).mentioned,
        EscapeFree (if v.id = 0 then "" else "x")) ∧
      deleteEscapes
        ((universal (.ofList [⟨0⟩]) (comparison .lt (.var ⟨0⟩) (.var ⟨1⟩))).renderColored
          (fun v => if v.id = 0 then "" else "x") 10 unicodeRuler) =
            "forall(\x7b\x7d.\n  ( < x))" := by
  have escapeFree : ∀ v ∈ (universal (.ofList [⟨0⟩])
      (comparison .lt (.var ⟨0⟩) (.var ⟨1⟩))).mentioned,
        EscapeFree (if v.id = 0 then "" else "x") := by
    intro v _
    split <;> decide
  refine ⟨escapeFree, ?_⟩
  rw [((colors_change_no_text unicodeRuler _ _ 10).2 escapeFree).1]
  decide +kernel

end Formula

end FloatLogic
