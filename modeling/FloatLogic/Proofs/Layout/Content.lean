import FloatLogic.Proofs.Layout.Flat

/-!
# The content of a layout

Layouts of a document differ in their spaces and line breaks only.  Whatever is read
off the texts of a layout can be read off the flat one.
-/

namespace FloatLogic.Layout

namespace Piece

/-- The style and the content of a text. -/
def text? : Piece → Option (Option Style × String)
  | text style content => some (style, content)
  | _ => none

theorem text?_eq_some_iff {piece : Piece} {style : Option Style} {content : String} :
    piece.text? = some (style, content) ↔ piece = text style content := by
  cases piece <;> simp [text?]

/-- The style and the content of a text that has a style. -/
def styled? : Piece → Option (Style × String)
  | text (some style) content => some (style, content)
  | _ => none

end Piece

namespace Document

variable {ruler : Ruler} {width column after : Nat} {broken : Bool}

/-- A reading that passes over spaces and line breaks finds in every layout what it
finds in the flat one. -/
theorem filterMap_layout {α : Type} {read : Piece → Option α} (document : Document ruler)
    (indentation : Nat) (passesSpace : read .space = none)
    (passesNewline : ∀ indentation, read (.newline indentation) = none) :
    (document.layout width broken indentation column after).1.filterMap read =
      document.flatPieces.filterMap read := by
  induction document generalizing broken indentation column after with
  | text style content => rfl
  | line => cases broken <;> simp [layout, flatPieces, passesSpace, passesNewline]
  | append first second firstHypothesis secondHypothesis =>
    simp only [layout, flatPieces, List.filterMap_append, firstHypothesis, secondHypothesis]
  | nest amount body inductionHypothesis => exact inductionHypothesis (indentation + amount)
  | group body inductionHypothesis => exact inductionHypothesis indentation

/-- The texts of a layout are those of the flat one. -/
theorem text_mem_layout_iff {style : Option Style} {content : String} (document : Document ruler)
    (indentation : Nat) :
    .text style content ∈ (document.layout width broken indentation column after).1 ↔
      .text style content ∈ document.flatPieces := by
  have found (pieces : List Piece) :
      .text style content ∈ pieces ↔ (style, content) ∈ pieces.filterMap Piece.text? := by
    simp [List.mem_filterMap, Piece.text?_eq_some_iff]
  rw [found, found, document.filterMap_layout indentation rfl fun _ => rfl]

end Document

end FloatLogic.Layout
