import FloatLogic.Proofs.Layout.Segment
import Mathlib.Data.List.Forall2

/-!
# Flat layouts

Laid out flat, a document is always the same pieces, whatever the width, the column
and what follows; they hold a space for every line end and no line break.  A group
is laid out flat exactly if its columns fit into the width, together with those
before it and behind it on the line.
-/

namespace FloatLogic.Layout

variable {ruler : Ruler}

namespace Piece

/-- The columns of a piece, the indentation behind a line break not counted. -/
def width (ruler : Ruler) : Piece → Nat
  | text _ content => displayWidth ruler content
  | space => 1
  | newline _ => 0

/-- The columns of pieces that stand on one line. -/
def columns (ruler : Ruler) : List Piece → Nat
  | [] => 0
  | piece :: rest => piece.width ruler + columns ruler rest

@[simp]
theorem columns_append (first second : List Piece) :
    columns ruler (first ++ second) = columns ruler first + columns ruler second := by
  induction first with
  | nil => simp [columns]
  | cons piece rest inductionHypothesis =>
    simp only [List.cons_append, columns, inductionHypothesis, Nat.add_assoc]

@[simp]
theorem breaks_nil : breaks [] = [] := rfl

@[simp]
theorem breaks_text_cons (style : Option Style) (content : String) (rest : List Piece) :
    breaks (text style content :: rest) = breaks rest := rfl

@[simp]
theorem breaks_space_cons (rest : List Piece) : breaks (space :: rest) = false :: breaks rest := rfl

@[simp]
theorem breaks_newline_cons (indentation : Nat) (rest : List Piece) :
    breaks (newline indentation :: rest) = true :: breaks rest := rfl

/-- A line ends somewhere exactly if there is a line break among the pieces. -/
theorem true_mem_breaks_iff (pieces : List Piece) :
    true ∈ breaks pieces ↔ ∃ indentation, newline indentation ∈ pieces := by
  induction pieces with
  | nil => simp
  | cons piece rest inductionHypothesis => cases piece <;> simp [inductionHypothesis]

/-- Of two choices of line breaks for the same places, the second one has a break wherever
the first one has. -/
def FewerBreaks (fewer more : List Bool) : Prop :=
  List.Forall₂ (fun first second => first = true → second = true) fewer more

theorem FewerBreaks.append {fewer more fewerRest moreRest : List Bool}
    (first : FewerBreaks fewer more) (rest : FewerBreaks fewerRest moreRest) :
    FewerBreaks (fewer ++ fewerRest) (more ++ moreRest) := List.rel_append first rest

theorem FewerBreaks.count_le {fewer more : List Bool} (implied : FewerBreaks fewer more) :
    fewer.count true ≤ more.count true := by
  induction implied with
  | nil => exact Nat.le_refl _
  | @cons first second _ _ implies _ inductionHypothesis =>
    cases first with
    | false => exact Nat.le_trans inductionHypothesis (List.count_le_count_cons ..)
    | true =>
      rw [implies rfl]
      simpa using inductionHypothesis

end Piece

namespace Document

open Piece

/-- The pieces of a document on one line. -/
def flatPieces : Document ruler → List Piece
  | text style content => [.text style content]
  | line => [.space]
  | append first second => first.flatPieces ++ second.flatPieces
  | nest _ body => body.flatPieces
  | group body => body.flatPieces

variable {width column after : Nat} {broken : Bool}

theorem columns_flatPieces (document : Document ruler) :
    columns ruler document.flatPieces = document.flatWidth := by
  induction document with
  | text style content => rfl
  | line => rfl
  | append first second firstHypothesis secondHypothesis =>
    rw [flatPieces, columns_append, firstHypothesis, secondHypothesis, flatWidth]
  | nest amount body inductionHypothesis => exact inductionHypothesis
  | group body inductionHypothesis => exact inductionHypothesis

theorem newline_notMem_flatPieces (document : Document ruler) (indentation : Nat) :
    .newline indentation ∉ document.flatPieces := by
  induction document with
  | text style content => simp [flatPieces]
  | line => simp [flatPieces]
  | append first second firstHypothesis secondHypothesis =>
    rw [flatPieces, List.mem_append, not_or]
    exact ⟨firstHypothesis, secondHypothesis⟩
  | nest amount body inductionHypothesis => exact inductionHypothesis
  | group body inductionHypothesis => exact inductionHypothesis

/-- No line ends in a flat layout. -/
theorem true_notMem_breaks_flatPieces (document : Document ruler) :
    true ∉ breaks document.flatPieces := by
  rw [true_mem_breaks_iff]
  rintro ⟨indentation, mem⟩
  exact document.newline_notMem_flatPieces indentation mem

theorem breaks_flatPieces_eq_nil (document : Document ruler)
    (unbreakable : document.breakable = false) : breaks document.flatPieces = [] := by
  induction document with
  | text style content => rfl
  | line => cases unbreakable
  | append first second firstHypothesis secondHypothesis =>
    obtain ⟨firstUnbreakable, secondUnbreakable⟩ := Bool.or_eq_false_iff.mp unbreakable
    rw [flatPieces, breaks_append, firstHypothesis firstUnbreakable,
      secondHypothesis secondUnbreakable, List.append_nil]
  | nest amount body inductionHypothesis => exact inductionHypothesis unbreakable
  | group body inductionHypothesis => exact inductionHypothesis unbreakable

/-! ## Layouts that are flat -/

theorem layout_false (document : Document ruler) (indentation : Nat) :
    document.layout width false indentation column after =
      (document.flatPieces, column + document.flatWidth) := by
  induction document generalizing indentation column after with
  | text style content => rfl
  | line => rfl
  | append first second firstHypothesis secondHypothesis =>
    simp only [layout, firstHypothesis, secondHypothesis, flatPieces, flatWidth, Nat.add_assoc]
  | nest amount body inductionHypothesis => exact inductionHypothesis (indentation + amount)
  | group body inductionHypothesis => exact inductionHypothesis indentation

/-- A document without line ends has no other layout than the flat one. -/
theorem layout_of_breakable_eq_false (document : Document ruler) (indentation : Nat)
    (unbreakable : document.breakable = false) :
    document.layout width broken indentation column after =
      (document.flatPieces, column + document.flatWidth) := by
  induction document generalizing broken indentation column after with
  | text style content => rfl
  | line => cases unbreakable
  | append first second firstHypothesis secondHypothesis =>
    obtain ⟨firstUnbreakable, secondUnbreakable⟩ := Bool.or_eq_false_iff.mp unbreakable
    simp only [layout, firstHypothesis _ firstUnbreakable, secondHypothesis _ secondUnbreakable,
      flatPieces, flatWidth, Nat.add_assoc]
  | nest amount body inductionHypothesis =>
    exact inductionHypothesis (indentation + amount) unbreakable
  | group body inductionHypothesis => exact inductionHypothesis indentation unbreakable

/-- A group that fits is laid out flat. -/
theorem layout_group_of_le (body : Document ruler) (indentation : Nat)
    (fits : column + body.flatWidth + after ≤ width) :
    (group body).layout width broken indentation column after =
      (body.flatPieces, column + body.flatWidth) := by
  rw [layout, decide_eq_false (Nat.not_lt.mpr fits), Bool.and_false, layout_false]

/-- A group that does not fit is laid out as if there were no group. -/
theorem layout_group_of_lt (body : Document ruler) (indentation : Nat)
    (overflows : width < column + (group body).flatWidth + after) :
    (group body).layout width broken indentation column after =
      body.layout width broken indentation column after := by
  rw [flatWidth] at overflows
  rw [layout, decide_eq_true overflows, Bool.and_true]

/-- A flat layout has no line break, so any other layout of the document has one wherever
the flat one has. -/
theorem fewerBreaks_flatPieces (document : Document ruler) (indentation : Nat) :
    FewerBreaks (breaks document.flatPieces)
      (breaks (document.layout width broken indentation column after).1) := by
  induction document generalizing broken indentation column after with
  | text style content => exact .nil
  | line => cases broken <;> exact .cons (by simp) .nil
  | append first second firstHypothesis secondHypothesis =>
    simp only [layout, flatPieces, breaks_append]
    exact (firstHypothesis indentation).append (secondHypothesis indentation)
  | nest amount body inductionHypothesis => exact inductionHypothesis (indentation + amount)
  | group body inductionHypothesis => exact inductionHypothesis indentation

end Document

end FloatLogic.Layout
