import Mathlib.Logic.Basic
import FloatLogic.Layout.Document

/-!
# Line breaks of a layout

A document is a sequence of segments: text that stands in every layout, and
spaces at which a line may end.  Each such space knows the indentation of the
line that would begin there.  A layout chooses at which of the spaces lines end,
and changes nothing else; neither the width nor the groups have a say in what the
segments are.
-/

namespace FloatLogic.Layout

/-- A part of a text on one line: text that always stands there, or a space at
which the line may end, with the indentation of the line after it. -/
inductive Segment where
  | fixed (content : String)
  | breakable (indentation : Nat)
deriving DecidableEq

namespace Segment

/-- The number of spaces at which a line may end. -/
def breakableCount : List Segment → Nat
  | [] => 0
  | fixed _ :: rest => breakableCount rest
  | breakable _ :: rest => breakableCount rest + 1

/-- The text in which lines end at the chosen spaces.  There is one choice for
each breakable space, from left to right; a space for which there is none
stays. -/
def spell : List Segment → (broken : List Bool) → String
  | [], _ => ""
  | fixed content :: rest, broken => content ++ spell rest broken
  | breakable _ :: rest, [] => " " ++ spell rest []
  | breakable _ :: rest, false :: broken => " " ++ spell rest broken
  | breakable indentation :: rest, true :: broken =>
    "\n".pushn ' ' indentation ++ spell rest broken

@[simp]
theorem breakableCount_append (first second : List Segment) :
    breakableCount (first ++ second) = breakableCount first + breakableCount second := by
  induction first with
  | nil => simp [breakableCount]
  | cons segment rest inductionHypothesis =>
    cases segment with
    | fixed content => simpa [breakableCount] using inductionHypothesis
    | breakable indentation =>
      simp only [List.cons_append, breakableCount, inductionHypothesis]
      omega

/-- The second of two parts uses the choices that the first one leaves. -/
theorem spell_append (first second : List Segment) (broken : List Bool) :
    spell (first ++ second) broken =
      spell first broken ++ spell second (broken.drop (breakableCount first)) := by
  induction first generalizing broken with
  | nil => simp [spell, breakableCount]
  | cons segment rest inductionHypothesis =>
    cases segment with
    | fixed content =>
      simp only [List.cons_append, spell, breakableCount, inductionHypothesis, String.append_assoc]
    | breakable indentation =>
      cases broken with
      | nil =>
        simp only [List.cons_append, spell, inductionHypothesis, List.drop_nil,
          String.append_assoc]
      | cons choice broken =>
        cases choice <;>
          simp only [List.cons_append, spell, breakableCount, inductionHypothesis,
            List.drop_succ_cons, String.append_assoc]

/-- Choices beyond the breakable spaces of a text have no effect on it. -/
theorem spell_append_choices (segments : List Segment) (broken more : List Bool)
    (enough : broken.length = breakableCount segments) :
    spell segments (broken ++ more) = spell segments broken := by
  induction segments generalizing broken with
  | nil => rfl
  | cons segment rest inductionHypothesis =>
    cases segment with
    | fixed content =>
      simp only [spell]
      rw [inductionHypothesis broken enough]
    | breakable indentation =>
      cases broken with
      | nil => simp [breakableCount] at enough
      | cons choice broken =>
        have restEnough : broken.length = breakableCount rest := by
          simpa [breakableCount] using enough
        cases choice <;>
          simp only [List.cons_append, spell, inductionHypothesis broken restEnough]

/-- Choices that end no line leave the text on one line. -/
theorem spell_of_true_notMem (segments : List Segment) (broken : List Bool)
    (unbroken : true ∉ broken) : spell segments broken = spell segments [] := by
  induction segments generalizing broken with
  | nil => rfl
  | cons segment rest inductionHypothesis =>
    cases segment with
    | fixed content => simp only [spell, inductionHypothesis broken unbroken]
    | breakable indentation =>
      rcases broken with _ | ⟨(_ | _), broken⟩
      · rfl
      · simp only [spell, inductionHypothesis broken (List.not_mem_of_not_mem_cons unbroken)]
      · exact absurd List.mem_cons_self unbroken

/-- A line break takes at least as many characters as the space in its place. -/
theorem length_spell_nil_le (segments : List Segment) (broken : List Bool) :
    (spell segments []).length ≤ (spell segments broken).length := by
  induction segments generalizing broken with
  | nil => exact Nat.le_refl _
  | cons segment rest inductionHypothesis =>
    cases segment with
    | fixed content =>
      simp only [spell, String.length_append]
      exact Nat.add_le_add_left (inductionHypothesis broken) _
    | breakable indentation =>
      rcases broken with _ | ⟨(_ | _), broken⟩
      · exact Nat.le_refl _
      · simp only [spell, String.length_append]
        exact Nat.add_le_add_left (inductionHypothesis broken) _
      · simp only [spell, String.length_append, String.length_pushn]
        exact Nat.add_le_add (Nat.le_add_right _ _) (inductionHypothesis broken)

/-- An indented line break takes more characters than the space in its place. -/
theorem length_spell_nil_lt (segments : List Segment) (broken : List Bool)
    (indented : ∀ indentation, breakable indentation ∈ segments → 0 < indentation)
    (within : broken.length ≤ breakableCount segments) (chosen : true ∈ broken) :
    (spell segments []).length < (spell segments broken).length := by
  induction segments generalizing broken with
  | nil =>
    rw [breakableCount, Nat.le_zero, List.length_eq_zero_iff] at within
    rw [within] at chosen
    cases chosen
  | cons segment rest inductionHypothesis =>
    have restIndented indentation (mem : breakable indentation ∈ rest) : 0 < indentation :=
      indented indentation (List.mem_cons_of_mem _ mem)
    cases segment with
    | fixed content =>
      simp only [spell, String.length_append]
      exact Nat.add_lt_add_left (inductionHypothesis broken restIndented within chosen) _
    | breakable indentation =>
      rcases broken with _ | ⟨(_ | _), broken⟩
      · cases chosen
      · simp only [spell, String.length_append]
        apply Nat.add_lt_add_left
        exact inductionHypothesis broken restIndented (Nat.le_of_succ_le_succ within)
          (by simpa using chosen)
      · simp only [spell, String.length_append, String.length_pushn]
        apply Nat.add_lt_add_of_lt_of_le
        · exact Nat.lt_add_of_pos_right (indented indentation List.mem_cons_self)
        · exact length_spell_nil_le rest broken

/-- If every line break is indented, a text is spelled as on one line only where no line
ends. -/
theorem spell_eq_spell_nil_iff (segments : List Segment) (broken : List Bool)
    (indented : ∀ indentation, breakable indentation ∈ segments → 0 < indentation)
    (within : broken.length ≤ breakableCount segments) :
    spell segments broken = spell segments [] ↔ true ∉ broken := by
  constructor
  · intro same chosen
    have longer := length_spell_nil_lt segments broken indented within chosen
    rw [same] at longer
    exact Nat.lt_irrefl _ longer
  · exact spell_of_true_notMem segments broken

end Segment

variable {ruler : Ruler}

/-- The segments of a document inside nests of the given total amount. -/
def Document.segments (indentation : Nat) : Document ruler → List Segment
  | text _ content => [.fixed content]
  | line => [.breakable indentation]
  | append first second => first.segments indentation ++ second.segments indentation
  | nest amount body => body.segments (indentation + amount)
  | group body => body.segments indentation

namespace Piece

/-- Whether a line ends at a piece, if the piece is a place where one may end. -/
def break? : Piece → Option Bool
  | text _ _ => none
  | space => some false
  | newline _ => some true

/-- At which of the breakable spaces lines end, from left to right. -/
def breaks (pieces : List Piece) : List Bool := pieces.filterMap break?

theorem breaks_append (first second : List Piece) :
    breaks (first ++ second) = breaks first ++ breaks second := List.filterMap_append

theorem plainText_append (first second : List Piece) :
    plainText (first ++ second) = plainText first ++ plainText second := by
  simp [plainText]

end Piece

namespace Document

open Segment Piece

/-- A layout of a document makes one choice for each breakable space and writes
the segments with these choices. -/
theorem layout_spells (document : Document ruler) (width : Nat) (broken : Bool)
    (indentation column after : Nat) :
    let pieces := (document.layout width broken indentation column after).1
    (breaks pieces).length = breakableCount (document.segments indentation) ∧
      plainText pieces = spell (document.segments indentation) (breaks pieces) := by
  induction document generalizing broken indentation column after with
  | text style content =>
    simp [layout, segments, breaks, break?, breakableCount, spell, plainText, plain]
  | line =>
    cases broken <;>
      simp [layout, segments, breaks, break?, breakableCount, spell, plainText, plain]
  | append first second firstHypothesis secondHypothesis =>
    obtain ⟨firstCount, firstText⟩ :=
      firstHypothesis broken indentation column (second.lookahead after)
    obtain ⟨secondCount, secondText⟩ := secondHypothesis broken indentation
      (first.layout width broken indentation column (second.lookahead after)).2 after
    simp only [layout, segments, breaks_append, plainText_append, List.length_append,
      breakableCount_append]
    constructor
    · rw [firstCount, secondCount]
    · rw [firstText, secondText, spell_append, spell_append_choices _ _ _ firstCount,
        ← firstCount, List.drop_left]
  | nest amount body inductionHypothesis =>
    exact inductionHypothesis broken (indentation + amount) column after
  | group body inductionHypothesis =>
    exact inductionHypothesis _ indentation column after

end Document

end FloatLogic.Layout
