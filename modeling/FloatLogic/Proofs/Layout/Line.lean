import FloatLogic.Proofs.Layout.Flat

/-!
# Lines of a layout

A layout is split at its line breaks into lines, each with its indentation and the
pieces behind it.  On a line where a space was left in place of a line break, the
columns are to fit into the width.  `LinesFit` says so of the rest of a layout from
the middle of a line on: it keeps of that line only its columns so far and whether a
space was left on it.
-/

namespace FloatLogic.Layout

/-- A line of a layout: its indentation and the pieces behind it. -/
structure Line where
  indentation : Nat
  content : List Piece

namespace Line

/-- The text of a line. -/
def text (line : Line) : String := "".pushn ' ' line.indentation ++ Piece.plainText line.content

/-- The columns of a line, its indentation included. -/
def columns (ruler : Ruler) (line : Line) : Nat :=
  line.indentation + Piece.columns ruler line.content

end Line

namespace Piece

/-- The lines of a layout that goes on behind the beginning of a line. -/
def linesFrom (line : Line) : List Piece → List Line
  | [] => [line]
  | text style content :: rest =>
    linesFrom ⟨line.indentation, line.content ++ [text style content]⟩ rest
  | space :: rest => linesFrom ⟨line.indentation, line.content ++ [space]⟩ rest
  | newline indentation :: rest => line :: linesFrom ⟨indentation, []⟩ rest

/-- The lines of a layout. -/
def lines (pieces : List Piece) : List Line := linesFrom ⟨0, []⟩ pieces

/-! ## The text of the lines -/

theorem pushn_eq_append (content : String) (count : Nat) :
    content.pushn ' ' count = content ++ "".pushn ' ' count := by
  induction count with
  | zero => exact String.append_empty.symm
  | succ count inductionHypothesis =>
    calc content.pushn ' ' (count + 1)
        = (content.pushn ' ' count).push ' ' := rfl
      _ = (content ++ "".pushn ' ' count).push ' ' := by rw [inductionHypothesis]
      _ = content ++ ("".pushn ' ' count).push ' ' := by
          simp only [String.push_eq_append, String.append_assoc]
      _ = content ++ "".pushn ' ' (count + 1) := rfl

theorem linesFrom_ne_nil (line : Line) (pieces : List Piece) : linesFrom line pieces ≠ [] := by
  induction pieces generalizing line with
  | nil => simp [linesFrom]
  | cons piece rest inductionHypothesis => cases piece <;> simp [linesFrom, inductionHypothesis]

/-- The texts of the lines with line ends between them are the text of the layout. -/
theorem intercalate_linesFrom (line : Line) (pieces : List Piece) :
    "\n".intercalate ((linesFrom line pieces).map Line.text) = line.text ++ plainText pieces := by
  induction pieces generalizing line with
  | nil => simp [linesFrom, plainText]
  | cons piece rest inductionHypothesis =>
    cases piece with
    | text style content =>
      rw [linesFrom, inductionHypothesis]
      simp [Line.text, plainText, plain, String.append_assoc]
    | space =>
      rw [linesFrom, inductionHypothesis]
      simp [Line.text, plainText, plain, String.append_assoc]
    | newline indentation =>
      have more : (linesFrom ⟨indentation, []⟩ rest).map Line.text ≠ [] := by
        simp [linesFrom_ne_nil]
      rw [linesFrom, List.map_cons, String.intercalate_cons_of_ne_nil more, inductionHypothesis]
      simp only [Line.text, plainText, plain, List.map_cons, List.map_nil, String.join_cons,
        String.join_nil, String.append_empty, pushn_eq_append "\n", String.append_assoc]

theorem intercalate_lines (pieces : List Piece) :
    "\n".intercalate ((lines pieces).map Line.text) = plainText pieces := by
  rw [lines, intercalate_linesFrom]
  simp [Line.text, plainText, String.pushn, Nat.repeat]

/-! ## Lines that fit -/

/-- On every line from the given column on, the columns fit into the width if a space is
left on the line; `spaced` says whether there is one before the column. -/
def LinesFit (ruler : Ruler) (width : Nat) : (column : Nat) → (spaced : Bool) → List Piece → Prop
  | column, spaced, [] => spaced = true → column ≤ width
  | column, spaced, text _ content :: rest =>
    LinesFit ruler width (column + displayWidth ruler content) spaced rest
  | column, _, space :: rest => LinesFit ruler width (column + 1) true rest
  | column, spaced, newline indentation :: rest =>
    (spaced = true → column ≤ width) ∧ LinesFit ruler width indentation false rest

theorem linesFit_nil (width column : Nat) : LinesFit ruler width column false [] := by
  simp [LinesFit]

theorem linesFit_text_iff {width column : Nat} {spaced : Bool} {style : Option Style}
    {content : String} {rest : List Piece} :
    LinesFit ruler width column spaced (text style content :: rest) ↔
      LinesFit ruler width (column + displayWidth ruler content) spaced rest := Iff.rfl

/-- A line without a space may take any number of columns. -/
theorem linesFit_newline_iff {width column indentation : Nat} {rest : List Piece} :
    LinesFit ruler width column false (newline indentation :: rest) ↔
      LinesFit ruler width indentation false rest := by
  simp [LinesFit]

/-- `LinesFit` is about all lines, of which the first one has begun. -/
theorem linesFit_iff (width : Nat) (line : Line) (pieces : List Piece) :
    LinesFit ruler width (line.columns ruler) (decide (.space ∈ line.content)) pieces ↔
      ∀ other ∈ linesFrom line pieces, .space ∈ other.content → other.columns ruler ≤ width := by
  induction pieces generalizing line with
  | nil => simp [LinesFit, linesFrom]
  | cons piece rest inductionHypothesis =>
    cases piece with
    | text style content =>
      rw [linesFrom, ← inductionHypothesis]
      simp [LinesFit, Line.columns, columns, Piece.width, Nat.add_assoc]
    | space =>
      rw [linesFrom, ← inductionHypothesis]
      simp [LinesFit, Line.columns, columns, Piece.width, Nat.add_assoc]
    | newline indentation =>
      have below : LinesFit ruler width indentation false rest ↔
          ∀ other ∈ linesFrom ⟨indentation, []⟩ rest, .space ∈ other.content →
            other.columns ruler ≤ width := inductionHypothesis ⟨indentation, []⟩
      simp only [LinesFit, linesFrom, List.forall_mem_cons, decide_eq_true_eq, below]

/-- The columns up to the first line break. -/
def columnsAhead (ruler : Ruler) : List Piece → Nat
  | [] => 0
  | newline _ :: _ => 0
  | text _ content :: rest => displayWidth ruler content + columnsAhead ruler rest
  | space :: rest => 1 + columnsAhead ruler rest

variable {width column : Nat} {rest pieces : List Piece}

/-- A space before the column does no harm on a line that fits. -/
theorem LinesFit.spaced (fit : LinesFit ruler width column false rest)
    (fits : column + columnsAhead ruler rest ≤ width) (spaced : Bool) :
    LinesFit ruler width column spaced rest := by
  induction rest generalizing column with
  | nil => exact fun _ => fits
  | cons piece rest inductionHypothesis =>
    cases piece with
    | text style content =>
      rw [columnsAhead, ← Nat.add_assoc] at fits
      exact inductionHypothesis fit fits
    | space => exact fit
    | newline indentation => exact ⟨fun _ => fits, fit.2⟩

/-- Pieces on one line may stand before a layout if they fit together with the rest of
the line. -/
theorem LinesFit.append_left
    (fit : LinesFit ruler width (column + columns ruler pieces) false rest)
    (unbroken : ∀ indentation, .newline indentation ∉ pieces)
    (fits : column + columns ruler pieces + columnsAhead ruler rest ≤ width) (spaced : Bool) :
    LinesFit ruler width column spaced (pieces ++ rest) := by
  induction pieces generalizing column spaced with
  | nil => exact fit.spaced fits spaced
  | cons piece pieces inductionHypothesis =>
    have restUnbroken indentation : .newline indentation ∉ pieces :=
      List.not_mem_of_not_mem_cons (unbroken indentation)
    rw [columns, ← Nat.add_assoc] at fit fits
    cases piece with
    | text style content => exact inductionHypothesis fit restUnbroken fits spaced
    | space => exact inductionHypothesis fit restUnbroken fits true
    | newline indentation => exact absurd List.mem_cons_self (unbroken indentation)

/-- Pieces among which no line may end may stand before any layout. -/
theorem LinesFit.append_left_of_breaks_eq_nil
    (fit : LinesFit ruler width (column + columns ruler pieces) false rest)
    (unbreakable : breaks pieces = []) :
    LinesFit ruler width column false (pieces ++ rest) := by
  induction pieces generalizing column with
  | nil => exact fit
  | cons piece pieces inductionHypothesis =>
    rw [columns, ← Nat.add_assoc] at fit
    cases piece with
    | text style content => exact inductionHypothesis fit unbreakable
    | space => cases unbreakable
    | newline indentation => cases unbreakable

end Piece

end FloatLogic.Layout
