import FloatLogic.Layout.Document

/-!
# What a terminal shows

A terminal receives characters one by one.  It shows each of them the way its settings
say, except for those of an escape sequence, which lasts from the escape character to the
next letter and may change the settings.

A terminal shows laid out pieces as their styles say and is left as it was found,
unless an escape character stands in a text (`run_coloredText`).
-/

namespace FloatLogic.Layout

/-- The colour with a digit. -/
def Color.ofDigit? : Char → Option Color
  | '1' => some red
  | '2' => some green
  | '3' => some yellow
  | '4' => some blue
  | '5' => some magenta
  | '6' => some cyan
  | '7' => some white
  | _ => none

/-- The appearance that follows an escape sequence, of which the first character is left
out. -/
def Appearance.after (appearance : Appearance) : List Char → Appearance
  | ['[', '0', 'm'] => {}
  | ['[', '1', 'm'] => { appearance with bold := true }
  | ['[', '2', 'm'] => { appearance with dimmed := true }
  | ['[', '3', digit, 'm'] =>
    match Color.ofDigit? digit with
    | some color => { appearance with foreground := some color }
    | none => appearance
  | _ => appearance

/-- The settings of a terminal, and what it has received of an escape sequence that is
not complete. -/
structure Terminal where
  appearance : Appearance := {}
  received : Option (List Char) := none
deriving DecidableEq

namespace Terminal

/-- Receive a character, and show it unless it belongs to an escape sequence. -/
def receive (terminal : Terminal) (character : Char) : Option (Char × Appearance) × Terminal :=
  match terminal.received with
  | none =>
    if character = '\x1b' then (none, { terminal with received := some [] })
    else (some (character, terminal.appearance), terminal)
  | some sequence =>
    if character.isAlpha then
      (none, { appearance := terminal.appearance.after (sequence ++ [character]) })
    else (none, { terminal with received := some (sequence ++ [character]) })

/-- Receive characters one after the other.  The result is what the terminal shows, each
character with its appearance, and the terminal afterwards. -/
def run : Terminal → List Char → List (Char × Appearance) × Terminal
  | terminal, [] => ([], terminal)
  | terminal, character :: rest =>
    let (shown, next) := terminal.receive character
    let (cells, last) := next.run rest
    (shown.toList ++ cells, last)

theorem run_cons (terminal : Terminal) (character : Char) (rest : List Char) :
    terminal.run (character :: rest) =
      ((terminal.receive character).1.toList ++ ((terminal.receive character).2.run rest).1,
        ((terminal.receive character).2.run rest).2) := rfl

/-- Receiving goes on where it stopped. -/
theorem run_append {terminal next last : Terminal} {first second : List Char}
    {cells others : List (Char × Appearance)} (firstRun : terminal.run first = (cells, next))
    (secondRun : next.run second = (others, last)) :
    terminal.run (first ++ second) = (cells ++ others, last) := by
  induction first generalizing terminal cells with
  | nil =>
    cases firstRun
    exact secondRun
  | cons character rest inductionHypothesis =>
    rw [run_cons] at firstRun
    obtain ⟨rfl, rfl⟩ := Prod.mk.inj firstRun
    rw [List.cons_append, run_cons, inductionHypothesis rfl, List.append_assoc]

/-- Characters without an escape character are all shown, and change nothing. -/
theorem run_of_escape_notMem (appearance : Appearance) {characters : List Char}
    (escapeFree : '\x1b' ∉ characters) :
    run { appearance } characters = (characters.map fun c => (c, appearance), { appearance }) := by
  induction characters with
  | nil => rfl
  | cons character rest inductionHypothesis =>
    rw [List.mem_cons, not_or] at escapeFree
    rcases escapeFree with ⟨other, restFree⟩
    have received : receive { appearance } character =
        (some (character, appearance), { appearance }) := if_neg (Ne.symm other)
    rw [run_cons, received, inductionHypothesis restFree]
    rfl

theorem run_reset (appearance : Appearance) :
    run { appearance } Appearance.reset.toList = ([], {}) := rfl

/-- The settings of an appearance lead from the one without any to it. -/
theorem run_settings (appearance : Appearance) :
    run {} appearance.settings.toList = ([], { appearance }) := by
  rcases appearance with ⟨_ | _, _ | _, _ | (_ | _ | _ | _ | _ | _ | _)⟩ <;> rfl

end Terminal

/-! ## Escape sequences taken out -/

/-- No escape character stands in a text. -/
def EscapeFree (text : String) : Prop := '\x1b' ∉ text.toList

instance (text : String) : Decidable (EscapeFree text) :=
  inferInstanceAs (Decidable ('\x1b' ∉ text.toList))

@[simp]
theorem escapeFree_append_iff {first second : String} :
    EscapeFree (first ++ second) ↔ EscapeFree first ∧ EscapeFree second := by
  simp [EscapeFree]

/-- The characters without escape sequences.  They begin `inside` of one or not. -/
def withoutEscapes : (inside : Bool) → List Char → List Char
  | _, [] => []
  | false, character :: rest =>
    if character = '\x1b' then withoutEscapes true rest
    else character :: withoutEscapes false rest
  | true, character :: rest => withoutEscapes (!character.isAlpha) rest

/-- A text without its escape sequences. -/
def deleteEscapes (text : String) : String := .ofList (withoutEscapes false text.toList)

/-- What remains are the characters that a terminal shows. -/
theorem withoutEscapes_eq (terminal : Terminal) (characters : List Char) :
    withoutEscapes terminal.received.isSome characters =
      (terminal.run characters).1.map Prod.fst := by
  induction characters generalizing terminal with
  | nil => cases terminal.received.isSome <;> rfl
  | cons character rest inductionHypothesis =>
    rw [Terminal.run_cons, List.map_append, ← inductionHypothesis]
    rcases terminal with ⟨appearance, _ | sequence⟩
    · by_cases escape : character = '\x1b'
      · simp [withoutEscapes, Terminal.receive, escape]
      · simp [withoutEscapes, Terminal.receive, escape]
    · by_cases letter : character.isAlpha = true
      · simp [withoutEscapes, Terminal.receive, letter]
      · simp [withoutEscapes, Terminal.receive, letter]

/-! ## Laid out pieces -/

namespace Piece

/-- The appearance of a piece; spaces and line breaks have no settings. -/
def appearance : Piece → Appearance
  | text (some style) _ => style.appearance
  | _ => {}

/-- The characters of a piece with the appearance of the piece. -/
def cells (piece : Piece) : List (Char × Appearance) :=
  piece.plain.toList.map fun character => (character, piece.appearance)

theorem map_fst_cells (pieces : List Piece) :
    (pieces.flatMap cells).map Prod.fst = (plainText pieces).toList := by
  induction pieces with
  | nil => rfl
  | cons piece rest inductionHypothesis =>
    have first : piece.cells.map Prod.fst = piece.plain.toList := by
      rw [cells, List.map_map]
      exact List.map_id _
    rw [List.flatMap_cons, List.map_append, first, inductionHypothesis]
    simp only [plainText, List.map_cons, String.join_cons, String.toList_append]

end Piece

theorem escapeFree_newline (indentation : Nat) :
    EscapeFree (Piece.newline indentation).plain := by
  induction indentation with
  | zero => decide
  | succ indentation inductionHypothesis =>
    have spaced : (Piece.newline (indentation + 1)).plain =
        (Piece.newline indentation).plain.push ' ' := rfl
    rw [spaced, String.push_eq_append, escapeFree_append_iff]
    exact ⟨inductionHypothesis, by decide⟩

namespace Terminal

/-- A terminal without settings shows a piece as its style says, and has no settings
afterwards. -/
theorem run_colored (piece : Piece) (escapeFree : EscapeFree piece.plain) :
    run {} piece.colored.toList = (piece.cells, {}) := by
  rcases piece with ⟨_ | style, content⟩ | _ | indentation
  · exact run_of_escape_notMem {} escapeFree
  · have shown := run_of_escape_notMem style.appearance escapeFree
    have wrapped : (Piece.text (some style) content).colored.toList =
        Appearance.reset.toList ++ (style.appearance.settings.toList ++
          (content.toList ++ Appearance.reset.toList)) := by
      simp [Piece.colored, Appearance.wrap, List.append_assoc]
    have written := run_append shown (run_reset style.appearance)
    rw [List.append_nil] at written
    rw [wrapped]
    exact run_append (run_reset {}) (run_append (run_settings style.appearance) written)
  · exact run_of_escape_notMem {} escapeFree
  · exact run_of_escape_notMem {} escapeFree

/-- A terminal without settings shows pieces as their styles say, and has no settings
afterwards. -/
theorem run_coloredText (pieces : List Piece)
    (escapeFree : ∀ piece ∈ pieces, EscapeFree piece.plain) :
    run {} (Piece.coloredText pieces).toList = (pieces.flatMap Piece.cells, {}) := by
  induction pieces with
  | nil => rfl
  | cons piece rest inductionHypothesis =>
    have shown := run_colored piece (escapeFree piece List.mem_cons_self)
    have others := inductionHypothesis fun other member =>
      escapeFree other (List.mem_cons_of_mem piece member)
    rw [Piece.coloredText, List.map_cons, String.join_cons, String.toList_append,
      List.flatMap_cons]
    exact run_append shown others

end Terminal

/-- Without the escape sequences the coloured text is the plain one. -/
theorem deleteEscapes_coloredText (pieces : List Piece)
    (escapeFree : ∀ piece ∈ pieces, EscapeFree piece.plain) :
    deleteEscapes (Piece.coloredText pieces) = Piece.plainText pieces := by
  have shown := Terminal.run_coloredText pieces escapeFree
  have remaining := withoutEscapes_eq {} (Piece.coloredText pieces).toList
  rw [shown, Piece.map_fst_cells] at remaining
  rw [deleteEscapes]
  exact (congrArg String.ofList remaining).trans String.ofList_toList

end FloatLogic.Layout
