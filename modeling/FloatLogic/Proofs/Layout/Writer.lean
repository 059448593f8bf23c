import FloatLogic.Proofs.Layout.Content
import FloatLogic.Proofs.Layout.Printer

/-!
# Printing into a writer

A writer takes texts and two further calls, one that sets a style and one that resets
it.  The printer for writers keeps the resets that are due on its stack, between the
jobs; that it reads ahead over the jobs alone is why the styles do not change the
layout (`calls_print`).  Between two texts in a style it resets the style, and spaces and
line breaks are written without one (`Bracketed`).

The writer with colours turns the calls for a style into escape sequences, and the plain
writer drops them.
-/

namespace FloatLogic.Layout

/-- A call of a writer. -/
inductive WriterCall where
  | set (style : Style)
  | write (content : String)
  | reset
deriving DecidableEq

/-- The calls for a piece: a text in a style is written between a call that sets the
style and one that resets it. -/
def Piece.calls : Piece → List WriterCall
  | text (some style) content => [.set style, .write content, .reset]
  | piece => [.write piece.plain]

/-! ## The printer for writers -/

/-- An entry of the stack: a job, or a reset that is due. -/
inductive Entry (ruler : Ruler) where
  | print (job : Job ruler)
  | reset

variable {ruler : Ruler}

namespace Entry

/-- The job of an entry. -/
def job? : Entry ruler → Option (Job ruler)
  | print job => some job
  | reset => none

/-- The jobs of a stack. -/
def jobs (entries : List (Entry ruler)) : List (Job ruler) := entries.filterMap job?

theorem jobs_print (jobs : List (Job ruler)) : Entry.jobs (jobs.map print) = jobs := by
  rw [Entry.jobs, List.filterMap_map]
  exact List.filterMap_some

/-- The size of an entry; a text in a style leaves a reset behind. -/
def size : Entry ruler → Nat
  | print job => 2 * job.document.nodeCount
  | reset => 1

/-- The total size of a stack, which every step of the printer lowers. -/
def pendingSize (entries : List (Entry ruler)) : Nat :=
  entries.foldr (fun entry total => entry.size + total) 0

/-- Print a stack from a column on.  A text in a style sets the style, and puts its reset
onto the stack.  Jobs are laid out like those of the printer without a writer. -/
def calls (width : Nat) : (column : Nat) → List (Entry ruler) → List WriterCall
  | _, [] => []
  | column, reset :: rest => .reset :: calls width column rest
  | column, print ⟨_, _, .text none content⟩ :: rest =>
    .write content :: calls width (column + displayWidth ruler content) rest
  | column, print ⟨_, _, .text (some style) content⟩ :: rest =>
    .set style :: .write content ::
      calls width (column + displayWidth ruler content) (reset :: rest)
  | _, print ⟨indentation, true, .line⟩ :: rest =>
    .write ("\n".pushn ' ' (Job.lineStart indentation (jobs rest))) ::
      calls width (Job.lineStart indentation (jobs rest)) rest
  | column, print ⟨_, false, .line⟩ :: rest => .write " " :: calls width (column + 1) rest
  | column, print ⟨indentation, broken, .append first second⟩ :: rest =>
    calls width column
      (print ⟨indentation, broken, first⟩ :: print ⟨indentation, broken, second⟩ :: rest)
  | column, print ⟨indentation, broken, .nest amount body⟩ :: rest =>
    calls width column (print ⟨indentation + amount, broken, body⟩ :: rest)
  | column, print ⟨indentation, broken, .group body⟩ :: rest =>
    if broken && !Job.fits width column (⟨indentation, false, body⟩ :: jobs rest) then
      calls width column (print ⟨indentation, true, body⟩ :: rest)
    else
      calls width column (print ⟨indentation, false, body⟩ :: rest)
termination_by _ entries => pendingSize entries
decreasing_by
  all_goals simp only [pendingSize, List.foldr_cons, size, Document.nodeCount]
  all_goals omega

/-- The printer for writers lays jobs out like the one without a writer. -/
theorem calls_print (width column : Nat) (jobs : List (Job ruler)) :
    calls width column (jobs.map print) = (Job.print width column jobs).flatMap Piece.calls := by
  fun_induction Job.print width column jobs with
  | case1 column => rw [List.map_nil, calls, List.flatMap_nil]
  | case2 column indentation broken style content rest inductionHypothesis =>
    cases style with
    | none =>
      rw [List.map_cons, calls, inductionHypothesis]
      rfl
    | some style =>
      -- The reset that the text leaves on the stack is the next entry.
      rw [List.map_cons, calls, calls, inductionHypothesis]
      rfl
  | case3 column indentation rest inductionHypothesis =>
    rw [List.map_cons, calls, jobs_print, inductionHypothesis]
    rfl
  | case4 column indentation rest inductionHypothesis =>
    rw [List.map_cons, calls, inductionHypothesis]
    rfl
  | case5 column indentation broken first second rest inductionHypothesis =>
    rw [List.map_cons, calls]
    exact inductionHypothesis
  | case6 column indentation broken amount body rest inductionHypothesis =>
    rw [List.map_cons, calls]
    exact inductionHypothesis
  | case7 column indentation broken body rest breaks inductionHypothesis =>
    rw [List.map_cons, calls, jobs_print, if_pos breaks]
    exact inductionHypothesis
  | case8 column indentation broken body rest stays inductionHypothesis =>
    rw [List.map_cons, calls, jobs_print, if_neg stays]
    exact inductionHypothesis

end Entry

/-- The calls for a document that is printed within a width. -/
def Document.calls (document : Document ruler) (width : Nat) : List WriterCall :=
  Entry.calls width 0 [.print ⟨0, true, document⟩]

/-- A document is written piece by piece. -/
theorem Document.calls_eq (document : Document ruler) (closed : document.NestsClosed)
    (width : Nat) :
    document.calls width = (document.pieces width).flatMap Piece.calls := by
  rw [document.pieces_eq_print closed]
  exact Entry.calls_print width 0 [⟨0, true, document⟩]

/-! ## Writers -/

/-- What a writer does about styles. -/
structure Writer where
  /-- What it writes to set a style. -/
  setting : Style → String
  /-- What it writes to reset the style. -/
  resetting : String

namespace Writer

/-- The writer with colours. -/
def colored : Writer where
  setting style := Appearance.reset ++ style.appearance.settings
  resetting := Appearance.reset

/-- The writer without colours. -/
def plain : Writer where
  setting _ := ""
  resetting := ""

/-- What a call writes. -/
def perform (writer : Writer) : WriterCall → String
  | .set style => writer.setting style
  | .write content => content
  | .reset => writer.resetting

/-- What calls write one after the other. -/
def output (writer : Writer) (calls : List WriterCall) : String :=
  String.join (calls.map writer.perform)

theorem output_append (writer : Writer) (first second : List WriterCall) :
    writer.output (first ++ second) = writer.output first ++ writer.output second := by
  simp [output]

/-- What a writer writes for pieces is what it writes for each. -/
theorem output_pieces (writer : Writer) (pieces : List Piece) :
    writer.output (pieces.flatMap Piece.calls) =
      String.join (pieces.map fun piece => writer.output piece.calls) := by
  induction pieces with
  | nil => rfl
  | cons piece rest inductionHypothesis =>
    rw [List.flatMap_cons, output_append, inductionHypothesis, List.map_cons, String.join_cons]

/-- The writer with colours writes the pieces with their escape sequences. -/
theorem output_colored (pieces : List Piece) :
    colored.output (pieces.flatMap Piece.calls) = Piece.coloredText pieces := by
  have each (piece : Piece) : colored.output piece.calls = piece.colored := by
    rcases piece with ⟨_ | style, content⟩ | _ | indentation
    · simp [output, Piece.calls, perform, Piece.colored]
    · simp [output, Piece.calls, perform, colored, Piece.colored, Appearance.wrap,
        String.append_assoc]
    · simp [output, Piece.calls, perform, Piece.colored]
    · simp [output, Piece.calls, perform, Piece.colored]
  rw [output_pieces, Piece.coloredText, funext each]

/-- The plain writer writes the pieces alone. -/
theorem output_plain (pieces : List Piece) :
    plain.output (pieces.flatMap Piece.calls) = Piece.plainText pieces := by
  have each (piece : Piece) : plain.output piece.calls = piece.plain := by
    rcases piece with ⟨_ | style, content⟩ | _ | indentation <;>
      simp [output, Piece.calls, perform, plain, Piece.plain]
  rw [output_pieces, Piece.plainText, funext each]

end Writer

/-! ## Brackets around styled texts -/

/-- A space, or a line break with the indentation of the next line. -/
def IsBlank (content : String) : Prop :=
  content = " " ∨ ∃ indentation, content = "\n".pushn ' ' indentation

/-- The calls write the texts, each between a call that sets its style and one that
resets it, and what they write before, between and behind them is blank. -/
inductive Bracketed : (texts : List (Style × String)) → List WriterCall → Prop
  | done : Bracketed [] []
  | blank {content : String} {texts : List (Style × String)} {rest : List WriterCall} :
    IsBlank content → Bracketed texts rest → Bracketed texts (.write content :: rest)
  | styled (style : Style) (content : String) {texts : List (Style × String)}
    {rest : List WriterCall} : Bracketed texts rest →
      Bracketed ((style, content) :: texts) (.set style :: .write content :: .reset :: rest)

/-- Pieces are written with brackets around the styled texts if all other texts are
blank. -/
theorem bracketed_calls (pieces : List Piece)
    (blank : ∀ content, .text none content ∈ pieces → IsBlank content) :
    Bracketed (pieces.filterMap Piece.styled?) (pieces.flatMap Piece.calls) := by
  induction pieces with
  | nil => exact .done
  | cons piece rest inductionHypothesis =>
    have inner := inductionHypothesis fun content member =>
      blank content (List.mem_cons_of_mem piece member)
    rcases piece with ⟨_ | style, content⟩ | _ | indentation
    · exact .blank (blank content List.mem_cons_self) inner
    · exact .styled style content inner
    · exact .blank (.inl rfl) inner
    · exact .blank (.inr ⟨indentation, rfl⟩) inner

end FloatLogic.Layout
