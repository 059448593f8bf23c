import FloatLogic.Proofs.Layout.Flat

/-!
# A printer with a stack of jobs

The layout of a document is defined by recursion on the document.  This file
defines the printer that keeps a stack of jobs instead: a job is a document with
the indentation and the mode in force for it.  The printer tries a group flat and
reads ahead over the whole stack, up to the first line break, to see whether it
fits; and it begins a new line with the indentation of the *next* job on the
stack.

The two agree on documents in which no nest ends in a line end
(`pieces_eq_print`).  For other documents they do not: such a line end is the last
of its nest, and the next job is outside of it.
-/

namespace FloatLogic.Layout

/-- A document that is still to be printed.  The line ends of a broken job become
line breaks. -/
structure Job (ruler : Ruler) where
  indentation : Nat
  broken : Bool
  document : Document ruler

variable {ruler : Ruler}

namespace Document

/-- The number of nodes. -/
def nodeCount : Document ruler → Nat
  | text _ _ => 1
  | line => 1
  | append first second => first.nodeCount + second.nodeCount + 1
  | nest _ body => body.nodeCount + 1
  | group body => body.nodeCount + 1

end Document

namespace Job

/-- The total size of the jobs, which every step of the printer lowers. -/
def pendingSize (jobs : List (Job ruler)) : Nat :=
  jobs.foldr (fun job total => job.document.nodeCount + total) 0

/-- Whether the jobs fit into the width from a column on, up to the first line
break. -/
def fits (width : Nat) : (column : Nat) → List (Job ruler) → Bool
  | column, [] => decide (column ≤ width)
  | column, ⟨_, _, .text _ content⟩ :: rest =>
    decide (column ≤ width) && fits width (column + displayWidth ruler content) rest
  | column, ⟨_, true, .line⟩ :: _ => decide (column ≤ width)
  | column, ⟨_, false, .line⟩ :: rest => decide (column ≤ width) && fits width (column + 1) rest
  | column, ⟨indentation, broken, .append first second⟩ :: rest =>
    fits width column (⟨indentation, broken, first⟩ :: ⟨indentation, broken, second⟩ :: rest)
  | column, ⟨indentation, broken, .nest amount body⟩ :: rest =>
    fits width column (⟨indentation + amount, broken, body⟩ :: rest)
  | column, ⟨indentation, broken, .group body⟩ :: rest =>
    fits width column (⟨indentation, broken, body⟩ :: rest)
termination_by _ jobs => pendingSize jobs
decreasing_by
  all_goals simp only [pendingSize, List.foldr_cons, Document.nodeCount]
  all_goals omega

/-- The indentation of a line that begins before the given jobs. -/
def lineStart (indentation : Nat) : List (Job ruler) → Nat
  | [] => indentation
  | job :: _ => job.indentation

/-- Print the jobs from a column on.  A group is laid out flat if it is inside a
flat one, or if it fits together with the jobs behind it. -/
def print (width : Nat) : (column : Nat) → List (Job ruler) → List Piece
  | _, [] => []
  | column, ⟨_, _, .text style content⟩ :: rest =>
    .text style content :: print width (column + displayWidth ruler content) rest
  | _, ⟨indentation, true, .line⟩ :: rest =>
    .newline (lineStart indentation rest) :: print width (lineStart indentation rest) rest
  | column, ⟨_, false, .line⟩ :: rest => .space :: print width (column + 1) rest
  | column, ⟨indentation, broken, .append first second⟩ :: rest =>
    print width column (⟨indentation, broken, first⟩ :: ⟨indentation, broken, second⟩ :: rest)
  | column, ⟨indentation, broken, .nest amount body⟩ :: rest =>
    print width column (⟨indentation + amount, broken, body⟩ :: rest)
  | column, ⟨indentation, broken, .group body⟩ :: rest =>
    if broken && !fits width column (⟨indentation, false, body⟩ :: rest) then
      print width column (⟨indentation, true, body⟩ :: rest)
    else
      print width column (⟨indentation, false, body⟩ :: rest)
termination_by _ jobs => pendingSize jobs
decreasing_by
  all_goals simp only [pendingSize, List.foldr_cons, Document.nodeCount]
  all_goals omega

end Job

/-! ## Reading ahead -/

/-- What follows a document with a line end does not count, since the line ends
before it. -/
theorem Document.lookahead_eq (document : Document ruler) (after : Nat) :
    document.lookahead after =
      if document.breakable then document.lookahead 0 else document.flatWidth + after := by
  induction document generalizing after with
  | text style content => simp [lookahead, breakable]
  | line => simp [lookahead, breakable]
  | append first second firstHypothesis secondHypothesis =>
    by_cases firstBreakable : first.breakable = true
    · simp [lookahead, breakable, firstBreakable]
    · rw [lookahead, lookahead, secondHypothesis after]
      by_cases secondBreakable : second.breakable = true
      · simp [breakable, firstBreakable, secondBreakable]
      · simp [breakable, flatWidth, firstBreakable, secondBreakable, Nat.add_assoc]
  | nest amount body inductionHypothesis => exact inductionHypothesis after
  | group body inductionHypothesis => exact inductionHypothesis after

namespace Job

/-- The columns that the jobs take up to the first line break. -/
def columnsAhead : List (Job ruler) → Nat
  | [] => 0
  | ⟨_, true, document⟩ :: rest => document.lookahead (columnsAhead rest)
  | ⟨_, false, document⟩ :: rest => document.flatWidth + columnsAhead rest

theorem columnsAhead_append (indentation : Nat) (broken : Bool) (first second : Document ruler)
    (rest : List (Job ruler)) :
    columnsAhead (⟨indentation, broken, first⟩ :: ⟨indentation, broken, second⟩ :: rest) =
      columnsAhead (⟨indentation, broken, .append first second⟩ :: rest) := by
  cases broken with
  | false => simp only [columnsAhead, Document.flatWidth, Nat.add_assoc]
  | true =>
    simp only [columnsAhead, Document.lookahead]
    exact first.lookahead_eq _

theorem columnsAhead_nest (indentation amount : Nat) (broken : Bool) (body : Document ruler)
    (rest : List (Job ruler)) :
    columnsAhead (⟨indentation + amount, broken, body⟩ :: rest) =
      columnsAhead (⟨indentation, broken, .nest amount body⟩ :: rest) := by
  cases broken <;> rfl

theorem columnsAhead_group (indentation : Nat) (broken : Bool) (body : Document ruler)
    (rest : List (Job ruler)) :
    columnsAhead (⟨indentation, broken, body⟩ :: rest) =
      columnsAhead (⟨indentation, broken, .group body⟩ :: rest) := by
  cases broken <;> rfl

/-- Jobs fit exactly if the columns ahead do. -/
theorem fits_eq (width column : Nat) (jobs : List (Job ruler)) :
    fits width column jobs = decide (column + columnsAhead jobs ≤ width) := by
  fun_induction fits width column jobs with
  | case1 column => rfl
  | case2 column indentation broken style content rest inductionHypothesis =>
    rw [inductionHypothesis]
    have ahead : columnsAhead (⟨indentation, broken, .text style content⟩ :: rest) =
        displayWidth ruler content + columnsAhead rest := by
      cases broken <;> rfl
    rw [ahead, ← Bool.decide_and]
    congr 1
    ext
    omega
  | case3 column indentation rest => rfl
  | case4 column indentation rest inductionHypothesis =>
    rw [inductionHypothesis, columnsAhead, Document.flatWidth, ← Bool.decide_and]
    congr 1
    ext
    omega
  | case5 column indentation broken first second rest inductionHypothesis =>
    rw [inductionHypothesis, columnsAhead_append]
  | case6 column indentation broken amount body rest inductionHypothesis =>
    rw [inductionHypothesis, columnsAhead_nest]
  | case7 column indentation broken body rest inductionHypothesis =>
    rw [inductionHypothesis, columnsAhead_group]

end Job

/-! ## Agreement with the layout -/

namespace Document

/-- Whether the last leaf of a document is a line end. -/
def endsInLine : Document ruler → Bool
  | text _ _ => false
  | line => true
  | append _ second => second.endsInLine
  | nest _ body => body.endsInLine
  | group body => body.endsInLine

/-- No nest of the document ends in a line end. -/
def NestsClosed : Document ruler → Prop
  | text _ _ => True
  | line => True
  | append first second => first.NestsClosed ∧ second.NestsClosed
  | nest _ body => body.endsInLine = false ∧ body.NestsClosed
  | group body => body.NestsClosed

open Job

/-- The printer lays the first job out as the layout does and goes on behind
it. -/
theorem print_cons (document : Document ruler) (closed : document.NestsClosed)
    (width indentation column : Nat) (broken : Bool) (rest : List (Job ruler))
    (aligned : document.endsInLine = true → lineStart indentation rest = indentation) :
    print width column (⟨indentation, broken, document⟩ :: rest) =
      (document.layout width broken indentation column (columnsAhead rest)).1 ++
        print width (document.layout width broken indentation column (columnsAhead rest)).2
          rest := by
  induction document generalizing indentation column broken rest with
  | text style content =>
    rw [print]
    rfl
  | line =>
    cases broken with
    | false =>
      rw [print]
      rfl
    | true =>
      rw [print, aligned rfl]
      rfl
  | append first second firstHypothesis secondHypothesis =>
    have firstPrinted := firstHypothesis closed.1 indentation column broken
      (⟨indentation, broken, second⟩ :: rest) (fun _ => rfl)
    have ahead : first.layout width broken indentation column
        (columnsAhead (⟨indentation, broken, second⟩ :: rest)) =
          first.layout width broken indentation column (second.lookahead (columnsAhead rest)) := by
      cases broken with
      | false => rw [layout_false, layout_false]
      | true => rfl
    rw [ahead] at firstPrinted
    rw [print, firstPrinted, secondHypothesis closed.2 indentation _ broken rest aligned,
      ← List.append_assoc]
    rfl
  | nest amount body inductionHypothesis =>
    rw [print]
    apply inductionHypothesis closed.2 (indentation + amount) column broken rest
    intro endsInLine
    rw [closed.1] at endsInLine
    cases endsInLine
  | group body inductionHypothesis =>
    rw [print, fits_eq]
    have mode : (broken && !decide (column + columnsAhead (⟨indentation, false, body⟩ :: rest) ≤
        width)) = (broken && decide (width < column + body.flatWidth + columnsAhead rest)) := by
      rw [← decide_not]
      congr 2
      ext
      simp only [columnsAhead, Nat.not_le, Nat.add_assoc]
    rw [mode, layout]
    split
    · rename_i breaks
      rw [breaks]
      exact inductionHypothesis closed indentation column true rest aligned
    · rename_i stays
      rw [Bool.not_eq_true] at stays
      rw [stays]
      exact inductionHypothesis closed indentation column false rest aligned

/-- The layout of a document is what the printer prints. -/
theorem pieces_eq_print (document : Document ruler) (closed : document.NestsClosed) (width : Nat) :
    document.pieces width = print width 0 [⟨0, true, document⟩] := by
  have aligned : document.endsInLine = true → lineStart 0 ([] : List (Job ruler)) = 0 :=
    fun _ => rfl
  rw [print_cons document closed width 0 0 true [] aligned, print, List.append_nil]
  rfl

end Document

end FloatLogic.Layout
