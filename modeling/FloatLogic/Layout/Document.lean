import FloatLogic.Layout.DisplayWidth
import FloatLogic.Layout.Style

/-!
# Documents and their layout

A document is text with places where a line may end.  A group is laid out flat,
with a space for each of its line ends, when its flat content together with what
follows it up to the next line break fits into the width; otherwise its own line
ends become line breaks, and the groups inside it decide for themselves.  After
a line break stands the indentation of the enclosing nests.  The columns of a text
are those of the ruler that a document is made for.

The result of a layout is a list of pieces, from which every kind of output is
read off.
-/

namespace FloatLogic.Layout

section

-- The fields that a document stores are functions of the ruler and the document.
variable (ruler : Ruler)

/-- A document whose texts may carry a style.  Every document stores the width of
its flat layout and whether a line may end in it. -/
inductive Document (ruler : Ruler) where
  | text (style : Option Style) (content : String)
  | line
  | append (first second : Document ruler)
  | nest (amount : Nat) (body : Document ruler)
  | group (body : Document ruler)
with
  /-- The columns of a document on one line. -/
  @[computed_field] flatWidth : Document ruler → Nat
    | .text _ content => displayWidth ruler content
    | .line => 1
    | .append first second => first.flatWidth + second.flatWidth
    | .nest _ body => body.flatWidth
    | .group body => body.flatWidth
  /-- Whether a document has a place where a line may end. -/
  @[computed_field] breakable : Document ruler → Bool
    | .text _ _ => false
    | .line => true
    | .append first second => first.breakable || second.breakable
    | .nest _ body => body.breakable
    | .group body => body.breakable

end

namespace Document

variable {ruler : Ruler}

instance : Append (Document ruler) := ⟨append⟩

/-- The columns that a broken document takes before its first line break, or all
of it and the columns `after` it if it has none. -/
def lookahead : Document ruler → Nat → Nat
  | text style content, after => (text style content : Document ruler).flatWidth + after
  | line, _ => 0
  | append first second, after =>
    if first.breakable then first.lookahead 0 else first.flatWidth + second.lookahead after
  | nest _ body, after => body.lookahead after
  | group body, after => body.lookahead after

end Document

/-- A part of a laid out document. -/
inductive Piece where
  /-- Text of the document. -/
  | text (style : Option Style) (content : String)
  /-- A line end that was laid out flat. -/
  | space
  /-- A line break and the indentation of the new line. -/
  | newline (indentation : Nat)
deriving DecidableEq

namespace Document

variable {ruler : Ruler}

/-- Lay a document out from the given column, and give back the column behind it.
When `broken`, its line ends become line breaks; `after` is the number of columns
that follow the document up to the next line break. -/
def layout (width : Nat) : Document ruler → (broken : Bool) → (indentation column after : Nat) →
    List Piece × Nat
  | text style content, _, _, column, _ =>
    ([.text style content], column + (text style content : Document ruler).flatWidth)
  | line, true, indentation, _, _ => ([.newline indentation], indentation)
  | line, false, _, column, _ => ([.space], column + 1)
  | append first second, broken, indentation, column, after =>
    let (pieces, middle) := first.layout width broken indentation column (second.lookahead after)
    let (rest, last) := second.layout width broken indentation middle after
    (pieces ++ rest, last)
  | nest amount body, broken, indentation, column, after =>
    body.layout width broken (indentation + amount) column after
  | group body, broken, indentation, column, after =>
    body.layout width (broken && decide (width < column + body.flatWidth + after)) indentation
      column after

/-- The pieces of a document laid out in the given width. -/
def pieces (document : Document ruler) (width : Nat) : List Piece :=
  (document.layout width true 0 0 0).1

end Document

namespace Piece

/-- A piece without colours. -/
def plain : Piece → String
  | text _ content => content
  | space => " "
  | newline indentation => "\n".pushn ' ' indentation

/-- A piece with the escape sequences of its style. -/
def colored : Piece → String
  | text (some style) content => style.appearance.wrap content
  | piece => piece.plain

/-- Pieces one after the other, without colours. -/
def plainText (pieces : List Piece) : String := String.join (pieces.map plain)

/-- Pieces one after the other, with colours. -/
def coloredText (pieces : List Piece) : String := String.join (pieces.map colored)

end Piece

end FloatLogic.Layout
