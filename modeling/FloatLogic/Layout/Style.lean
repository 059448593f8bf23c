/-!
# Styles

A style names the role of a text; its appearance says how a terminal shows the
role.  Parentheses take their colour from the nesting depth modulo six, so the
two of a pair look alike.
-/

namespace FloatLogic.Layout

/-- The role of a text. -/
inductive Style where
  | punctuation
  | parenthesis (depth : Fin 6)
  | keyword
  | operator
  | binders
  | term
deriving DecidableEq

/-- The foreground colours of a terminal. -/
inductive Color where
  | red
  | green
  | yellow
  | blue
  | magenta
  | cyan
  | white
deriving DecidableEq

/-- The digit of a colour in an escape sequence. -/
def Color.digit : Color → String
  | red => "1"
  | green => "2"
  | yellow => "3"
  | blue => "4"
  | magenta => "5"
  | cyan => "6"
  | white => "7"

/-- How a terminal shows a text. -/
structure Appearance where
  bold : Bool := false
  dimmed : Bool := false
  foreground : Option Color := none
deriving DecidableEq

namespace Style

/-- The colour of a parenthesis. -/
def depthColor (depth : Fin 6) : Color :=
  match depth with
  | 0 => .blue
  | 1 => .green
  | 2 => .white
  | 3 => .yellow
  | 4 => .red
  | 5 => .magenta

/-- The appearance of a role. -/
def appearance : Style → Appearance
  | punctuation => { dimmed := true }
  | parenthesis depth => { dimmed := true, foreground := some (depthColor depth) }
  | keyword => { bold := true, foreground := some .cyan }
  | operator => { bold := true, foreground := some .yellow }
  | binders => { bold := true, foreground := some .green }
  | term => { foreground := some .magenta }

end Style

namespace Appearance

/-- The escape sequence that turns every setting off. -/
def reset : String := "\x1b[0m"

/-- The escape sequences of the settings alone. -/
def settings (appearance : Appearance) : String :=
  (if appearance.bold then "\x1b[1m" else "") ++
    (if appearance.dimmed then "\x1b[2m" else "") ++
    match appearance.foreground with
    | some color => "\x1b[3" ++ color.digit ++ "m"
    | none => ""

/-- A text between the escape sequences that set an appearance and reset it. -/
def wrap (appearance : Appearance) (content : String) : String :=
  reset ++ appearance.settings ++ content ++ reset

end Appearance

/-! ## Output settings -/

/-- When to write with colours. -/
inductive ColorChoice where
  | always
  | never
  /-- With colours exactly if the output is a terminal that can show them. -/
  | auto
deriving DecidableEq

/-- Whether a choice means colours. -/
def ColorChoice.isColored (terminal : Bool) : ColorChoice → Bool
  | always => true
  | never => false
  | auto => terminal

/-- The line width when none is given and none is known of the output. -/
def defaultWidth : Nat := 80

end FloatLogic.Layout
