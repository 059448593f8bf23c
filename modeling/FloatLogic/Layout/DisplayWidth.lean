/-!
# Display widths

The number of terminal columns that a text takes.  A text of ASCII characters takes
one column a character, control characters included.  The columns of any other text
are read off a ruler, and nothing is required of it.
-/

namespace FloatLogic.Layout

/-- How many columns a terminal takes for a text that is not ASCII. -/
abbrev Ruler := String → Nat

/-- Whether a character is ASCII. -/
def isAscii (char : Char) : Bool := char.toNat < 128

/-- The columns of a text. -/
def displayWidth (ruler : Ruler) (text : String) : Nat :=
  if text.toList.all isAscii then text.length else ruler text

end FloatLogic.Layout
