import FloatLogic.Layout.CharacterClass
import FloatLogic.Layout.DisplayWidth

/-!
# The ruler of terminals

A text is measured from its end to its beginning, since a character may join with
what follows it.  A wide character takes two columns, a mark none, and every other
character one, but these take two columns as a whole: a character before the selector
of its emoji style, an emoji and its skin tone, a flag, and emoji that are connected
by joiners.  A line break of two characters takes one column.  Letters that a font
may draw as one are measured one by one.
-/

namespace FloatLogic.Layout

/-- What a text begins with, as far as a character before it can join with it. -/
inductive Opening where
  /-- Nothing that joins. -/
  | plain
  | lineFeed
  | emoji
  | skinTone
  /-- Regional indicators, and whether an emoji is joined to them. -/
  | indicators (joined : Bool) (count : Nat)
  /-- The selector of the text style. -/
  | textStyle
  /-- The selector of the emoji style, and whether an emoji is joined to it. -/
  | emojiStyle (joined : Bool)
  /-- A joiner before an emoji. -/
  | joiner
  /-- A keycap mark that an emoji is joined to. -/
  | keycap
  /-- The last letters or digits of tags that an emoji is joined to. -/
  | tags (letters digits : Nat)
deriving DecidableEq

/-- The columns that a text takes and what it begins with. -/
structure Measure where
  columns : Nat
  opening : Opening
deriving DecidableEq

namespace Measure

/-- The measure of the empty text. -/
def empty : Measure := ⟨0, .plain⟩

/-- A character that joins with nothing, before a text of the given columns. -/
def separate (char : Char) (columns : Nat) : Measure :=
  if char = '\n' then ⟨columns + 1, .lineFeed⟩
  else if char ≤ '\u00a0' then ⟨columns + 1, .plain⟩
  else if char = emojiSelector then ⟨columns, .emojiStyle false⟩
  else if char = textSelector then ⟨columns, .textStyle⟩
  else if isIndicator char then ⟨columns + 1, .indicators false 1⟩
  else if isSkinTone char then ⟨columns + 2, .skinTone⟩
  else if isEmoji char then ⟨columns + 2, .emoji⟩
  else if isMark char then ⟨columns, .plain⟩
  else if isWide char then ⟨columns + 2, .plain⟩
  else ⟨columns + 1, .plain⟩

/-- A character that joins with the emoji after a joiner.  Nothing is added for
an emoji, for it shares the columns of the other one. -/
def joinEmoji? (char : Char) (columns : Nat) : Option Measure :=
  if isEmoji char then some ⟨columns, .emoji⟩
  else if isSkinTone char then some ⟨columns, .skinTone⟩
  else if isIndicator char then some ⟨columns + 1, .indicators true 1⟩
  else if char = emojiSelector then some ⟨columns, .emojiStyle true⟩
  else if char = keycapMark then some ⟨columns, .keycap⟩
  else if char = tagEnd then some ⟨columns, .tags 0 0⟩
  else none

/-- A character that joins with a run of regional indicators.  They pair into
flags of two columns, and the last pair shares the columns of an emoji that is
joined to the run; an odd one stays by itself. -/
def joinIndicators? (char : Char) (columns : Nat) (joined : Bool) (count : Nat) :
    Option Measure :=
  if isIndicator char then
    if !joined then some ⟨columns + 1, .indicators joined (count + 1)⟩
    else if count % 2 = 1 then some ⟨columns - 1, .indicators joined (count + 1)⟩
    else some ⟨columns + 3, .indicators joined (count + 1)⟩
  else if char = Layout.joiner && 2 ≤ count then some ⟨columns, .joiner⟩
  else none

/-- A character that joins with the tags of a flag: three digits, or up to six
letters of which at least three name the flag. -/
def joinTags? (char : Char) (columns : Nat) (letters digits : Nat) : Option Measure :=
  if isTagLetter char && digits = 0 && letters < 6 then some ⟨columns, .tags (letters + 1) 0⟩
  else if isTagDigit char && letters ≤ 4 && digits < 3 then
    some ⟨columns, .tags letters (digits + 1)⟩
  else if char = taggedFlag && (digits = 3 || (digits = 0 && 3 ≤ letters)) then
    some ⟨columns, .emoji⟩
  else none

/-- A character and the text that it joins with; nothing if it stays separate. -/
def join? (char : Char) (rest : Measure) : Option Measure :=
  match rest.opening with
  | .plain => none
  | .lineFeed => if char = '\r' then some ⟨rest.columns, .plain⟩ else none
  | .emoji => if char = Layout.joiner then some ⟨rest.columns, .joiner⟩ else none
  | .skinTone =>
    if takesSkinTone char then some ⟨rest.columns, .emoji⟩
    else if char = Layout.joiner then some ⟨rest.columns, .joiner⟩
    else none
  | .indicators joined count => joinIndicators? char rest.columns joined count
  | .textStyle =>
    if isEmoji char && isStyled char && !isEnclosedIdeograph char then
      some ⟨rest.columns + 1, .plain⟩
    else none
  | .emojiStyle joined =>
    if isStyled char then some ⟨if joined then rest.columns else rest.columns + 2, .emoji⟩
    else none
  | .joiner => joinEmoji? char rest.columns
  | .keycap =>
    if char = emojiSelector then some ⟨rest.columns, .emojiStyle true⟩ else none
  | .tags letters digits => joinTags? char rest.columns letters digits

/-- A character before a text. -/
def cons (char : Char) (rest : Measure) : Measure :=
  match join? char rest with
  | some measure => measure
  | none => separate char rest.columns

end Measure

/-- The ruler that goes by the classes of the characters. -/
def unicodeRuler : Ruler := fun text => (text.toList.foldr Measure.cons .empty).columns

/-! An accented letter, two ideographs, a halfwidth letter and its sound mark, a
heart in emoji style, a keycap, a hand with a skin tone, a joined emoji, and two
flags. -/

example : displayWidth unicodeRuler "e\u0301" = 1 := by decide +kernel
example : displayWidth unicodeRuler "漢字" = 4 := by decide +kernel
example : displayWidth unicodeRuler "\uff76\uff9e" = 2 := by decide +kernel
example : displayWidth unicodeRuler "\u2764\ufe0f" = 2 := by decide +kernel
example : displayWidth unicodeRuler "1\ufe0f\u20e3" = 2 := by decide +kernel
example : displayWidth unicodeRuler "👍🏽" = 2 := by decide +kernel
example : displayWidth unicodeRuler "👩🏽\u200d💻" = 2 := by decide +kernel
example : displayWidth unicodeRuler "🇫🇷🇩🇪" = 4 := by decide +kernel

end FloatLogic.Layout
