import FloatLogic.Formula
import FloatLogic.Proofs.Text.Names
import Mathlib.Tactic.Tauto

/-!
# Words, signs and parentheses

What a text of terms and formulas is read from: the word that it begins with, the sign
between two operands, and the parentheses around them.  `Reads` says of two texts that
they are told apart wherever they begin; it is passed from operands to what encloses
them.
-/

namespace FloatLogic

/-! ## Words and ends -/

/-- Whether a character can stand in a word: it is no blank and no parenthesis. -/
def isInWord (character : Char) : Bool :=
  character ≠ ' ' && character ≠ '(' && character ≠ ')'

theorem isInWord_of_isWordCharacter {character : Char}
    (isWord : isWordCharacter character = true) : isInWord character = true := by
  by_contra outside
  have mark : character = ' ' ∨ character = '(' ∨ character = ')' := by
    simp only [isInWord, Bool.and_eq_true, decide_eq_true_eq] at outside
    tauto
  rcases mark with rfl | rfl | rfl <;> exact absurd isWord (by decide)

theorem isInWord_of_isDigit {character : Char} (isDigit : character.isDigit = true) :
    isInWord character = true := by
  apply isInWord_of_isWordCharacter
  simp [isWordCharacter, Char.isAlphanum, isDigit]

/-- What can follow a term or a formula: nothing, a blank or a parenthesis that
closes. -/
def Closed (rest : List Char) : Prop := ∀ character ∈ rest.head?, character ∈ [' ', ')']

theorem closed_nil : Closed [] := nofun

theorem closed_blank (rest : List Char) : Closed (' ' :: rest) := by simp [Closed]

theorem closed_parenthesis (rest : List Char) : Closed (')' :: rest) := by simp [Closed]

theorem not_closed_of_eq {rest body : List Char} (opens : rest = '(' :: body) :
    ¬ Closed rest := by
  rw [opens]
  simp [Closed]

theorem Closed.ends {rest : List Char} (closed : Closed rest) : Ends isInWord rest := by
  intro character begins
  have mark := closed character begins
  simp only [List.mem_cons, List.not_mem_nil, or_false] at mark
  rcases mark with rfl | rfl <;> decide

/-- A text is a word, and then a body that does not go on with it. -/
structure Begins (characters word body : List Char) : Prop where
  characters_eq : characters = word ++ body
  inWord : ∀ character ∈ word, isInWord character = true
  ends : ∀ {rest : List Char}, Closed rest → Ends isInWord (body ++ rest)

/-- Texts that begin alike begin with one word. -/
theorem Begins.inj {first firstWord firstBody second secondWord secondBody rest others : List Char}
    (begins : Begins first firstWord firstBody) (otherBegins : Begins second secondWord secondBody)
    (closed : Closed rest) (othersClosed : Closed others)
    (same : first ++ rest = second ++ others) :
    firstWord = secondWord ∧ firstBody ++ rest = secondBody ++ others := by
  rw [begins.characters_eq, otherBegins.characters_eq, List.append_assoc, List.append_assoc]
    at same
  exact append_inj_of_ends begins.inWord otherBegins.inWord (begins.ends closed)
    (otherBegins.ends othersClosed) same

/-! ## Signs between two operands -/

/-- A sign between two operands. -/
inductive PairSign where
  | arithmetic (operation : Arithmetic)
  | comparison (relation : Comparison)
  | junction (connective : Connective)

namespace PairSign

/-- The characters of a sign. -/
def characters : PairSign → List Char
  | arithmetic operation => operation.symbol.toList
  | comparison relation => relation.symbol.toList
  | junction connective => connective.word.toList

/-- The sign with the given characters. -/
def read : List Char → Option PairSign
  | ['+'] => some (.arithmetic .add)
  | ['-'] => some (.arithmetic .sub)
  | ['*'] => some (.arithmetic .mul)
  | ['/'] => some (.arithmetic .div)
  | ['='] => some (.comparison .eq)
  | ['!', '='] => some (.comparison .ne)
  | ['<'] => some (.comparison .lt)
  | ['<', '='] => some (.comparison .le)
  | ['>'] => some (.comparison .gt)
  | ['>', '='] => some (.comparison .ge)
  | ['a', 'n', 'd'] => some (.junction .and)
  | ['o', 'r'] => some (.junction .or)
  | _ => none

theorem read_characters (sign : PairSign) : read sign.characters = some sign := by
  rcases sign with operation | relation | connective
  · cases operation <;> rfl
  · cases relation <;> rfl
  · cases connective <;> rfl

theorem isInWord_of_mem_characters (sign : PairSign) :
    ∀ character ∈ sign.characters, isInWord character = true := by
  rw [← List.all_eq_true]
  rcases sign with operation | relation | connective
  · cases operation <;> rfl
  · cases relation <;> rfl
  · cases connective <;> rfl

/-- A sign between two blanks can be read. -/
theorem append_inj {first second : PairSign} {rest others : List Char}
    (same : ' ' :: (first.characters ++ ' ' :: rest) =
      ' ' :: (second.characters ++ ' ' :: others)) :
    first = second ∧ rest = others := by
  obtain ⟨sameCharacters, sameRest⟩ := append_inj_of_ends first.isInWord_of_mem_characters
    second.isInWord_of_mem_characters (closed_blank rest).ends (closed_blank others).ends
    (List.cons.inj same).2
  have sameSign := congrArg read sameCharacters
  rw [read_characters, read_characters] at sameSign
  exact ⟨Option.some.inj sameSign, (List.cons.inj sameRest).2⟩

end PairSign

/-- Two operands with a sign between them, in parentheses. -/
def pairCharacters (left : List Char) (sign : PairSign) (right : List Char) : List Char :=
  '(' :: (left ++ ' ' :: (sign.characters ++ ' ' :: (right ++ [')'])))

/-! ## Texts that begin alike -/

/-- Texts that begin with `first` and with `second` are alike only if the outcome holds,
and then they end alike. -/
def Reads (outcome : Prop) (first second : List Char) : Prop :=
  ∀ ⦃rest others : List Char⦄, Closed rest → Closed others → first ++ rest = second ++ others →
    outcome ∧ rest = others

namespace Reads

variable {outcome rightOutcome : Prop} {first second : List Char}

/-- What a parenthesis closes is read up to it. -/
theorem closing (reads : Reads outcome first second) :
    Reads outcome (first ++ [')']) (second ++ [')']) := by
  intro rest others _ _ same
  rw [List.append_assoc, List.append_assoc] at same
  obtain ⟨holds, sameRest⟩ := reads (closed_parenthesis rest) (closed_parenthesis others) same
  exact ⟨holds, (List.cons.inj sameRest).2⟩

theorem cons (reads : Reads outcome first second) (character : Char) :
    Reads outcome (character :: first) (character :: second) :=
  fun _ _ closed othersClosed same => reads closed othersClosed (List.cons.inj same).2

variable {left right otherLeft otherRight rest others : List Char} {sign otherSign : PairSign}

/-- Of two operands in parentheses, the left one and the sign are read first. -/
theorem leftAndSign (readsLeft : Reads outcome left otherLeft)
    (same : pairCharacters left sign right ++ rest =
      pairCharacters otherLeft otherSign otherRight ++ others) :
    (outcome ∧ sign = otherSign) ∧ (right ++ [')']) ++ rest = (otherRight ++ [')']) ++ others := by
  simp only [pairCharacters, List.cons_append, List.append_assoc] at same
  obtain ⟨holds, afterLeft⟩ :=
    readsLeft (closed_blank _) (closed_blank _) (List.cons.inj same).2
  obtain ⟨sameSign, afterSign⟩ := PairSign.append_inj afterLeft
  exact ⟨⟨holds, sameSign⟩, by simpa using afterSign⟩

/-- Two operands in parentheses are read one after the other. -/
theorem pair (readsLeft : Reads outcome left otherLeft) (sign otherSign : PairSign)
    (readsRight : Reads rightOutcome right otherRight) :
    Reads ((outcome ∧ sign = otherSign) ∧ rightOutcome) (pairCharacters left sign right)
      (pairCharacters otherLeft otherSign otherRight) := by
  intro rest others closed othersClosed same
  obtain ⟨leftHolds, afterSign⟩ := readsLeft.leftAndSign same
  obtain ⟨rightHolds, sameRest⟩ := readsRight.closing closed othersClosed afterSign
  exact ⟨⟨leftHolds, rightHolds⟩, sameRest⟩

end Reads

end FloatLogic
