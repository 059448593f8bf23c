import FloatLogic.Proofs.Rendering.StyledTexts

/-!
# Nesting of parentheses

The parentheses of a rendered formula that carry the style of parentheses are balanced,
and the two of a pair carry the number of pairs around them modulo six.  They are those
of comparisons, junctions, negations and quantifiers; those that belong to terms or names
are part of longer texts in other styles and do not count.

A formula may be nested to any depth.  The depth of a node is known modulo six only, so
a byte holds it and one more: `documentAt?` computes with bytes and fails where a sum is
no byte, and it never fails.
-/

namespace FloatLogic

namespace Layout

/-- The depth and the content of a text in the style of parentheses. -/
def Style.parenthesis? : Style × String → Option (Fin 6 × String)
  | (parenthesis depth, content) => some (depth, content)
  | _ => none

/-- The texts in the style of parentheses, from left to right. -/
def Piece.parentheses (pieces : List Piece) : List (Fin 6 × String) :=
  (pieces.filterMap styled?).filterMap Style.parenthesis?

/-- The texts close the open parentheses, of which the depths are given, the innermost
one first; and what they open in between they close too.  One that opens has the number
of open ones, modulo six, for its depth, and one that closes has the depth of the one
that it closes. -/
inductive Nested : (opened : List (Fin 6)) → List (Fin 6 × String) → Prop
  | done : Nested [] []
  | opening {opened : List (Fin 6)} {rest : List (Fin 6 × String)} :
    Nested (level opened.length :: opened) rest →
      Nested opened ((level opened.length, "(") :: rest)
  | closing (depth : Fin 6) {opened : List (Fin 6)} {rest : List (Fin 6 × String)} :
    Nested opened rest → Nested (depth :: opened) ((depth, ")") :: rest)

end Layout

namespace Formula

open Layout

variable {ruler : Ruler} {names : Naming}

/-! ## Depths as bytes -/

/-- The depth below a node, unless it is no byte. -/
def deeper? (depth : UInt8) : Option UInt8 :=
  if depth.toNat + 1 < UInt8.size then some (depth + 1) else none

/-- The document of a formula at a depth that is a byte.  A node takes its depth modulo
six, and each formula below it is one deeper. -/
def documentAt? (ruler : Ruler) (names : Naming) (depth : UInt8) :
    Formula → Option (Document ruler)
  | truth value => some ((truth value).document ruler names (level (depth % 6).toNat))
  | comparison relation left right =>
    some ((comparison relation left right).document ruler names (level (depth % 6).toNat))
  | junction connective left right => do
    let leftDepth ← deeper? (depth % 6)
    let left ← left.documentAt? ruler names leftDepth
    let rightDepth ← deeper? (depth % 6)
    let right ← right.documentAt? ruler names rightDepth
    some (junctionDocument (level (depth % 6).toNat) connective left right)
  | negation operand => do
    let operandDepth ← deeper? (depth % 6)
    let operand ← operand.documentAt? ruler names operandDepth
    some (negationDocument (level (depth % 6).toNat) operand)
  | universal binders body => do
    let bodyDepth ← deeper? (depth % 6)
    let body ← body.documentAt? ruler names bodyDepth
    some (universalDocument names (level (depth % 6).toNat) binders body)

theorem toNat_mod_six (depth : UInt8) : (depth % 6).toNat = depth.toNat % 6 := by
  rw [UInt8.toNat_mod]
  rfl

theorem level_mod_six (depth : UInt8) : level (depth % 6).toNat = level depth.toNat := by
  apply Fin.ext
  simp [level]

/-- A depth below six leaves room for one more. -/
theorem deeper?_mod_six (depth : UInt8) : deeper? (depth % 6) = some (depth % 6 + 1) := by
  have small : (depth % 6).toNat < 6 := by
    rw [toNat_mod_six]
    exact Nat.mod_lt _ (by decide)
  apply if_pos
  have room : 6 + 1 < UInt8.size := by decide
  omega

theorem level_deeper (depth : UInt8) : level (depth % 6 + 1).toNat = level depth.toNat + 1 := by
  have sum : (depth % 6 + 1).toNat = (depth % 6).toNat + 1 := by
    rw [UInt8.toNat_add, toNat_mod_six]
    apply Nat.mod_eq_of_lt
    have small : depth.toNat % 6 < 6 := Nat.mod_lt _ (by decide)
    have one : (1 : UInt8).toNat = 1 := rfl
    omega
  rw [sum, level_succ, level_mod_six]

/-- Bytes are enough for the depths of any formula. -/
theorem documentAt?_eq (formula : Formula) (depth : UInt8) :
    formula.documentAt? ruler names depth =
      some (formula.document ruler names (level depth.toNat)) := by
  induction formula generalizing depth with
  | truth value => rfl
  | comparison relation left right => rw [documentAt?, level_mod_six]
  | junction connective left right leftHypothesis rightHypothesis =>
    simp only [documentAt?, deeper?_mod_six, leftHypothesis, rightHypothesis, level_mod_six,
      level_deeper, Option.bind_eq_bind, Option.bind_some]
    rfl
  | negation operand inductionHypothesis =>
    simp only [documentAt?, deeper?_mod_six, inductionHypothesis, level_mod_six, level_deeper,
      Option.bind_eq_bind, Option.bind_some]
    rfl
  | universal binders body inductionHypothesis =>
    simp only [documentAt?, deeper?_mod_six, inductionHypothesis, level_mod_six, level_deeper,
      Option.bind_eq_bind, Option.bind_some]
    rfl

/-! ## Parentheses of a formula -/

/-- The parentheses of a formula at a nesting depth, without those of its terms. -/
def parentheses (names : Naming) (depth : Nat) (formula : Formula) : List (Fin 6 × String) :=
  (formula.styledTexts names depth).filterMap Style.parenthesis?

theorem parentheses_junction (connective : Connective) (left right : Formula) (depth : Nat) :
    (junction connective left right).parentheses names depth =
      (level depth, "(") :: (left.parentheses names (depth + 1) ++
        (right.parentheses names (depth + 1) ++ [(level depth, ")")])) := by
  simp [parentheses, styledTexts, Style.parenthesis?, List.filterMap_cons]

theorem parentheses_negation (operand : Formula) (depth : Nat) :
    (negation operand).parentheses names depth =
      (level depth, "(") :: (operand.parentheses names (depth + 1) ++ [(level depth, ")")]) := by
  simp [parentheses, styledTexts, Style.parenthesis?, List.filterMap_cons]

theorem parentheses_universal (binders : VarSet) (body : Formula) (depth : Nat) :
    (universal binders body).parentheses names depth =
      (level depth, "(") :: (body.parentheses names (depth + 1) ++ [(level depth, ")")]) := by
  simp [parentheses, styledTexts, Style.parenthesis?, List.filterMap_cons]

/-- The parentheses of a formula close what they open, so any that nest may follow
them. -/
theorem nested_append (formula : Formula) (opened : List (Fin 6)) {rest : List (Fin 6 × String)}
    (nested : Nested opened rest) :
    Nested opened (formula.parentheses names opened.length ++ rest) := by
  -- Behind the parts of a node stands what closes it, which nests as soon as `rest` does.
  induction formula generalizing opened rest with
  | truth value => exact nested
  | comparison relation left right => exact .opening (.closing _ nested)
  | junction connective left right leftHypothesis rightHypothesis =>
    have closed := Nested.closing (level opened.length) nested
    have inner := leftHypothesis _ (rightHypothesis _ closed)
    rw [parentheses_junction, List.cons_append, List.append_assoc, List.append_assoc]
    exact .opening inner
  | negation operand inductionHypothesis =>
    have closed := Nested.closing (level opened.length) nested
    have inner := inductionHypothesis _ closed
    rw [parentheses_negation, List.cons_append, List.append_assoc]
    exact .opening inner
  | universal binders body inductionHypothesis =>
    have closed := Nested.closing (level opened.length) nested
    have inner := inductionHypothesis _ closed
    rw [parentheses_universal, List.cons_append, List.append_assoc]
    exact .opening inner

/-- In every rendering of a formula, the texts with styles are those of the formula, so
the parentheses of its nodes are in the style of parentheses.  Those in this style are
balanced; each that opens has as its depth the number of open ones modulo six, and the
one that closes it has the same.  The depths of a formula of any nesting are computed
with bytes, and no sum leaves their range. -/
theorem parentheses_nest (ruler : Ruler) (names : Naming) (formula : Formula) :
    (∀ width,
      (formula.pieces names width ruler).filterMap Piece.styled? = formula.styledTexts names 0 ∧
        Nested [] (Piece.parentheses (formula.pieces names width ruler))) ∧
      ∀ depth : UInt8, formula.documentAt? ruler names depth =
        some (formula.document ruler names (level depth.toNat)) := by
  refine ⟨fun width => ?_, formula.documentAt?_eq⟩
  have balanced : Nested [] (formula.parentheses names 0 ++ []) := formula.nested_append [] .done
  rw [List.append_nil] at balanced
  rw [Piece.parentheses, filterMap_styled_pieces]
  exact ⟨rfl, balanced⟩

end Formula

end FloatLogic
