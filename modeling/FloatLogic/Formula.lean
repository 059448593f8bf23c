import FloatLogic.Term

/-!
# Formulas

A formula is a truth value, a comparison of two terms, a junction of two
formulas, a negation, or a universally quantified formula.  The constructors
make the plain node, whatever its parts are; the module on folding holds the
operations that simplify as they build.
-/

namespace FloatLogic

/-- The comparisons of two numbers. -/
inductive Comparison where
  | eq
  | ne
  | lt
  | le
  | gt
  | ge
deriving DecidableEq

namespace Comparison

/-- The position of a comparison in the list of all six. -/
def index : Comparison → Nat
  | eq => 0
  | ne => 1
  | lt => 2
  | le => 3
  | gt => 4
  | ge => 5

/-- The sign between the two operands. -/
def symbol : Comparison → String
  | eq => "="
  | ne => "!="
  | lt => "<"
  | le => "<="
  | gt => ">"
  | ge => ">="

/-- Whether a comparison holds between two numbers; with a NaN on either side
only `ne` holds. -/
def holds : Comparison → Double → Double → Bool
  | eq, left, right => left.equal right
  | ne, left, right => !left.equal right
  | lt, left, right => left.less right
  | le, left, right => left.lessEqual right
  | gt, left, right => right.less left
  | ge, left, right => right.lessEqual left

/-- Whether a comparison holds between a number and itself, unless it is a
NaN. -/
def reflexive : Comparison → Bool
  | eq => true
  | ne => false
  | lt => false
  | le => true
  | gt => false
  | ge => true

end Comparison

/-- The connectives of two formulas. -/
inductive Connective where
  | and
  | or
deriving DecidableEq

namespace Connective

/-- The position of a connective in the list of both. -/
def index : Connective → Nat
  | and => 0
  | or => 1

/-- The word between the two operands. -/
def word : Connective → String
  | and => "and"
  | or => "or"

/-- The truth table of a connective. -/
def apply : Connective → Bool → Bool → Bool
  | and, left, right => left && right
  | or, left, right => left || right

/-- The truth value that decides a junction whatever the other operand is; the
opposite value is the neutral one. -/
def absorbing : Connective → Bool
  | and => false
  | or => true

end Connective

/-- A quantified formula over comparisons of terms.  Every node stores its
digest. -/
inductive Formula where
  | truth (value : Bool)
  | comparison (relation : Comparison) (left right : Term)
  | junction (connective : Connective) (left right : Formula)
  | negation (operand : Formula)
  | universal (binders : VarSet) (body : Formula)
with
  /-- The digest of a formula under the stored leaf hash. -/
  @[computed_field] digest : Formula → UInt64
    | .truth value => LeafHash.stored.node (if value then 0 else 1) []
    | .comparison relation left right =>
      LeafHash.stored.node (2 + relation.index) [left.digest, right.digest]
    | .junction connective left right =>
      LeafHash.stored.node (8 + connective.index) [left.digest, right.digest]
    | .negation operand => LeafHash.stored.node 10 [operand.digest]
    | .universal binders body =>
      LeafHash.stored.node 11 [LeafHash.stored.set binders, body.digest]

namespace Formula

instance : Inhabited Formula := ⟨.truth true⟩

/-- The sorts of formulas. -/
inductive Kind where
  | truth (value : Bool)
  | comparison (relation : Comparison)
  | junction (connective : Connective)
  | negation
  | universal
deriving DecidableEq

namespace Kind

/-- The position of a kind in the list of all twelve. -/
def index : Kind → Nat
  | truth value => if value then 0 else 1
  | comparison relation => 2 + relation.index
  | junction connective => 8 + connective.index
  | negation => 10
  | universal => 11

/-- All kinds in order. -/
def all : List Kind :=
  [truth true, truth false, comparison .eq, comparison .ne, comparison .lt, comparison .le,
    comparison .gt, comparison .ge, junction .and, junction .or, negation, universal]

/-- The name of a kind. -/
def name : Kind → String
  | truth true => "True"
  | truth false => "False"
  | comparison .eq => "Eq"
  | comparison .ne => "Neq"
  | comparison .lt => "Lt"
  | comparison .le => "Leq"
  | comparison .gt => "Gt"
  | comparison .ge => "Geq"
  | junction .and => "And"
  | junction .or => "Or"
  | negation => "Not"
  | universal => "Forall"

/-- The comparison of a kind of comparisons. -/
def comparison? : Kind → Option Comparison
  | comparison relation => some relation
  | _ => none

end Kind

/-- The kind of a formula's root. -/
def kind : Formula → Kind
  | truth value => .truth value
  | comparison relation _ _ => .comparison relation
  | junction connective _ _ => .junction connective
  | negation _ => .negation
  | universal _ _ => .universal

/-- The digest of a formula under any leaf hash. -/
def digestWith (leaf : LeafHash) : Formula → UInt64
  | truth value => leaf.node (if value then 0 else 1) []
  | comparison relation left right =>
    leaf.node (2 + relation.index) [left.digestWith leaf, right.digestWith leaf]
  | junction connective left right =>
    leaf.node (8 + connective.index) [left.digestWith leaf, right.digestWith leaf]
  | negation operand => leaf.node 10 [operand.digestWith leaf]
  | universal binders body => leaf.node 11 [leaf.set binders, body.digestWith leaf]

theorem digest_eq_digestWith (formula : Formula) :
    formula.digest = formula.digestWith .stored := by
  induction formula with
  | truth value => rfl
  | comparison relation left right =>
    simp only [digest, digestWith, Term.digest_eq_digestWith]
  | junction connective left right leftHypothesis rightHypothesis =>
    simp only [digest, digestWith, leftHypothesis, rightHypothesis]
  | negation operand inductionHypothesis => simp only [digest, digestWith, inductionHypothesis]
  | universal binders body inductionHypothesis =>
    simp only [digest, digestWith, inductionHypothesis]

/-! ## Reading -/

/-- The truth value that a formula is, if it is one. -/
def truth? : Formula → Option Bool
  | truth value => some value
  | _ => none

/-- The two terms that a comparison compares. -/
def operands? : Formula → Option (Term × Term)
  | comparison _ left right => some (left, right)
  | _ => none

/-- The number of formula nodes, terms not counted. -/
def nodeCount : Formula → Nat
  | truth _ => 1
  | comparison _ _ _ => 1
  | junction _ left right => left.nodeCount + right.nodeCount + 1
  | negation operand => operand.nodeCount + 1
  | universal _ body => body.nodeCount + 1

theorem nodeCount_pos (formula : Formula) : 0 < formula.nodeCount := by
  cases formula <;> simp [nodeCount]

/-- The variables with an occurrence that no quantifier binds. -/
def freeVariables : Formula → VarSet
  | truth _ => ∅
  | comparison _ left right => left.vars ∪ right.vars
  | junction _ left right => left.freeVariables ∪ right.freeVariables
  | negation operand => operand.freeVariables
  | universal binders body => body.freeVariables \ binders

end Formula

end FloatLogic
