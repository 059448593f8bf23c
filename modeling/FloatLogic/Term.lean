import FloatLogic.Digest
import FloatLogic.Double

/-!
# Terms

A term is a constant, a variable, or an arithmetic node over terms.  Terms are
kept as they are written and never simplified; only the sign of a zero constant
is dropped, by `Term.ofDouble`.
-/

namespace FloatLogic

/-- The binary operations on numbers. -/
inductive Arithmetic where
  | add
  | sub
  | mul
  | div
deriving DecidableEq

namespace Arithmetic

/-- The position of an operation in the list of all four. -/
def index : Arithmetic → Nat
  | add => 0
  | sub => 1
  | mul => 2
  | div => 3

/-- The sign between the two operands. -/
def symbol : Arithmetic → String
  | add => "+"
  | sub => "-"
  | mul => "*"
  | div => "/"

/-- The value of an operation; dividing by zero is as in IEEE arithmetic. -/
def apply : Arithmetic → Double → Double → Double
  | add => Double.add
  | sub => Double.sub
  | mul => Double.mul
  | div => Double.div

end Arithmetic

/-- An arithmetic term.  Every node stores its digest. -/
inductive Term where
  | constant (value : Double)
  | var (v : Variable)
  | neg (operand : Term)
  | binary (operation : Arithmetic) (left right : Term)
with
  /-- The digest of a term under the stored leaf hash. -/
  @[computed_field] digest : Term → UInt64
    | .constant value => LeafHash.stored.node 0 [LeafHash.stored.number value.bits]
    | .var v => LeafHash.stored.node 1 [LeafHash.stored.var v]
    | .neg operand => LeafHash.stored.node 2 [operand.digest]
    | .binary operation left right =>
      LeafHash.stored.node (3 + operation.index) [left.digest, right.digest]

namespace Term

instance : Inhabited Term := ⟨.constant .zero⟩

/-- The sorts of terms. -/
inductive Kind where
  | constant
  | var
  | neg
  | binary (operation : Arithmetic)
deriving DecidableEq

namespace Kind

/-- The position of a kind in the list of all seven. -/
def index : Kind → Nat
  | constant => 0
  | var => 1
  | neg => 2
  | binary operation => 3 + operation.index

/-- The name of a kind. -/
def name : Kind → String
  | constant => "Constant"
  | var => "Var"
  | neg => "Neg"
  | binary .add => "Add"
  | binary .sub => "Sub"
  | binary .mul => "Mul"
  | binary .div => "Div"

end Kind

/-- The kind of a term's root. -/
def kind : Term → Kind
  | constant _ => .constant
  | var _ => .var
  | neg _ => .neg
  | binary operation _ _ => .binary operation

/-- The digest of a term under any leaf hash. -/
def digestWith (leaf : LeafHash) : Term → UInt64
  | constant value => leaf.node 0 [leaf.number value.bits]
  | var v => leaf.node 1 [leaf.var v]
  | neg operand => leaf.node 2 [operand.digestWith leaf]
  | binary operation left right =>
    leaf.node (3 + operation.index) [left.digestWith leaf, right.digestWith leaf]

theorem digest_eq_digestWith (term : Term) : term.digest = term.digestWith .stored := by
  induction term with
  | constant value => rfl
  | var v => rfl
  | neg operand inductionHypothesis => simp only [digest, digestWith, inductionHypothesis]
  | binary operation left right leftHypothesis rightHypothesis =>
    simp only [digest, digestWith, leftHypothesis, rightHypothesis]

/-! ## Construction -/

/-- The constant with the given value; a zero loses its sign. -/
def ofDouble (value : Double) : Term := .constant value.withoutZeroSign

instance : Neg Term := ⟨.neg⟩
instance : Add Term := ⟨.binary .add⟩
instance : Sub Term := ⟨.binary .sub⟩
instance : Mul Term := ⟨.binary .mul⟩
instance : Div Term := ⟨.binary .div⟩

/-- Build a term again from its leaves, each constant through `ofDouble`. -/
def rebuild : Term → Term
  | constant value => ofDouble value
  | var v => .var v
  | neg operand => -operand.rebuild
  | binary operation left right => .binary operation left.rebuild right.rebuild

/-! ## Reading -/

/-- The number of nodes. -/
def nodeCount : Term → Nat
  | constant _ => 1
  | var _ => 1
  | neg operand => operand.nodeCount + 1
  | binary _ left right => left.nodeCount + right.nodeCount + 1

theorem nodeCount_pos (term : Term) : 0 < term.nodeCount := by
  cases term <;> simp [nodeCount]

/-- The variables that occur in a term. -/
def vars : Term → VarSet
  | constant _ => ∅
  | var v => .singleton v
  | neg operand => operand.vars
  | binary _ left right => left.vars ∪ right.vars

end Term

end FloatLogic
