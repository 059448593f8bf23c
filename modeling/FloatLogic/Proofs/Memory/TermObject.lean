import FloatLogic.Proofs.Memory.Object
import FloatLogic.Term.Equality

/-!
# Terms in memory

In memory a term is an object whose operands are objects again, and terms may share
them.  Two objects are compared by a list of pending pairs: a pair with one address
is the same object, and a pair whose kinds or digests differ is refuted at once.

`equalAll_eq_true_iff` says that the comparison decides whether the trees are the
same.  It rests on the coherence of memory and asks nothing of the leaf hash.
-/

namespace FloatLogic

/-- A term in memory.  An operand that terms share stands in each of them with the
same header. -/
inductive TermObject where
  | constant (header : Header) (value : Double)
  | var (header : Header) (v : Variable)
  | neg (header : Header) (operand : TermObject)
  | binary (header : Header) (operation : Arithmetic) (left right : TermObject)
deriving DecidableEq

namespace TermObject

/-- The header of an object. -/
def header : TermObject → Header
  | constant header _ => header
  | var header _ => header
  | neg header _ => header
  | binary header _ _ _ => header

/-- The term that an object stands for, whatever is shared in it. -/
def tree : TermObject → Term
  | constant _ value => .constant value
  | var _ v => .var v
  | neg _ operand => .neg operand.tree
  | binary _ operation left right => .binary operation left.tree right.tree

/-- The kind of an object. -/
def kind : TermObject → Term.Kind
  | constant _ _ => .constant
  | var _ _ => .var
  | neg _ _ => .neg
  | binary _ operation _ _ => .binary operation

theorem kind_eq (object : TermObject) : object.kind = object.tree.kind := by
  cases object <;> rfl

/-- The operands of an object. -/
def parts : TermObject → List TermObject
  | constant _ _ => []
  | var _ _ => []
  | neg _ operand => [operand]
  | binary _ _ left right => [left, right]

/-- The objects that an object keeps in memory: itself and what is below it. -/
def reachable : TermObject → List TermObject
  | constant header value => [constant header value]
  | var header v => [var header v]
  | neg header operand => neg header operand :: operand.reachable
  | binary header operation left right =>
    binary header operation left right :: (left.reachable ++ right.reachable)

theorem mem_reachable_self (object : TermObject) : object ∈ object.reachable := by
  cases object <;> simp [reachable]

/-- What a new object keeps besides itself is what its operands keep. -/
theorem mem_reachable_iff {object other : TermObject} :
    other ∈ object.reachable ↔ other = object ∨ ∃ part ∈ object.parts, other ∈ part.reachable := by
  cases object <;> simp [reachable, parts]

theorem mem_reachable_of_mem_parts {root object part : TermObject}
    (stored : object ∈ root.reachable) (isPart : part ∈ object.parts) :
    part ∈ root.reachable := by
  induction root with
  | constant header value =>
    obtain rfl := List.mem_singleton.mp stored
    simp [parts] at isPart
  | var header v =>
    obtain rfl := List.mem_singleton.mp stored
    simp [parts] at isPart
  | neg header operand inductionHypothesis =>
    rw [mem_reachable_iff]
    rcases List.mem_cons.mp stored with rfl | below
    · exact Or.inr ⟨part, isPart, part.mem_reachable_self⟩
    · exact Or.inr ⟨operand, by simp [parts], inductionHypothesis below⟩
  | binary header operation left right leftHypothesis rightHypothesis =>
    rw [mem_reachable_iff]
    rcases List.mem_cons.mp stored with rfl | below
    · exact Or.inr ⟨part, isPart, part.mem_reachable_self⟩
    · rcases List.mem_append.mp below with belowLeft | belowRight
      · exact Or.inr ⟨left, by simp [parts], leftHypothesis belowLeft⟩
      · exact Or.inr ⟨right, by simp [parts], rightHypothesis belowRight⟩

/-! ## Allocation -/

/-- The digest of an object's kind and contents and of the digests that its operands
keep. -/
def combinedDigest (leaf : LeafHash) : TermObject → UInt64
  | constant _ value => leaf.node 0 [leaf.number value.bits]
  | var _ v => leaf.node 1 [leaf.var v]
  | neg _ operand => leaf.node 2 [operand.header.digest]
  | binary _ operation left right =>
    leaf.node (3 + operation.index) [left.header.digest, right.header.digest]

/-- A new object at an address; its contents are given by what they make of a
header. -/
def allocate (leaf : LeafHash) (address : Nat) (contents : Header → TermObject) : TermObject :=
  contents ⟨address, (contents ⟨address, 0⟩).combinedDigest leaf⟩

/-! ## Comparison -/

/-- The total size of the left sides, which every step of a comparison lowers. -/
def pendingSize (pending : List (TermObject × TermObject)) : Nat :=
  Term.pendingSize (pending.map fun pair => (pair.1.tree, pair.2.tree))

/-- Whether the two sides of every pending pair stand for the same term. -/
def equalAll : List (TermObject × TermObject) → Bool
  | [] => true
  | (first, second) :: pending =>
    if first.header.address = second.header.address then equalAll pending
    else if first.kind ≠ second.kind then false
    else if first.header.digest ≠ second.header.digest then false
    else
      match first, second with
      | constant _ value, constant _ other => if value = other then equalAll pending else false
      | var _ v, var _ w => if v = w then equalAll pending else false
      | neg _ operand, neg _ other => equalAll ((operand, other) :: pending)
      | binary _ _ left right, binary _ _ otherLeft otherRight =>
        equalAll ((left, otherLeft) :: (right, otherRight) :: pending)
      | _, _ => false
termination_by pending => pendingSize pending
decreasing_by
  · simp [pendingSize, Term.pendingSize, Term.nodeCount_pos]
  all_goals simp [pendingSize, Term.pendingSize, tree, Term.nodeCount]
  all_goals omega

/-- Whether two objects stand for the same term. -/
def equal (first second : TermObject) : Bool := equalAll [(first, second)]

/-- What the term objects in memory have in common. -/
abbrev Coherent (leaf : LeafHash) (objects : Set TermObject) : Prop :=
  FloatLogic.Coherent header parts (fun object => object.tree.digestWith leaf) objects

variable {leaf : LeafHash} {objects : Set TermObject}

/-- The comparison answers exactly whether all pending pairs stand for the same
terms. -/
theorem equalAll_eq_true_iff (coherent : Coherent leaf objects)
    (pending : List (TermObject × TermObject))
    (stored : ∀ pair ∈ pending, pair.1 ∈ objects ∧ pair.2 ∈ objects) :
    equalAll pending = true ↔ ∀ pair ∈ pending, pair.1.tree = pair.2.tree := by
  fun_induction equalAll pending with
  | case1 => simp
  | case2 first second pending same inductionHypothesis =>
    rcases List.forall_mem_cons.mp stored with ⟨⟨firstStored, secondStored⟩, restStored⟩
    rw [inductionHypothesis restStored, List.forall_mem_cons]
    have sameObject : first = second := coherent.eq_of_address firstStored secondStored same
    exact (and_iff_right (congrArg tree sameObject)).symm
  | case3 first second pending _ kinds =>
    have different : first.tree ≠ second.tree := by
      intro same
      rw [kind_eq, kind_eq, same] at kinds
      exact kinds rfl
    simp [different]
  | case4 first second pending _ _ digests =>
    rcases List.forall_mem_cons.mp stored with ⟨⟨firstStored, secondStored⟩, _⟩
    have different : first.tree ≠ second.tree := by
      intro same
      rw [coherent.digests first firstStored, coherent.digests second secondStored, same] at digests
      exact digests rfl
    simp [different]
  | case5 pending header value otherHeader _ _ _ inductionHypothesis =>
    rw [inductionHypothesis (List.forall_mem_cons.mp stored).2]
    simp [tree]
  | case6 pending _ value _ other different => simp [tree, different]
  | case7 pending header v otherHeader _ _ _ inductionHypothesis =>
    rw [inductionHypothesis (List.forall_mem_cons.mp stored).2]
    simp [tree]
  | case8 pending _ v _ w different => simp [tree, different]
  | case9 pending header operand otherHeader other _ _ _ inductionHypothesis =>
    rcases List.forall_mem_cons.mp stored with ⟨⟨firstStored, secondStored⟩, restStored⟩
    have operandStored := coherent.mem_of_mem_parts _ firstStored operand (by simp [parts])
    have otherStored := coherent.mem_of_mem_parts _ secondStored other (by simp [parts])
    rw [inductionHypothesis
      (List.forall_mem_cons.mpr ⟨⟨operandStored, otherStored⟩, restStored⟩)]
    simp [tree]
  | case10 pending header operation left right otherHeader otherOperation otherLeft otherRight _
      kinds _ inductionHypothesis =>
    rcases List.forall_mem_cons.mp stored with ⟨⟨firstStored, secondStored⟩, restStored⟩
    have sameOperation : operation = otherOperation := by simpa [kind] using kinds
    have leftStored := coherent.mem_of_mem_parts _ firstStored left (by simp [parts])
    have rightStored := coherent.mem_of_mem_parts _ firstStored right (by simp [parts])
    have otherLeftStored := coherent.mem_of_mem_parts _ secondStored otherLeft (by simp [parts])
    have otherRightStored := coherent.mem_of_mem_parts _ secondStored otherRight (by simp [parts])
    rw [inductionHypothesis (List.forall_mem_cons.mpr ⟨⟨leftStored, otherLeftStored⟩,
      List.forall_mem_cons.mpr ⟨⟨rightStored, otherRightStored⟩, restStored⟩⟩)]
    simp [tree, sameOperation, and_assoc]
  | case11 first second pending _ _ _ noConstants noVars noNegs noBinaries =>
    have different : first.tree ≠ second.tree := by
      intro same
      -- Trees of different kinds differ, and the cases before are those of one kind.
      cases first <;> cases second <;> try cases same
      · exact noConstants _ _ _ _ rfl rfl
      · exact noVars _ _ _ _ rfl rfl
      · exact noNegs _ _ _ _ rfl rfl
      · exact noBinaries _ _ _ _ _ _ _ _ rfl rfl
    simp [different]

/-- The combined digest is the digest of the term, if the operands are in memory. -/
theorem combinedDigest_eq (coherent : Coherent leaf objects) {object : TermObject}
    (partsStored : ∀ part ∈ object.parts, part ∈ objects) :
    object.combinedDigest leaf = object.tree.digestWith leaf := by
  have digests : ∀ part ∈ object.parts, part.header.digest = part.tree.digestWith leaf :=
    fun part isPart => coherent.digests part (partsStored part isPart)
  cases object with
  | constant header value => rfl
  | var header v => rfl
  | neg header operand =>
    simp only [combinedDigest, tree, Term.digestWith, digests operand (by simp [parts])]
  | binary header operation left right =>
    simp only [combinedDigest, tree, Term.digestWith, digests left (by simp [parts]),
      digests right (by simp [parts])]

/-- Two objects are equal exactly if they stand for the same term. -/
theorem equal_eq_true_iff (coherent : Coherent leaf objects) {first second : TermObject}
    (firstStored : first ∈ objects) (secondStored : second ∈ objects) :
    first.equal second = true ↔ first.tree = second.tree := by
  rw [equal, equalAll_eq_true_iff coherent _ (by simp [firstStored, secondStored])]
  simp

end TermObject

end FloatLogic
