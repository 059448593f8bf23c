import FloatLogic.Formula.Folding
import FloatLogic.Proofs.Memory.TermObject

/-!
# Formulas in memory

Formulas are objects like terms.  Their comparison keeps a list of pending pairs of
formula objects; the term objects of a comparison and the binders of a quantifier
are compared in place.
-/

namespace FloatLogic

/-- A formula in memory. -/
inductive FormulaObject where
  | truth (header : Header) (value : Bool)
  | comparison (header : Header) (relation : Comparison) (left right : TermObject)
  | junction (header : Header) (connective : Connective) (left right : FormulaObject)
  | negation (header : Header) (operand : FormulaObject)
  | universal (header : Header) (binders : VarSet) (body : FormulaObject)
deriving DecidableEq

namespace FormulaObject

/-- The header of an object. -/
def header : FormulaObject → Header
  | truth header _ => header
  | comparison header _ _ _ => header
  | junction header _ _ _ => header
  | negation header _ => header
  | universal header _ _ => header

/-- The formula that an object stands for, whatever is shared in it. -/
def tree : FormulaObject → Formula
  | truth _ value => .truth value
  | comparison _ relation left right => .comparison relation left.tree right.tree
  | junction _ connective left right => .junction connective left.tree right.tree
  | negation _ operand => .negation operand.tree
  | universal _ binders body => .universal binders body.tree

/-- The kind of an object. -/
def kind : FormulaObject → Formula.Kind
  | truth _ value => .truth value
  | comparison _ relation _ _ => .comparison relation
  | junction _ connective _ _ => .junction connective
  | negation _ _ => .negation
  | universal _ _ _ => .universal

theorem kind_eq (object : FormulaObject) : object.kind = object.tree.kind := by
  cases object <;> rfl

/-- The formula objects right below an object. -/
def parts : FormulaObject → List FormulaObject
  | truth _ _ => []
  | comparison _ _ _ _ => []
  | junction _ _ left right => [left, right]
  | negation _ operand => [operand]
  | universal _ _ body => [body]

/-- The two term objects of a comparison. -/
def operands : FormulaObject → List TermObject
  | truth _ _ => []
  | comparison _ _ left right => [left, right]
  | junction _ _ _ _ => []
  | negation _ _ => []
  | universal _ _ _ => []

/-- The formula objects that an object keeps in memory: itself and what is below
it. -/
def reachable : FormulaObject → List FormulaObject
  | truth header value => [truth header value]
  | comparison header relation left right => [comparison header relation left right]
  | junction header connective left right =>
    junction header connective left right :: (left.reachable ++ right.reachable)
  | negation header operand => negation header operand :: operand.reachable
  | universal header binders body => universal header binders body :: body.reachable

/-- The term objects that an object keeps in memory. -/
def reachableTerms (object : FormulaObject) : List TermObject :=
  object.reachable.flatMap fun below => below.operands.flatMap TermObject.reachable

theorem mem_reachable_self (object : FormulaObject) : object ∈ object.reachable := by
  cases object <;> simp [reachable]

/-- What a new object keeps besides itself is what its parts keep. -/
theorem mem_reachable_iff {object other : FormulaObject} :
    other ∈ object.reachable ↔ other = object ∨ ∃ part ∈ object.parts, other ∈ part.reachable := by
  cases object <;> simp [reachable, parts]

theorem mem_reachable_of_mem_parts {root object part : FormulaObject}
    (stored : object ∈ root.reachable) (isPart : part ∈ object.parts) :
    part ∈ root.reachable := by
  induction root with
  | truth header value =>
    obtain rfl := List.mem_singleton.mp stored
    simp [parts] at isPart
  | comparison header relation left right =>
    obtain rfl := List.mem_singleton.mp stored
    simp [parts] at isPart
  | junction header connective left right leftHypothesis rightHypothesis =>
    rw [mem_reachable_iff]
    rcases List.mem_cons.mp stored with rfl | below
    · exact Or.inr ⟨part, isPart, part.mem_reachable_self⟩
    · rcases List.mem_append.mp below with belowLeft | belowRight
      · exact Or.inr ⟨left, by simp [parts], leftHypothesis belowLeft⟩
      · exact Or.inr ⟨right, by simp [parts], rightHypothesis belowRight⟩
  | negation header operand inductionHypothesis =>
    rw [mem_reachable_iff]
    rcases List.mem_cons.mp stored with rfl | below
    · exact Or.inr ⟨part, isPart, part.mem_reachable_self⟩
    · exact Or.inr ⟨operand, by simp [parts], inductionHypothesis below⟩
  | universal header binders body inductionHypothesis =>
    rw [mem_reachable_iff]
    rcases List.mem_cons.mp stored with rfl | below
    · exact Or.inr ⟨part, isPart, part.mem_reachable_self⟩
    · exact Or.inr ⟨body, by simp [parts], inductionHypothesis below⟩

theorem mem_reachableTerms_iff {object : FormulaObject} {term : TermObject} :
    term ∈ object.reachableTerms ↔
      ∃ below ∈ object.reachable, ∃ operand ∈ below.operands, term ∈ operand.reachable := by
  simp [reachableTerms]

/-! ## Allocation -/

/-- The digest of an object's kind and contents and of the digests that its parts and
operands keep. -/
def combinedDigest (leaf : LeafHash) : FormulaObject → UInt64
  | truth _ value => leaf.node (if value then 0 else 1) []
  | comparison _ relation left right =>
    leaf.node (2 + relation.index) [left.header.digest, right.header.digest]
  | junction _ connective left right =>
    leaf.node (8 + connective.index) [left.header.digest, right.header.digest]
  | negation _ operand => leaf.node 10 [operand.header.digest]
  | universal _ binders body => leaf.node 11 [leaf.set binders, body.header.digest]

/-- A new object at an address; its contents are given by what they make of a
header. -/
def allocate (leaf : LeafHash) (address : Nat) (contents : Header → FormulaObject) :
    FormulaObject :=
  contents ⟨address, (contents ⟨address, 0⟩).combinedDigest leaf⟩

/-- The one object of a truth value, which is never released. -/
def singleton (leaf : LeafHash) (value : Bool) : FormulaObject :=
  allocate leaf (if value then 0 else 1) (.truth · value)

/-! ## Comparison -/

/-- The total size of the left sides, which every step of a comparison lowers. -/
def pendingSize (pending : List (FormulaObject × FormulaObject)) : Nat :=
  Formula.pendingSize (pending.map fun pair => (pair.1.tree, pair.2.tree))

/-- Whether the two sides of every pending pair stand for the same formula. -/
def equalAll : List (FormulaObject × FormulaObject) → Bool
  | [] => true
  | (first, second) :: pending =>
    if first.header.address = second.header.address then equalAll pending
    else if first.kind ≠ second.kind then false
    else if first.header.digest ≠ second.header.digest then false
    else
      match first, second with
      | truth _ _, truth _ _ => equalAll pending
      | comparison _ _ left right, comparison _ _ otherLeft otherRight =>
        if left.equal otherLeft && right.equal otherRight then equalAll pending else false
      | junction _ _ left right, junction _ _ otherLeft otherRight =>
        equalAll ((left, otherLeft) :: (right, otherRight) :: pending)
      | negation _ operand, negation _ other => equalAll ((operand, other) :: pending)
      | universal _ binders body, universal _ otherBinders otherBody =>
        if binders = otherBinders then equalAll ((body, otherBody) :: pending) else false
      | _, _ => false
termination_by pending => pendingSize pending
decreasing_by
  · simp [pendingSize, Formula.pendingSize, Formula.nodeCount_pos]
  all_goals simp [pendingSize, Formula.pendingSize, tree, Formula.nodeCount]
  all_goals omega

/-- Whether two objects stand for the same formula. -/
def equal (first second : FormulaObject) : Bool := equalAll [(first, second)]

/-- What the term and formula objects in memory have in common. -/
structure Coherent (leaf : LeafHash) (terms : Set TermObject) (objects : Set FormulaObject) :
    Prop where
  ofTerms : TermObject.Coherent leaf terms
  ofFormulas :
    FloatLogic.Coherent header parts (fun object => object.tree.digestWith leaf) objects
  mem_of_mem_operands : ∀ object ∈ objects, ∀ operand ∈ object.operands, operand ∈ terms

variable {leaf : LeafHash} {terms : Set TermObject} {objects : Set FormulaObject}

/-- The terms of two comparisons in memory are compared exactly. -/
theorem Coherent.operands_equal_iff (coherent : Coherent leaf terms objects)
    {header otherHeader : Header}
    {relation otherRelation : Comparison} {left right otherLeft otherRight : TermObject}
    (firstStored : comparison header relation left right ∈ objects)
    (secondStored : comparison otherHeader otherRelation otherLeft otherRight ∈ objects) :
    (left.equal otherLeft && right.equal otherRight) = true ↔
      left.tree = otherLeft.tree ∧ right.tree = otherRight.tree := by
  have leftStored := coherent.mem_of_mem_operands _ firstStored left (by simp [operands])
  have rightStored := coherent.mem_of_mem_operands _ firstStored right (by simp [operands])
  have otherLeftStored :=
    coherent.mem_of_mem_operands _ secondStored otherLeft (by simp [operands])
  have otherRightStored :=
    coherent.mem_of_mem_operands _ secondStored otherRight (by simp [operands])
  rw [Bool.and_eq_true, TermObject.equal_eq_true_iff coherent.ofTerms leftStored otherLeftStored,
    TermObject.equal_eq_true_iff coherent.ofTerms rightStored otherRightStored]

/-- The comparison answers exactly whether all pending pairs stand for the same
formulas. -/
theorem equalAll_eq_true_iff (coherent : Coherent leaf terms objects)
    (pending : List (FormulaObject × FormulaObject))
    (stored : ∀ pair ∈ pending, pair.1 ∈ objects ∧ pair.2 ∈ objects) :
    equalAll pending = true ↔ ∀ pair ∈ pending, pair.1.tree = pair.2.tree := by
  fun_induction equalAll pending with
  | case1 => simp
  | case2 first second pending same inductionHypothesis =>
    rcases List.forall_mem_cons.mp stored with ⟨⟨firstStored, secondStored⟩, restStored⟩
    rw [inductionHypothesis restStored, List.forall_mem_cons]
    have sameObject : first = second :=
      coherent.ofFormulas.eq_of_address firstStored secondStored same
    exact (and_iff_right (congrArg tree sameObject)).symm
  | case3 first second pending _ kinds =>
    have different : first.tree ≠ second.tree := by
      intro same
      rw [kind_eq, kind_eq, same] at kinds
      exact kinds rfl
    simp [different]
  | case4 first second pending _ _ digests =>
    rcases List.forall_mem_cons.mp stored with ⟨⟨firstStored, secondStored⟩, _⟩
    have different : first.tree ≠ second.tree := by
      intro same
      rw [coherent.ofFormulas.digests first firstStored,
        coherent.ofFormulas.digests second secondStored, same] at digests
      exact digests rfl
    simp [different]
  | case5 pending header value otherHeader other _ kinds _ inductionHypothesis =>
    have sameValue : value = other := by simpa [kind] using kinds
    rw [inductionHypothesis (List.forall_mem_cons.mp stored).2]
    simp [tree, sameValue]
  | case6 pending header relation left right otherHeader otherRelation otherLeft otherRight same _
      kinds _ inductionHypothesis =>
    rcases List.forall_mem_cons.mp stored with ⟨⟨firstStored, secondStored⟩, restStored⟩
    have sameRelation : relation = otherRelation := by simpa [kind] using kinds
    obtain ⟨sameLeft, sameRight⟩ :=
      (coherent.operands_equal_iff firstStored secondStored).mp same
    rw [inductionHypothesis restStored]
    simp [tree, sameRelation, sameLeft, sameRight]
  | case7 pending header relation left right otherHeader otherRelation otherLeft otherRight
      different =>
    rcases List.forall_mem_cons.mp stored with ⟨⟨firstStored, secondStored⟩, _⟩
    rw [coherent.operands_equal_iff firstStored secondStored] at different
    simp [tree, different]
  | case8 pending header connective left right otherHeader otherConnective otherLeft otherRight _
      kinds _ inductionHypothesis =>
    rcases List.forall_mem_cons.mp stored with ⟨⟨firstStored, secondStored⟩, restStored⟩
    have sameConnective : connective = otherConnective := by simpa [kind] using kinds
    have leftStored := coherent.ofFormulas.mem_of_mem_parts _ firstStored left (by simp [parts])
    have rightStored := coherent.ofFormulas.mem_of_mem_parts _ firstStored right (by simp [parts])
    have otherLeftStored :=
      coherent.ofFormulas.mem_of_mem_parts _ secondStored otherLeft (by simp [parts])
    have otherRightStored :=
      coherent.ofFormulas.mem_of_mem_parts _ secondStored otherRight (by simp [parts])
    rw [inductionHypothesis (List.forall_mem_cons.mpr ⟨⟨leftStored, otherLeftStored⟩,
      List.forall_mem_cons.mpr ⟨⟨rightStored, otherRightStored⟩, restStored⟩⟩)]
    simp [tree, sameConnective, and_assoc]
  | case9 pending header operand otherHeader other _ _ _ inductionHypothesis =>
    rcases List.forall_mem_cons.mp stored with ⟨⟨firstStored, secondStored⟩, restStored⟩
    have operandStored :=
      coherent.ofFormulas.mem_of_mem_parts _ firstStored operand (by simp [parts])
    have otherStored := coherent.ofFormulas.mem_of_mem_parts _ secondStored other (by simp [parts])
    rw [inductionHypothesis
      (List.forall_mem_cons.mpr ⟨⟨operandStored, otherStored⟩, restStored⟩)]
    simp [tree]
  | case10 pending header body otherHeader binders otherBody _ _ _ inductionHypothesis =>
    rcases List.forall_mem_cons.mp stored with ⟨⟨firstStored, secondStored⟩, restStored⟩
    have bodyStored := coherent.ofFormulas.mem_of_mem_parts _ firstStored body (by simp [parts])
    have otherStored :=
      coherent.ofFormulas.mem_of_mem_parts _ secondStored otherBody (by simp [parts])
    rw [inductionHypothesis
      (List.forall_mem_cons.mpr ⟨⟨bodyStored, otherStored⟩, restStored⟩)]
    simp [tree]
  | case11 pending _ binders body _ otherBinders otherBody different => simp [tree, different]
  | case12 first second pending _ _ _ noTruths noComparisons noJunctions noNegations
      noUniversals =>
    have different : first.tree ≠ second.tree := by
      intro same
      -- Trees of different kinds differ, and the cases before are those of one kind.
      cases first <;> cases second <;> try cases same
      · exact noTruths _ _ _ _ rfl rfl
      · exact noComparisons _ _ _ _ _ _ _ _ rfl rfl
      · exact noJunctions _ _ _ _ _ _ _ _ rfl rfl
      · exact noNegations _ _ _ _ rfl rfl
      · exact noUniversals _ _ _ _ _ _ rfl rfl
    simp [different]

/-- The combined digest is the digest of the formula, if what the object is made of
is in memory. -/
theorem combinedDigest_eq (coherent : Coherent leaf terms objects) {object : FormulaObject}
    (partsStored : ∀ part ∈ object.parts, part ∈ objects)
    (operandsStored : ∀ operand ∈ object.operands, operand ∈ terms) :
    object.combinedDigest leaf = object.tree.digestWith leaf := by
  have digests : ∀ part ∈ object.parts, part.header.digest = part.tree.digestWith leaf :=
    fun part isPart => coherent.ofFormulas.digests part (partsStored part isPart)
  have operandDigests : ∀ operand ∈ object.operands,
      operand.header.digest = operand.tree.digestWith leaf :=
    fun operand isOperand => coherent.ofTerms.digests operand (operandsStored operand isOperand)
  cases object with
  | truth header value => rfl
  | comparison header relation left right =>
    simp only [combinedDigest, tree, Formula.digestWith, operandDigests left (by simp [operands]),
      operandDigests right (by simp [operands])]
  | junction header connective left right =>
    simp only [combinedDigest, tree, Formula.digestWith, digests left (by simp [parts]),
      digests right (by simp [parts])]
  | negation header operand =>
    simp only [combinedDigest, tree, Formula.digestWith, digests operand (by simp [parts])]
  | universal header binders body =>
    simp only [combinedDigest, tree, Formula.digestWith, digests body (by simp [parts])]

/-- Two objects are equal exactly if they stand for the same formula. -/
theorem equal_eq_true_iff (coherent : Coherent leaf terms objects) {first second : FormulaObject}
    (firstStored : first ∈ objects) (secondStored : second ∈ objects) :
    first.equal second = true ↔ first.tree = second.tree := by
  rw [equal, equalAll_eq_true_iff coherent _ (by simp [firstStored, secondStored])]
  simp

end FormulaObject

end FloatLogic
