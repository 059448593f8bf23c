import FloatLogic.Evaluation
import FloatLogic.Formula.Rendering
import FloatLogic.Proofs.Grouping.Classes
import FloatLogic.Proofs.Memory.Calls

/-!
# Equality in memory is a congruence

In a memory that a run reaches, equality of live objects is an equivalence relation
that nothing observes: equal objects have one kind, one digest and one text, they
evaluate and render alike, and constructors make equal objects of them and fold them
alike, whatever their addresses are and whatever they share.  Live objects are
therefore keys of a hash map, and grouping them gives their classes.
-/

namespace FloatLogic

variable {leaf : LeafHash}

/-! ## Observations -/

/-- Two term objects cannot be told apart by reading or evaluating them. -/
structure TermObject.Alike (leaf : LeafHash) (first second : TermObject) : Prop where
  kind : first.kind = second.kind
  digest : first.header.digest = second.header.digest
  text : ∀ names, first.tree.text names = second.tree.text names
  vars : first.tree.vars = second.tree.vars
  varsDigest : leaf.set first.tree.vars = leaf.set second.tree.vars
  value : ∀ environment, first.tree.evaluate environment = second.tree.evaluate environment

/-- Two formula objects cannot be told apart by reading, rendering or evaluating
them. -/
structure FormulaObject.Alike (leaf : LeafHash) (first second : FormulaObject) : Prop where
  kind : first.kind = second.kind
  digest : first.header.digest = second.header.digest
  text : ∀ names, first.tree.text names = second.tree.text names
  freeVariables : first.tree.freeVariables = second.tree.freeVariables
  freeVariablesDigest : leaf.set first.tree.freeVariables = leaf.set second.tree.freeVariables
  rendering : ∀ names width ruler,
    first.tree.render names width ruler = second.tree.render names width ruler
  value : ∀ environment, first.tree.evaluate environment = second.tree.evaluate environment
  refusals : ∀ environment,
    (first.tree.evaluateLogged environment).records =
      (second.tree.evaluateLogged environment).records

/-! ## Coherent objects -/

theorem TermObject.alike_of_tree_eq {objects : Set TermObject} (coherent : Coherent leaf objects)
    {first second : TermObject} (firstStored : first ∈ objects) (secondStored : second ∈ objects)
    (same : first.tree = second.tree) : first.Alike leaf second where
  kind := by rw [kind_eq, kind_eq, same]
  digest := by rw [coherent.digests first firstStored, coherent.digests second secondStored, same]
  text _ := by rw [same]
  vars := by rw [same]
  varsDigest := by rw [same]
  value _ := by rw [same]

theorem FormulaObject.alike_of_tree_eq {terms : Set TermObject} {objects : Set FormulaObject}
    (coherent : Coherent leaf terms objects) {first second : FormulaObject}
    (firstStored : first ∈ objects) (secondStored : second ∈ objects)
    (same : first.tree = second.tree) : first.Alike leaf second where
  kind := by rw [kind_eq, kind_eq, same]
  digest := by
    rw [coherent.ofFormulas.digests first firstStored,
      coherent.ofFormulas.digests second secondStored, same]
  text _ := by rw [same]
  freeVariables := by rw [same]
  freeVariablesDigest := by rw [same]
  rendering _ _ _ := by rw [same]
  value _ := by rw [same]
  refusals _ := by rw [same]

/-! ## New objects -/

/-- A term object that a constructor makes at an address of operands in memory. -/
structure TermObject.Made (leaf : LeafHash) (objects : Set TermObject) (address : Nat)
    (object : TermObject) : Prop where
  header : object.header = ⟨address, object.combinedDigest leaf⟩
  partsStored : ∀ part ∈ object.parts, part ∈ objects

/-- A formula object that a constructor gives: one that is in memory, or one that is
made at an address of operands in memory. -/
inductive FormulaObject.Made (leaf : LeafHash) (terms : Set TermObject)
    (objects : Set FormulaObject) (address : Nat) (object : FormulaObject) : Prop
  | stored (isStored : object ∈ objects)
  | new (header : object.header = ⟨address, object.combinedDigest leaf⟩)
      (partsStored : ∀ part ∈ object.parts, part ∈ objects)
      (operandsStored : ∀ operand ∈ object.operands, operand ∈ terms)

namespace TermObject

variable {objects : Set TermObject} {address other : Nat} {first second : TermObject}

theorem Made.coherent_insert (coherent : Coherent leaf objects)
    (made : Made leaf objects address first)
    (free : ∀ object ∈ objects, object.header.address ≠ address) :
    Coherent leaf (insert first objects) := by
  apply coherent.insert made.partsStored
  · intro object stored
    rw [made.header]
    exact free object stored
  · rw [made.header]
    exact combinedDigest_eq coherent made.partsStored

/-- Objects made of one tree at different free addresses are equal. -/
theorem Made.equal (coherent : Coherent leaf objects) (firstMade : Made leaf objects address first)
    (secondMade : Made leaf objects other second)
    (free : ∀ object ∈ objects, object.header.address ≠ address)
    (otherFree : ∀ object ∈ objects, object.header.address ≠ other) (different : address ≠ other)
    (same : first.tree = second.tree) : first.equal second = true := by
  -- Comparison is exact in a coherent memory, so both objects are put into one.
  have withFirst := firstMade.coherent_insert coherent free
  have secondMadeLater : Made leaf (insert first objects) other second :=
    ⟨secondMade.header, fun part isPart => Or.inr (secondMade.partsStored part isPart)⟩
  have withBoth := secondMadeLater.coherent_insert withFirst (by
    rintro object (rfl | stored)
    · rw [firstMade.header]
      exact different
    · exact otherFree object stored)
  exact (equal_eq_true_iff withBoth (Or.inr (Or.inl rfl)) (Or.inl rfl)).mpr same

end TermObject

namespace FormulaObject

variable {terms : Set TermObject} {objects : Set FormulaObject} {address other : Nat}
  {first second : FormulaObject}

theorem Made.coherent_insert (coherent : Coherent leaf terms objects)
    (made : Made leaf terms objects address first)
    (free : ∀ object ∈ objects, object.header.address ≠ address) :
    Coherent leaf terms (insert first objects) := by
  cases made with
  | stored isStored =>
    rw [Set.insert_eq_of_mem isStored]
    exact coherent
  | new header partsStored operandsStored =>
    exact {
      ofTerms := coherent.ofTerms
      ofFormulas := by
        apply coherent.ofFormulas.insert partsStored
        · intro object stored
          rw [header]
          exact free object stored
        · rw [header]
          exact combinedDigest_eq coherent partsStored operandsStored
      mem_of_mem_operands := by
        rintro object (rfl | stored)
        · exact operandsStored
        · exact coherent.mem_of_mem_operands object stored }

/-- Objects given for one tree at different free addresses are equal. -/
theorem Made.equal (coherent : Coherent leaf terms objects)
    (firstMade : Made leaf terms objects address first)
    (secondMade : Made leaf terms objects other second)
    (free : ∀ object ∈ objects, object.header.address ≠ address)
    (otherFree : ∀ object ∈ objects, object.header.address ≠ other) (different : address ≠ other)
    (same : first.tree = second.tree) : first.equal second = true := by
  have withFirst := firstMade.coherent_insert coherent free
  have withBoth : Coherent leaf terms (insert second (insert first objects)) := by
    cases secondMade with
    | stored isStored =>
      have already : second ∈ insert first objects := Or.inr isStored
      rw [Set.insert_eq_of_mem already]
      exact withFirst
    | new header partsStored operandsStored =>
      have secondMadeLater : Made leaf terms (insert first objects) other second :=
        .new header (fun part isPart => Or.inr (partsStored part isPart)) operandsStored
      apply secondMadeLater.coherent_insert withFirst
      rintro object (rfl | stored)
      · cases firstMade with
        | stored isStored => exact otherFree object isStored
        | new header _ _ =>
          rw [header]
          exact different
      · exact otherFree object stored
  exact (equal_eq_true_iff withBoth (Or.inr (Or.inl rfl)) (Or.inl rfl)).mpr same

/-! ## What constructors make -/

theorem made_compare (relation : Comparison) {left right : TermObject}
    (truths : ∀ value, singleton leaf value ∈ objects) (leftStored : left ∈ terms)
    (rightStored : right ∈ terms) :
    Made leaf terms objects address (compare leaf address relation left right) := by
  rw [compare]
  split
  · exact .stored (truths _)
  · apply Made.new rfl
    · simp [allocate, parts]
    · simp [allocate, operands, leftStored, rightStored]

theorem made_join (connective : Connective) {left right : FormulaObject}
    (truths : ∀ value, singleton leaf value ∈ objects) (leftStored : left ∈ objects)
    (rightStored : right ∈ objects) :
    Made leaf terms objects address (join leaf address connective left right) := by
  rw [join]
  split
  · exact .stored (truths _)
  · exact .stored leftStored
  · exact .stored rightStored
  · apply Made.new rfl
    · simp [allocate, parts, leftStored, rightStored]
    · simp [allocate, operands]

theorem made_negate {operand : FormulaObject} (truths : ∀ value, singleton leaf value ∈ objects)
    (stored : operand ∈ objects) :
    Made leaf terms objects address (negate leaf address operand) := by
  rw [negate]
  split
  · exact .stored (truths _)
  · apply Made.new rfl
    · simp [allocate, parts, stored]
    · simp [allocate, operands]

theorem made_universal (binders : VarSet) {body : FormulaObject} (stored : body ∈ objects) :
    Made leaf terms objects address (allocate leaf address (.universal · binders body)) := by
  apply Made.new rfl
  · simp [allocate, parts, stored]
  · simp [allocate, operands]

end FormulaObject

namespace Memory

/-! ## Handles -/

/-- A memory that a run reaches. -/
structure Reached (leaf : LeafHash) where
  memory : Memory
  reached : ∃ calls, run leaf calls = some memory

namespace Reached

variable (state : Reached leaf)

theorem sound : state.memory.Sound leaf := by
  obtain ⟨calls, ran⟩ := state.reached
  exact (sound_and_trees_of_foldlM calls sound_empty ran).1

theorem term_free {address : Nat} (free : address ∉ state.memory.addresses leaf) :
    ∀ object ∈ {object | object ∈ state.memory.termObjects}, object.header.address ≠ address := by
  rintro object live rfl
  exact free (List.mem_append_left _ (List.mem_map.mpr ⟨object, live, rfl⟩))

theorem formula_free {address : Nat} (free : address ∉ state.memory.addresses leaf) :
    ∀ object ∈ {object | object ∈ state.memory.formulaObjects leaf},
      object.header.address ≠ address := by
  rintro object live rfl
  exact free (List.mem_append_right _ (List.mem_map.mpr ⟨object, live, rfl⟩))

theorem singleton_live (value : Bool) :
    FormulaObject.singleton leaf value ∈ state.memory.formulaObjects leaf :=
  mem_formulaObjects_iff.mpr (Or.inl ⟨value, rfl⟩)

end Reached

/-- A handle of a live term object. -/
structure LiveTerm (state : Reached leaf) where
  object : TermObject
  live : object ∈ state.memory.termObjects

/-- A handle of a live formula object. -/
structure LiveFormula (state : Reached leaf) where
  object : FormulaObject
  live : object ∈ state.memory.formulaObjects leaf

variable {state : Reached leaf}

namespace LiveTerm

instance : BEq (LiveTerm state) := ⟨fun first second => first.object.equal second.object⟩

instance : Hashable (LiveTerm state) := ⟨fun handle => handle.object.header.digest⟩

theorem beq_iff {first second : LiveTerm state} :
    (first == second) = true ↔ first.object.tree = second.object.tree :=
  TermObject.equal_eq_true_iff state.sound.ofTerms first.live second.live

instance : EquivBEq (LiveTerm state) where
  rfl := beq_iff.mpr rfl
  symm same := beq_iff.mpr (beq_iff.mp same).symm
  trans first second := beq_iff.mpr ((beq_iff.mp first).trans (beq_iff.mp second))

theorem alike_of_beq {first second : LiveTerm state} (same : (first == second) = true) :
    first.object.Alike leaf second.object :=
  TermObject.alike_of_tree_eq state.sound.ofTerms first.live second.live (beq_iff.mp same)

instance : LawfulHashable (LiveTerm state) where
  hash_eq _ _ same := (alike_of_beq same).digest

end LiveTerm

namespace LiveFormula

instance : BEq (LiveFormula state) := ⟨fun first second => first.object.equal second.object⟩

instance : Hashable (LiveFormula state) := ⟨fun handle => handle.object.header.digest⟩

theorem beq_iff {first second : LiveFormula state} :
    (first == second) = true ↔ first.object.tree = second.object.tree :=
  FormulaObject.equal_eq_true_iff state.sound first.live second.live

instance : EquivBEq (LiveFormula state) where
  rfl := beq_iff.mpr rfl
  symm same := beq_iff.mpr (beq_iff.mp same).symm
  trans first second := beq_iff.mpr ((beq_iff.mp first).trans (beq_iff.mp second))

theorem alike_of_beq {first second : LiveFormula state} (same : (first == second) = true) :
    first.object.Alike leaf second.object :=
  FormulaObject.alike_of_tree_eq state.sound first.live second.live (beq_iff.mp same)

instance : LawfulHashable (LiveFormula state) where
  hash_eq _ _ same := (alike_of_beq same).digest

end LiveFormula

/-- Equality by a lawful test is an equivalence relation. -/
theorem equivalence_beq {α : Type} [BEq α] [EquivBEq α] :
    Equivalence fun first second : α => (first == second) = true where
  refl _ := BEq.rfl
  symm := BEq.symm
  trans := BEq.trans

/-! ## Constructors -/

/-- Every constructor gives equal objects for equal operands, and takes the same fold;
the results are made at two addresses. -/
structure ConstructorsAgree (state : Reached leaf) (address other : Nat) : Prop where
  constant : ∀ {first second : Double}, first.withoutZeroSign = second.withoutZeroSign →
    (TermObject.allocate leaf address (.constant · first.withoutZeroSign)).equal
      (.allocate leaf other (.constant · second.withoutZeroSign)) = true
  var : ∀ v : Variable,
    (TermObject.allocate leaf address (.var · v)).equal (.allocate leaf other (.var · v)) = true
  neg : ∀ {first second : LiveTerm state}, (first == second) = true →
    (TermObject.allocate leaf address (.neg · first.object)).equal
      (.allocate leaf other (.neg · second.object)) = true
  binary : ∀ (operation : Arithmetic) {left right otherLeft otherRight : LiveTerm state},
    (left == otherLeft) = true → (right == otherRight) = true →
      (TermObject.allocate leaf address (.binary · operation left.object right.object)).equal
        (.allocate leaf other (.binary · operation otherLeft.object otherRight.object)) = true
  truth : ∀ value : Bool,
    (FormulaObject.singleton leaf value).equal (.singleton leaf value) = true
  compare : ∀ (relation : Comparison) {left right otherLeft otherRight : LiveTerm state},
    (left == otherLeft) = true → (right == otherRight) = true →
      (FormulaObject.compare leaf address relation left.object right.object).equal
          (.compare leaf other relation otherLeft.object otherRight.object) = true ∧
        (Formula.compareLogged relation left.object.tree right.object.tree).records =
          (Formula.compareLogged relation otherLeft.object.tree otherRight.object.tree).records
  join : ∀ (connective : Connective) {left right otherLeft otherRight : LiveFormula state},
    (left == otherLeft) = true → (right == otherRight) = true →
      (FormulaObject.join leaf address connective left.object right.object).equal
          (.join leaf other connective otherLeft.object otherRight.object) = true ∧
        (Formula.joinLogged connective left.object.tree right.object.tree).records =
          (Formula.joinLogged connective otherLeft.object.tree otherRight.object.tree).records
  negate : ∀ {first second : LiveFormula state}, (first == second) = true →
    (FormulaObject.negate leaf address first.object).equal
        (.negate leaf other second.object) = true ∧
      (Formula.negateLogged first.object.tree).records =
        (Formula.negateLogged second.object.tree).records
  quantify : ∀ (binders : VarSet) {first second : LiveFormula state}, (first == second) = true →
    (FormulaObject.allocate leaf address (.universal · binders first.object)).equal
      (.allocate leaf other (.universal · binders second.object)) = true

section

variable {address other : Nat} (free : address ∉ state.memory.addresses leaf)
  (otherFree : other ∉ state.memory.addresses leaf) (different : address ≠ other)

include free otherFree different

theorem term_equal_of_made {first second : TermObject}
    (firstMade : first.Made leaf {object | object ∈ state.memory.termObjects} address)
    (secondMade : second.Made leaf {object | object ∈ state.memory.termObjects} other)
    (same : first.tree = second.tree) : first.equal second = true :=
  firstMade.equal state.sound.ofTerms secondMade (state.term_free free)
    (state.term_free otherFree) different same

theorem formula_equal_of_made {first second : FormulaObject}
    (firstMade : first.Made leaf {object | object ∈ state.memory.termObjects}
      {object | object ∈ state.memory.formulaObjects leaf} address)
    (secondMade : second.Made leaf {object | object ∈ state.memory.termObjects}
      {object | object ∈ state.memory.formulaObjects leaf} other)
    (same : first.tree = second.tree) : first.equal second = true :=
  firstMade.equal state.sound secondMade (state.formula_free free)
    (state.formula_free otherFree) different same

/-- All constructors agree on equal operands. -/
theorem constructorsAgree : ConstructorsAgree state address other where
  constant {first second} same := by
    apply term_equal_of_made free otherFree different
    · exact ⟨rfl, by simp [TermObject.allocate, TermObject.parts]⟩
    · exact ⟨rfl, by simp [TermObject.allocate, TermObject.parts]⟩
    · exact congrArg Term.constant same
  var v := by
    apply term_equal_of_made free otherFree different
    · exact ⟨rfl, by simp [TermObject.allocate, TermObject.parts]⟩
    · exact ⟨rfl, by simp [TermObject.allocate, TermObject.parts]⟩
    · rfl
  neg {first second} same := by
    apply term_equal_of_made free otherFree different
    · exact ⟨rfl, by simp [TermObject.allocate, TermObject.parts, first.live]⟩
    · exact ⟨rfl, by simp [TermObject.allocate, TermObject.parts, second.live]⟩
    · exact congrArg Term.neg (LiveTerm.beq_iff.mp same)
  binary operation {left right otherLeft otherRight} sameLeft sameRight := by
    apply term_equal_of_made free otherFree different
    · exact ⟨rfl, by simp [TermObject.allocate, TermObject.parts, left.live, right.live]⟩
    · exact ⟨rfl, by
        simp [TermObject.allocate, TermObject.parts, otherLeft.live, otherRight.live]⟩
    · exact congrArg₂ (Term.binary operation) (LiveTerm.beq_iff.mp sameLeft)
        (LiveTerm.beq_iff.mp sameRight)
  truth value := by
    apply formula_equal_of_made free otherFree different
    · exact .stored (state.singleton_live value)
    · exact .stored (state.singleton_live value)
    · rfl
  compare relation {left right otherLeft otherRight} sameLeft sameRight := by
    rw [LiveTerm.beq_iff] at sameLeft sameRight
    constructor
    · apply formula_equal_of_made free otherFree different
      · exact FormulaObject.made_compare relation state.singleton_live left.live right.live
      · exact FormulaObject.made_compare relation state.singleton_live otherLeft.live
          otherRight.live
      · rw [FormulaObject.tree_compare state.sound.ofTerms _ relation left.live right.live,
          FormulaObject.tree_compare state.sound.ofTerms _ relation otherLeft.live
            otherRight.live, sameLeft, sameRight]
    · rw [sameLeft, sameRight]
  join connective {left right otherLeft otherRight} sameLeft sameRight := by
    rw [LiveFormula.beq_iff] at sameLeft sameRight
    constructor
    · apply formula_equal_of_made free otherFree different
      · exact FormulaObject.made_join connective state.singleton_live left.live right.live
      · exact FormulaObject.made_join connective state.singleton_live otherLeft.live
          otherRight.live
      · rw [FormulaObject.tree_join, FormulaObject.tree_join, sameLeft, sameRight]
    · rw [sameLeft, sameRight]
  negate {first second} same := by
    rw [LiveFormula.beq_iff] at same
    constructor
    · apply formula_equal_of_made free otherFree different
      · exact FormulaObject.made_negate state.singleton_live first.live
      · exact FormulaObject.made_negate state.singleton_live second.live
      · rw [FormulaObject.tree_negate, FormulaObject.tree_negate, same]
    · rw [same]
  quantify binders {first second} same := by
    apply formula_equal_of_made free otherFree different
    · exact FormulaObject.made_universal binders first.live
    · exact FormulaObject.made_universal binders second.live
    · exact congrArg (Formula.universal binders) (LiveFormula.beq_iff.mp same)

end

/-! ## Congruence -/

/-- In every memory that a run reaches, equality of live terms and of live formulas is
an equivalence relation.  Equal objects are alike in everything that can be observed,
constructors agree on them wherever their results are made, and grouping a list of
them in a hash map gives the classes of its members. -/
theorem equality_congruence (state : Reached leaf) :
    ((Equivalence fun first second : LiveTerm state => (first == second) = true) ∧
      Equivalence fun first second : LiveFormula state => (first == second) = true) ∧
    ((∀ first second : LiveTerm state, (first == second) = true →
        first.object.Alike leaf second.object) ∧
      ∀ first second : LiveFormula state, (first == second) = true →
        first.object.Alike leaf second.object) ∧
    (∀ address other : Nat, address ∉ state.memory.addresses leaf →
      other ∉ state.memory.addresses leaf → address ≠ other →
        ConstructorsAgree state address other) ∧
    (∀ values : List (LiveTerm state), Group.AreClasses values (Group.ofList values)) ∧
      ∀ values : List (LiveFormula state), Group.AreClasses values (Group.ofList values) :=
  ⟨⟨equivalence_beq, equivalence_beq⟩,
    ⟨fun _ _ => LiveTerm.alike_of_beq, fun _ _ => LiveFormula.alike_of_beq⟩,
    fun _ _ => constructorsAgree, Group.areClasses_ofList, Group.areClasses_ofList⟩

/-- The leaf hash that sends every leaf to zero. -/
def zeroLeaf : LeafHash := ⟨fun _ => 0, fun _ => 0, fun _ => 0, fun _ => 0⟩

/-- An object of a variable. -/
def variableObject (address id : Nat) : TermObject :=
  .allocate zeroLeaf address (.var · ⟨id⟩)

/-- An object of the comparison of the first variable, of which the object is at the address
`left`, and the second one. -/
def comparisonObject (address left : Nat) : FormulaObject :=
  .compare zeroLeaf address .lt (variableObject left 0) (variableObject 4 1)

/-- A memory with two objects of one variable and a comparison of each of them. -/
def twoObjects : Reached zeroLeaf where
  memory :=
    ⟨[variableObject 4 1, variableObject 3 0, variableObject 2 0],
      [comparisonObject 6 3, comparisonObject 5 2]⟩
  reached :=
    ⟨[(2, .var ⟨0⟩), (3, .var ⟨0⟩), (4, .var ⟨1⟩), (5, .compare .lt 2 0), (6, .compare .lt 1 0)],
      by decide +kernel⟩

/-- Two objects of one variable are equal, alike and one group, and so are the comparisons
made of them; constructors agree on all of them. -/
theorem equality_congruence_twoObjects :
    (∃ first second : LiveTerm twoObjects,
      first.object ≠ second.object ∧ (first == second) = true ∧
        first.object.Alike zeroLeaf second.object ∧ ⟨0, 2⟩ ∈ Group.ofList [first, second]) ∧
    (∃ first second : LiveFormula twoObjects,
      first.object ≠ second.object ∧ (first == second) = true ∧
        first.object.Alike zeroLeaf second.object ∧ ⟨0, 2⟩ ∈ Group.ofList [first, second]) ∧
    ConstructorsAgree twoObjects 7 8 := by
  obtain ⟨_, ⟨termsAlike, formulasAlike⟩, agree, termGroups, formulaGroups⟩ :=
    equality_congruence twoObjects
  refine ⟨?_, ?_, agree 7 8 (by decide +kernel) (by decide +kernel) (by decide)⟩
  · refine ⟨⟨variableObject 2 0, by decide +kernel⟩, ⟨variableObject 3 0, by decide +kernel⟩,
      by decide +kernel, ?_, ?_, ?_⟩
    · exact LiveTerm.beq_iff.mpr rfl
    · exact termsAlike _ _ (LiveTerm.beq_iff.mpr rfl)
    · exact (termGroups _).pair_mem (LiveTerm.beq_iff.mpr rfl)
  · have same : (comparisonObject 5 2).tree = (comparisonObject 6 3).tree := by decide +kernel
    refine ⟨⟨comparisonObject 5 2, by decide +kernel⟩, ⟨comparisonObject 6 3, by decide +kernel⟩,
      by decide +kernel, ?_, ?_, ?_⟩
    · exact LiveFormula.beq_iff.mpr same
    · exact formulasAlike _ _ (LiveFormula.beq_iff.mpr same)
    · exact (formulaGroups _).pair_mem (LiveFormula.beq_iff.mpr same)

end Memory

end FloatLogic
