import FloatLogic.Proofs.Memory.Live
import Mathlib.Data.List.InsertIdx
import Mathlib.Data.Set.Finite.Basic

/-!
# Runs of constructor calls

A run is a list of constructor calls and of releases, each with the address that a
new object would get.  The operands of a call are held objects, so formulas share
whatever the calls pass on.  A call is refused if an operand is not held, or if the
address is that of a live object; nothing else is asked of the addresses.

A run in memory follows the run of the same calls on trees, and in every memory that
a run reaches equality of objects is equality of trees.  The leaf hash is any
function, also one that sends every leaf to the same word.
-/

namespace FloatLogic

/-! ## Folding constructors in memory -/

namespace FormulaObject

variable {leaf : LeafHash} {address : Nat}

/-- The comparison of two terms in memory. -/
def compare (leaf : LeafHash) (address : Nat) (relation : Comparison) (left right : TermObject) :
    FormulaObject :=
  if left.equal right then singleton leaf relation.reflexive
  else allocate leaf address (.comparison · relation left right)

/-- The junction of two formulas in memory. -/
def join (leaf : LeafHash) (address : Nat) (connective : Connective) (left right : FormulaObject) :
    FormulaObject :=
  match connective.fold? left.tree right.tree with
  | some (.truth value) => singleton leaf value
  | some .left => left
  | some .right => right
  | none => allocate leaf address (.junction · connective left right)

/-- The negation of a formula in memory. -/
def negate (leaf : LeafHash) (address : Nat) (operand : FormulaObject) : FormulaObject :=
  match operand.tree.truth? with
  | some value => singleton leaf !value
  | none => allocate leaf address (.negation · operand)

theorem tree_compare {terms : Set TermObject} (coherent : TermObject.Coherent leaf terms)
    (address : Nat) (relation : Comparison) {left right : TermObject} (leftStored : left ∈ terms)
    (rightStored : right ∈ terms) :
    (compare leaf address relation left right).tree =
      Formula.compare relation left.tree right.tree := by
  have decides := TermObject.equal_eq_true_iff coherent leftStored rightStored
  rw [compare, Formula.compare, Formula.compareLogged]
  by_cases same : left.tree = right.tree
  · rw [if_pos (decides.mpr same), if_pos same]
    rfl
  · rw [if_neg (mt decides.mp same), if_neg same]
    rfl

theorem tree_join (connective : Connective) (left right : FormulaObject) :
    (join leaf address connective left right).tree =
      Formula.join connective left.tree right.tree := by
  rw [join, Formula.join, Formula.joinLogged]
  rcases connective.fold? left.tree right.tree with _ | (value | _ | _) <;> rfl

theorem tree_negate (operand : FormulaObject) :
    (negate leaf address operand).tree = operand.tree.negate := by
  rw [negate, Formula.negate, Formula.negateLogged]
  cases operand.tree.truth? <;> rfl

end FormulaObject

/-! ## Calls -/

/-- One call of a constructor, or one release.  Held terms and formulas are counted
from the latest one. -/
inductive Call where
  | constant (value : Double)
  | var (v : Variable)
  | neg (operand : Nat)
  | binary (operation : Arithmetic) (left right : Nat)
  | truth (value : Bool)
  | compare (relation : Comparison) (left right : Nat)
  | join (connective : Connective) (left right : Nat)
  | negate (operand : Nat)
  | quantify (binders : VarSet) (body : Nat)
  | releaseTerm (index : Nat)
  | releaseFormula (index : Nat)

namespace Memory

/-- Perform a call; a new object gets the given address. -/
def perform (leaf : LeafHash) (memory : Memory) (address : Nat) : Call → Option Memory
  | .constant value =>
    some (memory.holdTerm (.allocate leaf address (.constant · value.withoutZeroSign)))
  | .var v => some (memory.holdTerm (.allocate leaf address (.var · v)))
  | .neg operand => do
    let operand ← memory.terms[operand]?
    some (memory.holdTerm (.allocate leaf address (.neg · operand)))
  | .binary operation left right => do
    let left ← memory.terms[left]?
    let right ← memory.terms[right]?
    some (memory.holdTerm (.allocate leaf address (.binary · operation left right)))
  | .truth value => some (memory.holdFormula (.singleton leaf value))
  | .compare relation left right => do
    let left ← memory.terms[left]?
    let right ← memory.terms[right]?
    some (memory.holdFormula (.compare leaf address relation left right))
  | .join connective left right => do
    let left ← memory.formulas[left]?
    let right ← memory.formulas[right]?
    some (memory.holdFormula (.join leaf address connective left right))
  | .negate operand => do
    let operand ← memory.formulas[operand]?
    some (memory.holdFormula (.negate leaf address operand))
  | .quantify binders body => do
    let body ← memory.formulas[body]?
    some (memory.holdFormula (.allocate leaf address (.universal · binders body)))
  | .releaseTerm index => some { memory with terms := memory.terms.eraseIdx index }
  | .releaseFormula index => some { memory with formulas := memory.formulas.eraseIdx index }

/-- Perform a call at an address, which no live object may have. -/
def step (leaf : LeafHash) (memory : Memory) (call : Nat × Call) : Option Memory :=
  if call.1 ∈ memory.addresses leaf then none else memory.perform leaf call.1 call.2

/-- The memory after calls from first to last. -/
def run (leaf : LeafHash) (calls : List (Nat × Call)) : Option Memory :=
  calls.foldlM (step leaf) empty

end Memory

/-- The terms and formulas that are held, as trees. -/
structure Trees where
  terms : List Term
  formulas : List Formula
deriving DecidableEq

namespace Trees

/-- Perform a call on trees. -/
def perform (trees : Trees) : Call → Option Trees
  | .constant value => some { trees with terms := .ofDouble value :: trees.terms }
  | .var v => some { trees with terms := .var v :: trees.terms }
  | .neg operand => do
    let operand ← trees.terms[operand]?
    some { trees with terms := -operand :: trees.terms }
  | .binary operation left right => do
    let left ← trees.terms[left]?
    let right ← trees.terms[right]?
    some { trees with terms := .binary operation left right :: trees.terms }
  | .truth value => some { trees with formulas := .truth value :: trees.formulas }
  | .compare relation left right => do
    let left ← trees.terms[left]?
    let right ← trees.terms[right]?
    some { trees with formulas := .compare relation left right :: trees.formulas }
  | .join connective left right => do
    let left ← trees.formulas[left]?
    let right ← trees.formulas[right]?
    some { trees with formulas := .join connective left right :: trees.formulas }
  | .negate operand => do
    let operand ← trees.formulas[operand]?
    some { trees with formulas := operand.negate :: trees.formulas }
  | .quantify binders body => do
    let body ← trees.formulas[body]?
    some { trees with formulas := .quantify binders body :: trees.formulas }
  | .releaseTerm index => some { trees with terms := trees.terms.eraseIdx index }
  | .releaseFormula index => some { trees with formulas := trees.formulas.eraseIdx index }

/-- The trees after calls from first to last. -/
def run (calls : List Call) : Option Trees := calls.foldlM perform ⟨[], []⟩

end Trees

namespace Memory

variable {leaf : LeafHash} {memory next : Memory} {address : Nat} {call : Call}

/-- The trees that the held objects stand for. -/
def trees (memory : Memory) : Trees where
  terms := memory.terms.map TermObject.tree
  formulas := memory.formulas.map FormulaObject.tree

@[simp]
theorem trees_holdTerm (memory : Memory) (object : TermObject) :
    (memory.holdTerm object).trees =
      { memory.trees with terms := object.tree :: memory.trees.terms } := rfl

@[simp]
theorem trees_holdFormula (memory : Memory) (object : FormulaObject) :
    (memory.holdFormula object).trees =
      { memory.trees with formulas := object.tree :: memory.trees.formulas } := rfl

theorem getElem?_terms_trees (memory : Memory) (index : Nat) :
    memory.trees.terms[index]? = memory.terms[index]?.map TermObject.tree :=
  List.getElem?_map

theorem getElem?_formulas_trees (memory : Memory) (index : Nat) :
    memory.trees.formulas[index]? = memory.formulas[index]?.map FormulaObject.tree :=
  List.getElem?_map

/-! ## What a call does -/

/-- How a memory changes in a call: it holds a new term, a new formula or a formula
that was there already, or it lets go of objects. -/
inductive Change (leaf : LeafHash) (address : Nat) (memory : Memory) : Memory → Prop
  | newTerm {object : TermObject} (new : object.header = ⟨address, object.combinedDigest leaf⟩)
      (partsHeld : ∀ part ∈ object.parts, part ∈ memory.terms) :
      Change leaf address memory (memory.holdTerm object)
  | newFormula {object : FormulaObject}
      (new : object.header = ⟨address, object.combinedDigest leaf⟩)
      (partsHeld : ∀ part ∈ object.parts, part ∈ memory.formulas)
      (operandsHeld : ∀ operand ∈ object.operands, operand ∈ memory.terms) :
      Change leaf address memory (memory.holdFormula object)
  | heldFormula {object : FormulaObject}
      (held : object ∈ memory.formulas ∨ ∃ value, object = .singleton leaf value) :
      Change leaf address memory (memory.holdFormula object)
  | release {fewer : Memory} (terms : fewer.terms ⊆ memory.terms)
      (formulas : fewer.formulas ⊆ memory.formulas) : Change leaf address memory fewer

theorem Sound.change (sound : memory.Sound leaf) (free : address ∉ memory.addresses leaf)
    (change : Change leaf address memory next) : next.Sound leaf := by
  cases change with
  | newTerm new partsHeld => exact sound.holdNewTerm free new partsHeld
  | newFormula new partsHeld operandsHeld =>
    exact sound.holdNewFormula free new partsHeld operandsHeld
  | heldFormula held => exact sound.holdFormula held
  | release terms formulas => exact sound.release terms formulas

theorem change_compare (relation : Comparison) {left right : TermObject}
    (leftHeld : left ∈ memory.terms) (rightHeld : right ∈ memory.terms) :
    Change leaf address memory
      (memory.holdFormula (.compare leaf address relation left right)) := by
  rw [FormulaObject.compare]
  split
  · exact .heldFormula (Or.inr ⟨_, rfl⟩)
  · apply Change.newFormula rfl
    · simp [FormulaObject.allocate, FormulaObject.parts]
    · simp [FormulaObject.allocate, FormulaObject.operands, leftHeld, rightHeld]

theorem change_join (connective : Connective) {left right : FormulaObject}
    (leftHeld : left ∈ memory.formulas) (rightHeld : right ∈ memory.formulas) :
    Change leaf address memory
      (memory.holdFormula (.join leaf address connective left right)) := by
  rw [FormulaObject.join]
  split
  · exact .heldFormula (Or.inr ⟨_, rfl⟩)
  · exact .heldFormula (Or.inl leftHeld)
  · exact .heldFormula (Or.inl rightHeld)
  · apply Change.newFormula rfl
    · simp [FormulaObject.allocate, FormulaObject.parts, leftHeld, rightHeld]
    · simp [FormulaObject.allocate, FormulaObject.operands]

theorem change_negate {operand : FormulaObject} (held : operand ∈ memory.formulas) :
    Change leaf address memory (memory.holdFormula (.negate leaf address operand)) := by
  rw [FormulaObject.negate]
  split
  · exact .heldFormula (Or.inr ⟨_, rfl⟩)
  · apply Change.newFormula rfl
    · simp [FormulaObject.allocate, FormulaObject.parts, held]
    · simp [FormulaObject.allocate, FormulaObject.operands]

/-- A call on one operand gives a result only if the operand is held. -/
theorem exists_mem_of_lookup {α β : Type} {objects : List α} {index : Nat} {result : α → β}
    {value : β} (found : (objects[index]? >>= fun object => some (result object)) = some value) :
    ∃ object ∈ objects, result object = value := by
  rcases Option.bind_eq_some_iff.mp found with ⟨object, lookup, same⟩
  exact ⟨object, List.mem_of_getElem? lookup, Option.some.inj same⟩

/-- A call on two operands gives a result only if both are held. -/
theorem exists_mem_of_lookups {α β : Type} {objects : List α} {left right : Nat}
    {result : α → α → β} {value : β}
    (found : (objects[left]? >>= fun first => objects[right]? >>= fun second =>
      some (result first second)) = some value) :
    ∃ first ∈ objects, ∃ second ∈ objects, result first second = value := by
  rcases Option.bind_eq_some_iff.mp found with ⟨first, lookup, rest⟩
  rcases exists_mem_of_lookup rest with ⟨second, isSecond, same⟩
  exact ⟨first, List.mem_of_getElem? lookup, second, isSecond, same⟩

/-- Every call is one of the changes. -/
theorem change_of_perform (performed : memory.perform leaf address call = some next) :
    Change leaf address memory next := by
  cases call with
  | constant value =>
    cases performed
    exact .newTerm rfl (by simp [TermObject.allocate, TermObject.parts])
  | var v =>
    cases performed
    exact .newTerm rfl (by simp [TermObject.allocate, TermObject.parts])
  | neg operand =>
    rcases exists_mem_of_lookup performed with ⟨object, held, rfl⟩
    exact .newTerm rfl (by simp [TermObject.allocate, TermObject.parts, held])
  | binary operation left right =>
    rcases exists_mem_of_lookups performed with ⟨first, firstHeld, second, secondHeld, rfl⟩
    exact .newTerm rfl (by simp [TermObject.allocate, TermObject.parts, firstHeld, secondHeld])
  | truth value =>
    cases performed
    exact .heldFormula (Or.inr ⟨value, rfl⟩)
  | compare relation left right =>
    rcases exists_mem_of_lookups performed with ⟨first, firstHeld, second, secondHeld, rfl⟩
    exact change_compare relation firstHeld secondHeld
  | join connective left right =>
    rcases exists_mem_of_lookups performed with ⟨first, firstHeld, second, secondHeld, rfl⟩
    exact change_join connective firstHeld secondHeld
  | negate operand =>
    rcases exists_mem_of_lookup performed with ⟨object, held, rfl⟩
    exact change_negate held
  | quantify binders body =>
    rcases exists_mem_of_lookup performed with ⟨object, held, rfl⟩
    apply Change.newFormula rfl
    · simp [FormulaObject.allocate, FormulaObject.parts, held]
    · simp [FormulaObject.allocate, FormulaObject.operands]
  | releaseTerm index =>
    cases performed
    exact .release List.eraseIdx_subset (List.Subset.refl _)
  | releaseFormula index =>
    cases performed
    exact .release (List.Subset.refl _) List.eraseIdx_subset

/-- In a sound memory a call does to the held objects what it does to their trees. -/
theorem map_trees_perform (sound : memory.Sound leaf) (address : Nat) (call : Call) :
    (memory.perform leaf address call).map trees = memory.trees.perform call := by
  cases call with
  | constant value => rfl
  | var v => rfl
  | neg operand =>
    rw [perform, Trees.perform, getElem?_terms_trees]
    cases memory.terms[operand]? <;> rfl
  | binary operation left right =>
    rw [perform, Trees.perform, getElem?_terms_trees, getElem?_terms_trees]
    cases memory.terms[left]? <;> cases memory.terms[right]? <;> rfl
  | truth value => rfl
  | compare relation left right =>
    rw [perform, Trees.perform, getElem?_terms_trees, getElem?_terms_trees]
    cases leftFound : memory.terms[left]? with
    | none => rfl
    | some leftObject =>
      cases rightFound : memory.terms[right]? with
      | none => rfl
      | some rightObject =>
        have leftLive := mem_termObjects_of_mem_reachable (List.mem_of_getElem? leftFound)
          leftObject.mem_reachable_self
        have rightLive := mem_termObjects_of_mem_reachable (List.mem_of_getElem? rightFound)
          rightObject.mem_reachable_self
        simp [FormulaObject.tree_compare sound.ofTerms address relation leftLive rightLive]
  | join connective left right =>
    rw [perform, Trees.perform, getElem?_formulas_trees, getElem?_formulas_trees]
    cases memory.formulas[left]? with
    | none => rfl
    | some leftObject =>
      cases memory.formulas[right]? with
      | none => rfl
      | some rightObject => simp [FormulaObject.tree_join]
  | negate operand =>
    rw [perform, Trees.perform, getElem?_formulas_trees]
    cases memory.formulas[operand]? with
    | none => rfl
    | some object => simp [FormulaObject.tree_negate]
  | quantify binders body =>
    rw [perform, Trees.perform, getElem?_formulas_trees]
    cases memory.formulas[body]? <;> rfl
  | releaseTerm index => simp [perform, Trees.perform, trees, List.eraseIdx_map]
  | releaseFormula index => simp [perform, Trees.perform, trees, List.eraseIdx_map]

/-! ## Runs -/

theorem step_eq_some_iff {call : Nat × Call} :
    memory.step leaf call = some next ↔
      call.1 ∉ memory.addresses leaf ∧ memory.perform leaf call.1 call.2 = some next := by
  rw [step]
  split <;> simp [*]

/-- Calls keep a sound memory sound, and the trees follow them. -/
theorem sound_and_trees_of_foldlM (calls : List (Nat × Call)) (sound : memory.Sound leaf)
    (ran : calls.foldlM (step leaf) memory = some next) :
    next.Sound leaf ∧
      (calls.map Prod.snd).foldlM Trees.perform memory.trees = some next.trees := by
  induction calls generalizing memory with
  | nil =>
    obtain rfl := Option.some.inj ran
    exact ⟨sound, rfl⟩
  | cons call rest inductionHypothesis =>
    rw [List.foldlM_cons] at ran
    rcases Option.bind_eq_some_iff.mp ran with ⟨middle, stepped, restRan⟩
    rcases step_eq_some_iff.mp stepped with ⟨free, performed⟩
    obtain ⟨nextSound, followed⟩ :=
      inductionHypothesis (sound.change free (change_of_perform performed)) restRan
    have treesStepped : memory.trees.perform call.2 = some middle.trees := by
      rw [← map_trees_perform sound call.1 call.2, performed, Option.map_some]
    constructor
    · exact nextSound
    · rw [List.map_cons, List.foldlM_cons, treesStepped]
      exact followed

/-- Some address is not that of a live object, so no call has to be refused for its
address: whatever is built of trees is built in memory. -/
theorem exists_foldlM_of_trees {result : Trees} (calls : List Call) (sound : memory.Sound leaf)
    (built : calls.foldlM Trees.perform memory.trees = some result) :
    ∃ (addressed : List (Nat × Call)) (next : Memory), addressed.map Prod.snd = calls ∧
      addressed.foldlM (step leaf) memory = some next ∧ next.trees = result := by
  induction calls generalizing memory with
  | nil => exact ⟨[], memory, rfl, rfl, Option.some.inj built⟩
  | cons call rest inductionHypothesis =>
    rw [List.foldlM_cons] at built
    rcases Option.bind_eq_some_iff.mp built with ⟨middleTrees, treesStepped, restBuilt⟩
    rcases (memory.addresses leaf).toFinset.exists_notMem with ⟨address, free⟩
    rw [List.mem_toFinset] at free
    rw [← map_trees_perform sound address call] at treesStepped
    obtain ⟨middle, performed, rfl⟩ := Option.map_eq_some_iff.mp treesStepped
    obtain ⟨addressed, next, same, ran, follows⟩ :=
      inductionHypothesis (sound.change free (change_of_perform performed)) restBuilt
    refine ⟨(address, call) :: addressed, next, by rw [List.map_cons, same], ?_, follows⟩
    rw [List.foldlM_cons, step_eq_some_iff.mpr ⟨free, performed⟩]
    exact ran

/-- Whatever is built of trees is built by a run in memory. -/
theorem exists_run (leaf : LeafHash) {calls : List Call} {result : Trees}
    (built : Trees.run calls = some result) :
    ∃ (addressed : List (Nat × Call)) (memory : Memory), addressed.map Prod.snd = calls ∧
      run leaf addressed = some memory ∧ memory.trees = result :=
  exists_foldlM_of_trees calls sound_empty built

/-- In every memory that a run reaches, the held objects stand for what the same calls
build of trees, and two live objects are equal exactly if they stand for the same
tree. -/
theorem run_equal_iff (leaf : LeafHash) (calls : List (Nat × Call)) {memory : Memory}
    (ran : run leaf calls = some memory) :
    Trees.run (calls.map Prod.snd) = some memory.trees ∧
      (∀ first ∈ memory.termObjects, ∀ second ∈ memory.termObjects,
        (first.equal second = true ↔ first.tree = second.tree) ∧
          first.equal second = first.tree.equal second.tree) ∧
      ∀ first ∈ memory.formulaObjects leaf, ∀ second ∈ memory.formulaObjects leaf,
        (first.equal second = true ↔ first.tree = second.tree) ∧
          first.equal second = first.tree.equal second.tree := by
  rcases sound_and_trees_of_foldlM calls sound_empty ran with ⟨sound, followed⟩
  constructor
  · exact followed
  constructor
  · intro first firstLive second secondLive
    have decides := TermObject.equal_eq_true_iff sound.ofTerms firstLive secondLive
    constructor
    · exact decides
    · rw [Bool.eq_iff_iff, decides, Term.equal_eq_true_iff]
  · intro first firstLive second secondLive
    have decides := FormulaObject.equal_eq_true_iff sound firstLive secondLive
    constructor
    · exact decides
    · rw [Bool.eq_iff_iff, decides, Formula.equal_eq_true_iff]

/-- A run in which all leaves have one hash, so that the two comparisons have one
digest.  The address of the constant that is released is used again, and the junction
shares the variable. -/
theorem run_equal_iff_colliding :
    ∃ memory,
      run ⟨fun _ => 0, fun _ => 0, fun _ => 0, fun _ => 0⟩
        [(2, .var ⟨0⟩), (3, .constant ⟨0x3ff0000000000000⟩), (4, .releaseTerm 0),
          (3, .constant ⟨0x4000000000000000⟩), (4, .constant ⟨0x3ff0000000000000⟩),
          (5, .compare .lt 2 1), (6, .compare .lt 2 0), (7, .join .and 0 1)] = some memory ∧
      memory.formulas.map (fun object => object.header.digest) =
        [8545505780343052844, 6568920609482127518, 6568920609482127518] ∧
      (∀ first ∈ memory.termObjects, ∀ second ∈ memory.termObjects,
        (first.equal second = true ↔ first.tree = second.tree) ∧
          first.equal second = first.tree.equal second.tree) ∧
      ∀ first ∈ memory.formulaObjects ⟨fun _ => 0, fun _ => 0, fun _ => 0, fun _ => 0⟩,
        ∀ second ∈ memory.formulaObjects ⟨fun _ => 0, fun _ => 0, fun _ => 0, fun _ => 0⟩,
          (first.equal second = true ↔ first.tree = second.tree) ∧
            first.equal second = first.tree.equal second.tree := by
  have digests :
      (run ⟨fun _ => 0, fun _ => 0, fun _ => 0, fun _ => 0⟩
        [(2, .var ⟨0⟩), (3, .constant ⟨0x3ff0000000000000⟩), (4, .releaseTerm 0),
          (3, .constant ⟨0x4000000000000000⟩), (4, .constant ⟨0x3ff0000000000000⟩),
          (5, .compare .lt 2 1), (6, .compare .lt 2 0), (7, .join .and 0 1)]).map
        (fun memory => memory.formulas.map fun object => object.header.digest) =
      some [8545505780343052844, 6568920609482127518, 6568920609482127518] := by decide +kernel
  rcases Option.map_eq_some_iff.mp digests with ⟨memory, ran, digests⟩
  exact ⟨memory, ran, digests, (run_equal_iff _ _ ran).2⟩

end Memory

end FloatLogic
