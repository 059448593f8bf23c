import FloatLogic.Proofs.Memory.FormulaObject

/-!
# Live objects

A memory is given by the terms and formulas that are held.  The live objects are
those that can be reached from a held one, and the two truth values.  An object that
is no longer live leaves its address free, so a later object may get it.

`Sound` is the invariant of memory.  A new object at a free address preserves it, and
so does letting go of objects.
-/

namespace FloatLogic

/-- The terms and formulas that are held, the latest first. -/
structure Memory where
  terms : List TermObject
  formulas : List FormulaObject
deriving DecidableEq

namespace Memory

/-- The memory in which nothing is held. -/
def empty : Memory := ⟨[], []⟩

/-- Hold one more term. -/
def holdTerm (memory : Memory) (object : TermObject) : Memory :=
  { memory with terms := object :: memory.terms }

/-- Hold one more formula. -/
def holdFormula (memory : Memory) (object : FormulaObject) : Memory :=
  { memory with formulas := object :: memory.formulas }

/-- The live term objects. -/
def termObjects (memory : Memory) : List TermObject :=
  memory.terms.flatMap TermObject.reachable ++
    memory.formulas.flatMap FormulaObject.reachableTerms

/-- The live formula objects. -/
def formulaObjects (leaf : LeafHash) (memory : Memory) : List FormulaObject :=
  .singleton leaf true :: .singleton leaf false :: memory.formulas.flatMap FormulaObject.reachable

/-- The addresses of the live objects. -/
def addresses (leaf : LeafHash) (memory : Memory) : List Nat :=
  (memory.termObjects.map fun object => object.header.address) ++
    (memory.formulaObjects leaf).map fun object => object.header.address

/-- The invariant of memory: its live objects are coherent. -/
def Sound (leaf : LeafHash) (memory : Memory) : Prop :=
  FormulaObject.Coherent leaf {object | object ∈ memory.termObjects}
    {object | object ∈ memory.formulaObjects leaf}

variable {leaf : LeafHash} {memory : Memory}

/-! ## Live objects and their parts -/

theorem mem_termObjects_iff {object : TermObject} :
    object ∈ memory.termObjects ↔
      (∃ held ∈ memory.terms, object ∈ held.reachable) ∨
        ∃ held ∈ memory.formulas, object ∈ held.reachableTerms := by
  simp [termObjects]

theorem mem_formulaObjects_iff {object : FormulaObject} :
    object ∈ memory.formulaObjects leaf ↔
      (∃ value, object = .singleton leaf value) ∨
        ∃ held ∈ memory.formulas, object ∈ held.reachable := by
  simp [formulaObjects, or_assoc, or_left_comm]

/-- Whatever a held term keeps is live. -/
theorem mem_termObjects_of_mem_reachable {held object : TermObject} (isHeld : held ∈ memory.terms)
    (below : object ∈ held.reachable) : object ∈ memory.termObjects :=
  mem_termObjects_iff.mpr (Or.inl ⟨held, isHeld, below⟩)

/-- The terms that a held formula keeps are live. -/
theorem mem_termObjects_of_mem_reachableTerms {held : FormulaObject} {object : TermObject}
    (isHeld : held ∈ memory.formulas) (below : object ∈ held.reachableTerms) :
    object ∈ memory.termObjects :=
  mem_termObjects_iff.mpr (Or.inr ⟨held, isHeld, below⟩)

/-- The formulas that a held formula keeps are live. -/
theorem mem_formulaObjects_of_mem_reachable {held object : FormulaObject}
    (isHeld : held ∈ memory.formulas) (below : object ∈ held.reachable) :
    object ∈ memory.formulaObjects leaf :=
  mem_formulaObjects_iff.mpr (Or.inr ⟨held, isHeld, below⟩)

@[simp]
theorem mem_termObjects_holdTerm {object other : TermObject} :
    other ∈ (memory.holdTerm object).termObjects ↔
      other ∈ object.reachable ∨ other ∈ memory.termObjects := by
  simp [termObjects, holdTerm]

@[simp]
theorem mem_termObjects_holdFormula {object : FormulaObject} {other : TermObject} :
    other ∈ (memory.holdFormula object).termObjects ↔
      other ∈ object.reachableTerms ∨ other ∈ memory.termObjects := by
  simp [termObjects, holdFormula, or_left_comm]

@[simp]
theorem mem_formulaObjects_holdFormula {object other : FormulaObject} :
    other ∈ (memory.holdFormula object).formulaObjects leaf ↔
      other ∈ object.reachable ∨ other ∈ memory.formulaObjects leaf := by
  simp [formulaObjects, holdFormula, or_left_comm]

/-- The operands of a live term object are live. -/
theorem mem_termObjects_of_mem_parts {object part : TermObject}
    (live : object ∈ memory.termObjects) (isPart : part ∈ object.parts) :
    part ∈ memory.termObjects := by
  rcases mem_termObjects_iff.mp live with ⟨held, isHeld, below⟩ | ⟨held, isHeld, below⟩
  · apply mem_termObjects_of_mem_reachable isHeld
    exact TermObject.mem_reachable_of_mem_parts below isPart
  · apply mem_termObjects_of_mem_reachableTerms isHeld
    rw [FormulaObject.mem_reachableTerms_iff] at below ⊢
    rcases below with ⟨formula, isBelow, operand, isOperand, reached⟩
    exact ⟨formula, isBelow, operand, isOperand,
      TermObject.mem_reachable_of_mem_parts reached isPart⟩

/-- The parts of a live formula object are live. -/
theorem mem_formulaObjects_of_mem_parts {object part : FormulaObject}
    (live : object ∈ memory.formulaObjects leaf) (isPart : part ∈ object.parts) :
    part ∈ memory.formulaObjects leaf := by
  rcases mem_formulaObjects_iff.mp live with ⟨value, rfl⟩ | ⟨held, isHeld, below⟩
  · simp [FormulaObject.singleton, FormulaObject.allocate, FormulaObject.parts] at isPart
  · apply mem_formulaObjects_of_mem_reachable isHeld
    exact FormulaObject.mem_reachable_of_mem_parts below isPart

/-- The operands of a live comparison are live. -/
theorem mem_termObjects_of_mem_operands {object : FormulaObject} {operand : TermObject}
    (live : object ∈ memory.formulaObjects leaf) (isOperand : operand ∈ object.operands) :
    operand ∈ memory.termObjects := by
  rcases mem_formulaObjects_iff.mp live with ⟨value, rfl⟩ | ⟨held, isHeld, below⟩
  · simp [FormulaObject.singleton, FormulaObject.allocate, FormulaObject.operands] at isOperand
  · apply mem_termObjects_of_mem_reachableTerms isHeld
    rw [FormulaObject.mem_reachableTerms_iff]
    exact ⟨object, below, operand, isOperand, operand.mem_reachable_self⟩

/-! ## Preservation -/

/-- A memory is sound if its live objects are among coherent ones. -/
theorem sound_of_subset {terms : Set TermObject} {objects : Set FormulaObject}
    (coherent : FormulaObject.Coherent leaf terms objects)
    (ofTerms : ∀ object ∈ memory.termObjects, object ∈ terms)
    (ofFormulas : ∀ object ∈ memory.formulaObjects leaf, object ∈ objects) :
    memory.Sound leaf where
  ofTerms := coherent.ofTerms.mono ofTerms fun _ live _ => mem_termObjects_of_mem_parts live
  ofFormulas :=
    coherent.ofFormulas.mono ofFormulas fun _ live _ => mem_formulaObjects_of_mem_parts live
  mem_of_mem_operands _ live _ := mem_termObjects_of_mem_operands live

theorem mem_formulaObjects_empty_iff {object : FormulaObject} :
    object ∈ empty.formulaObjects leaf ↔ ∃ value, object = .singleton leaf value := by
  simp [mem_formulaObjects_iff, empty]

theorem sound_empty : empty.Sound leaf where
  ofTerms := by
    apply Coherent.empty.mono
    · intro object live
      simp [termObjects, empty] at live
    · exact fun _ live _ => mem_termObjects_of_mem_parts live
  ofFormulas := {
    mem_of_mem_parts := fun _ live _ => mem_formulaObjects_of_mem_parts live
    addresses := by
      intro first firstLive second secondLive same
      obtain ⟨value, rfl⟩ := mem_formulaObjects_empty_iff.mp firstLive
      obtain ⟨other, rfl⟩ := mem_formulaObjects_empty_iff.mp secondLive
      cases value <;> cases other
      · rfl
      · cases same
      · cases same
      · rfl
    digests := by
      intro object live
      obtain ⟨value, rfl⟩ := mem_formulaObjects_empty_iff.mp live
      rfl }
  mem_of_mem_operands _ live _ := mem_termObjects_of_mem_operands live

/-- Letting go of objects keeps the memory sound. -/
theorem Sound.release (sound : memory.Sound leaf) {fewer : Memory}
    (terms : fewer.terms ⊆ memory.terms) (formulas : fewer.formulas ⊆ memory.formulas) :
    fewer.Sound leaf := by
  apply sound_of_subset sound
  · intro object live
    rcases mem_termObjects_iff.mp live with ⟨held, isHeld, below⟩ | ⟨held, isHeld, below⟩
    · exact mem_termObjects_of_mem_reachable (terms isHeld) below
    · exact mem_termObjects_of_mem_reachableTerms (formulas isHeld) below
  · intro object live
    rcases mem_formulaObjects_iff.mp live with isTruth | ⟨held, isHeld, below⟩
    · exact mem_formulaObjects_iff.mpr (Or.inl isTruth)
    · exact mem_formulaObjects_of_mem_reachable (formulas isHeld) below

/-- Holding a formula that is there already keeps the memory sound. -/
theorem Sound.holdFormula (sound : memory.Sound leaf) {object : FormulaObject}
    (held : object ∈ memory.formulas ∨ ∃ value, object = .singleton leaf value) :
    (memory.holdFormula object).Sound leaf := by
  rcases held with held | ⟨value, rfl⟩
  · exact sound.release (List.Subset.refl _) (List.cons_subset.mpr ⟨held, List.Subset.refl _⟩)
  · apply sound_of_subset sound
    · intro other live
      rcases mem_termObjects_holdFormula.mp live with below | live
      · cases below
      · exact live
    · intro other live
      rcases mem_formulaObjects_holdFormula.mp live with below | live
      · exact mem_formulaObjects_iff.mpr (Or.inl ⟨value, List.mem_singleton.mp below⟩)
      · exact live

variable {address : Nat}

/-- A new term at a free address keeps the memory sound. -/
theorem Sound.holdNewTerm (sound : memory.Sound leaf) (free : address ∉ memory.addresses leaf)
    {object : TermObject} (new : object.header = ⟨address, object.combinedDigest leaf⟩)
    (partsHeld : ∀ part ∈ object.parts, part ∈ memory.terms) :
    (memory.holdTerm object).Sound leaf := by
  have partsLive : ∀ part ∈ object.parts, part ∈ memory.termObjects :=
    fun part isPart =>
      mem_termObjects_of_mem_reachable (partsHeld part isPart) part.mem_reachable_self
  have coherent : FormulaObject.Coherent leaf
      (insert object {other | other ∈ memory.termObjects})
      {other | other ∈ memory.formulaObjects leaf} := {
    ofTerms := by
      apply sound.ofTerms.insert partsLive
      · intro other live same
        apply free
        rw [new] at same
        exact List.mem_append_left _ (List.mem_map.mpr ⟨other, live, same⟩)
      · rw [new]
        exact TermObject.combinedDigest_eq sound.ofTerms partsLive
    ofFormulas := sound.ofFormulas
    mem_of_mem_operands := fun formula live operand isOperand =>
      Or.inr (sound.mem_of_mem_operands formula live operand isOperand) }
  apply sound_of_subset coherent
  · intro other live
    rcases mem_termObjects_holdTerm.mp live with below | live
    · rcases TermObject.mem_reachable_iff.mp below with isNew | ⟨part, isPart, below⟩
      · exact Or.inl isNew
      · exact Or.inr (mem_termObjects_of_mem_reachable (partsHeld part isPart) below)
    · exact Or.inr live
  · intro other live
    exact live

/-- A new formula at a free address keeps the memory sound. -/
theorem Sound.holdNewFormula (sound : memory.Sound leaf) (free : address ∉ memory.addresses leaf)
    {object : FormulaObject} (new : object.header = ⟨address, object.combinedDigest leaf⟩)
    (partsHeld : ∀ part ∈ object.parts, part ∈ memory.formulas)
    (operandsHeld : ∀ operand ∈ object.operands, operand ∈ memory.terms) :
    (memory.holdFormula object).Sound leaf := by
  have partsLive : ∀ part ∈ object.parts, part ∈ memory.formulaObjects leaf :=
    fun part isPart =>
      mem_formulaObjects_of_mem_reachable (partsHeld part isPart) part.mem_reachable_self
  have operandsLive : ∀ operand ∈ object.operands, operand ∈ memory.termObjects :=
    fun operand isOperand =>
      mem_termObjects_of_mem_reachable (operandsHeld operand isOperand) operand.mem_reachable_self
  have coherent : FormulaObject.Coherent leaf {other | other ∈ memory.termObjects}
      (insert object {other | other ∈ memory.formulaObjects leaf}) := {
    ofTerms := sound.ofTerms
    ofFormulas := by
      apply sound.ofFormulas.insert partsLive
      · intro other live same
        apply free
        rw [new] at same
        exact List.mem_append_right _ (List.mem_map.mpr ⟨other, live, same⟩)
      · rw [new]
        exact FormulaObject.combinedDigest_eq sound partsLive operandsLive
    mem_of_mem_operands := by
      rintro formula (rfl | live)
      · exact operandsLive
      · exact sound.mem_of_mem_operands formula live }
  apply sound_of_subset coherent
  · intro other live
    rcases mem_termObjects_holdFormula.mp live with below | live
    · rcases FormulaObject.mem_reachableTerms_iff.mp below with
        ⟨formula, isBelow, operand, isOperand, reached⟩
      rcases FormulaObject.mem_reachable_iff.mp isBelow with rfl | ⟨part, isPart, isBelow⟩
      · exact mem_termObjects_of_mem_reachable (operandsHeld operand isOperand) reached
      · apply mem_termObjects_of_mem_reachableTerms (partsHeld part isPart)
        rw [FormulaObject.mem_reachableTerms_iff]
        exact ⟨formula, isBelow, operand, isOperand, reached⟩
    · exact live
  · intro other live
    rcases mem_formulaObjects_holdFormula.mp live with below | live
    · rcases FormulaObject.mem_reachable_iff.mp below with isNew | ⟨part, isPart, below⟩
      · exact Or.inl isNew
      · exact Or.inr (mem_formulaObjects_of_mem_reachable (partsHeld part isPart) below)
    · exact Or.inr live

end Memory

end FloatLogic
