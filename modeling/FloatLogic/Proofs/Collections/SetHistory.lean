import FloatLogic.Collect
import FloatLogic.Digest
import FloatLogic.Proofs.Occurrence.Path
import FloatLogic.Text
import Mathlib.Data.Finset.Sort

/-!
# Histories of sets

The sets of a program stand in numbered registers, and every call puts a new set into
one of them.  After any sequence of calls each register represents the finite set that
the same calls give when they are read as operations on finite sets.  One call keeps
this (`SetCall.members_result`), so a whole sequence does (`SetCall.members_run`).

Some operations have two implementations, one for operands that are borrowed and one
for operands that are given away.  They build the same set in different ways.
-/

namespace FloatLogic

/-! ## The set that a list represents -/

namespace VarSet

/-- The members of a set as a finite set. -/
def members (set : VarSet) : Finset Variable := set.toList.toFinset

/-- All that can be asked of a set has the answer of the finite set. -/
structure Represents (set : VarSet) (finite : Finset Variable) : Prop where
  contains (v : Variable) : set.contains v = true ↔ v ∈ finite
  iteration : set.toList.map Variable.id = (finite.image Variable.id).sort
  increasing : (set.toList.map Variable.id).Pairwise (· < ·) ∧ set.toList.Nodup
  size : set.size = finite.card
  isEmpty : set.isEmpty = true ↔ finite = ∅
  insertNew (v : Variable) : (set.insertNew v).1 = true ↔ v ∉ finite

variable {v : Variable} {left right set : VarSet}

@[simp]
theorem mem_members : v ∈ set.members ↔ v ∈ set := by
  rw [members, List.mem_toFinset, mem_def]

theorem card_members (set : VarSet) : set.members.card = set.size :=
  List.toFinset_card_of_nodup set.increasing.2

theorem represents_members (set : VarSet) : set.Represents set.members where
  contains v := by rw [contains_eq_true_iff, mem_members]
  iteration := by
    have sameIds : set.members.image Variable.id = (set.toList.map Variable.id).toFinset := by
      ext id
      simp [mem_def]
    have distinct : (set.toList.map Variable.id).Nodup := set.increasing.1.imp Nat.ne_of_lt
    rw [sameIds]
    exact ((List.toFinset_sort (· ≤ ·) distinct).mpr (set.increasing.1.imp Nat.le_of_lt)).symm
  increasing := set.increasing
  size := set.card_members.symm
  isEmpty := by
    rw [← Finset.card_eq_zero, card_members, size, isEmpty, List.isEmpty_iff_length_eq_zero]
  insertNew v := by
    rw [insertNew, mem_members, ← contains_eq_true_iff]
    simp

/-- Taking the right set whole for an empty left one changes nothing. -/
theorem absorb_eq_insertAll : left.absorb right = left.insertAll right.toList :=
  ext fun v => by rw [mem_absorb, mem_insertAll, ← mem_def, or_comm]

theorem isSubset_iff_members_subset :
    left.isSubset right = true ↔ left.members ⊆ right.members := by
  simp only [isSubset_eq_true_iff, Finset.subset_iff, mem_members]

theorem eq_of_isSubset (below : left.isSubset right = true) (above : right.isSubset left = true) :
    left = right :=
  ext fun v => ⟨isSubset_eq_true_iff.mp below v, isSubset_eq_true_iff.mp above v⟩

end VarSet

/-! ## Calls -/

/-- Whether the operands of an operator are borrowed or given away. -/
inductive Operands where
  | borrowed
  | owned
deriving DecidableEq

/-- An operation on the sets in numbered registers; its first number is that of the
register for the result. -/
inductive SetCall where
  | collect (target : Nat) (members : List Variable)
  | insert (target : Nat) (v : Variable)
  | extend (target : Nat) (members : List Variable)
  | absorb (target source : Nat)
  | union (target : Nat) (operands : Operands) (left right : Nat)
  | difference (target : Nat) (operands : Operands) (left right : Nat)

namespace SetCall

/-- The register for the result. -/
def target : SetCall → Nat
  | collect target _ => target
  | insert target _ => target
  | extend target _ => target
  | absorb target _ => target
  | union target _ _ _ => target
  | difference target _ _ _ => target

/-- The set that a call builds. -/
def result (sets : Nat → VarSet) : SetCall → VarSet
  | collect _ members => .collect members
  | insert target v => ((sets target).insertNew v).2
  | extend target members => (sets target).insertAll members
  | absorb target source => (sets target).absorb (sets source)
  | union _ .borrowed left right => (sets left).merge (sets right)
  | union _ .owned left right => (sets left).absorb (sets right)
  | difference _ .borrowed left right => (sets left).difference (sets right)
  | difference _ .owned left right => sets left \ sets right

/-- The finite set that a call stands for. -/
def meaning (sets : Nat → Finset Variable) : SetCall → Finset Variable
  | collect _ members => members.toFinset
  | insert target v => Insert.insert v (sets target)
  | extend target members => sets target ∪ members.toFinset
  | absorb target source => sets target ∪ sets source
  | union _ _ left right => sets left ∪ sets right
  | difference _ _ left right => sets left \ sets right

/-- The registers after calls that are carried out from first to last. -/
def run {α : Type} (outcome : (Nat → α) → SetCall → α) (calls : List SetCall)
    (registers : Nat → α) : Nat → α :=
  calls.foldl
    (fun registers call => Function.update registers call.target (outcome registers call))
    registers

/-- A call builds the finite set that it stands for. -/
theorem members_result (sets : Nat → VarSet) (call : SetCall) :
    (call.result sets).members = call.meaning (VarSet.members ∘ sets) := by
  ext v
  cases call with
  | collect target members => simp [result, meaning]
  | insert target w => simp [result, meaning, VarSet.insertNew]
  | extend target members => simp [result, meaning, or_comm]
  | absorb target source => simp [result, meaning]
  | union target operands left right => cases operands <;> simp [result, meaning]
  | difference target operands left right => cases operands <;> simp [result, meaning]

theorem members_run (calls : List SetCall) (sets : Nat → VarSet) :
    VarSet.members ∘ run result calls sets = run meaning calls (VarSet.members ∘ sets) := by
  -- A later call reads registers that an earlier one has changed, so the induction is over
  -- all registers at once.
  induction calls generalizing sets with
  | nil => rfl
  | cons call rest inductionHypothesis =>
    calc
      VarSet.members ∘ run result rest (Function.update sets call.target (call.result sets))
        = run meaning rest
            (VarSet.members ∘ Function.update sets call.target (call.result sets)) :=
          inductionHypothesis _
      _ = run meaning rest
            (Function.update (VarSet.members ∘ sets) call.target
              (call.meaning (VarSet.members ∘ sets))) := by
          rw [Function.comp_update, members_result]

/-- Every register represents the finite set that the calls so far stand for. -/
theorem represents_run (calls : List SetCall) (register : Nat) :
    (run result calls (fun _ => ∅) register).Represents
      (run meaning calls (fun _ => ∅) register) := by
  have initial : (VarSet.members ∘ fun _ : Nat => (∅ : VarSet)) = fun _ => ∅ := rfl
  rw [← initial, ← members_run]
  exact VarSet.represents_members _

end SetCall

/-! ## Sets as finite sets -/

/-- After every history of calls the registers represent the finite sets that the calls
stand for, the two forms of an operator agree, sets with the same members are equal and
have one digest and one text, and the inclusion test decides inclusion. -/
theorem VarSet.implements_finite_sets :
    (∀ (calls : List SetCall) (register : Nat),
      (SetCall.run SetCall.result calls (fun _ => ∅) register).Represents
        (SetCall.run SetCall.meaning calls (fun _ => ∅) register)) ∧
    (∀ left right : VarSet, left.merge right = left.absorb right ∧
      left.absorb right = left.insertAll right.toList ∧
      left.difference right = left \ right) ∧
    (∀ left right : VarSet, (∀ v, left.contains v = right.contains v) →
      left = right ∧ (∀ leaf : LeafHash, leaf.set left = leaf.set right) ∧
        ∀ names : Naming, left.text names = right.text names) ∧
    (∀ left right : VarSet, left.isSubset right = true ↔ left.members ⊆ right.members) ∧
    (∀ left right : VarSet, left.isSubset right = true → right.isSubset left = true →
      left = right) := by
  refine ⟨SetCall.represents_run,
    fun left right => ⟨merge_eq_absorb, absorb_eq_insertAll, difference_eq_diff⟩, ?_,
    fun left right => isSubset_iff_members_subset, fun left right => eq_of_isSubset⟩
  intro left right sameMembers
  have same : left = right := ext fun v => by
    rw [← contains_eq_true_iff, ← contains_eq_true_iff, sameMembers]
  subst same
  exact ⟨rfl, fun leaf => rfl, fun names => rfl⟩

/-- A set that is collected from a list with a repetition, and one that is grown from
three other sets. -/
theorem VarSet.implements_finite_sets_two_histories :
    let collecting : List SetCall := [.collect 0 [⟨5⟩, ⟨2⟩, ⟨0⟩, ⟨5⟩]]
    let growing : List SetCall := [.insert 1 ⟨2⟩, .absorb 0 1, .extend 1 [⟨0⟩, ⟨7⟩, ⟨5⟩],
      .insert 2 ⟨7⟩, .difference 1 .borrowed 1 2, .union 3 .owned 0 1]
    let collected := SetCall.run SetCall.result collecting (fun _ => ∅) 0
    let grown := SetCall.run SetCall.result growing (fun _ => ∅) 3
    (∀ v, collected.contains v = grown.contains v) ∧
      (∀ leaf : LeafHash, leaf.set collected = leaf.set grown) ∧
      (∀ names : Naming, collected.text names = grown.text names) ∧
      collected.isSubset grown = true ∧ grown.isSubset collected = true ∧ collected = grown := by
  intro collecting growing collected grown
  obtain ⟨represents, _, same, inclusion, antisymmetric⟩ := implements_finite_sets
  have sameMeaning : SetCall.run SetCall.meaning collecting (fun _ => ∅) 0 =
      SetCall.run SetCall.meaning growing (fun _ => ∅) 3 := by decide
  have sameMembers (v : Variable) : collected.contains v = grown.contains v := by
    rw [Bool.eq_iff_iff, (represents collecting 0).contains, (represents growing 3).contains,
      sameMeaning]
  have below : collected.isSubset grown = true := (inclusion _ _).mpr fun v => by
    simpa only [mem_members, ← contains_eq_true_iff, sameMembers] using id
  have above : grown.isSubset collected = true := (inclusion _ _).mpr fun v => by
    simpa only [mem_members, ← contains_eq_true_iff, sameMembers] using id
  obtain ⟨_, sameDigest, sameText⟩ := same _ _ sameMembers
  exact ⟨sameMembers, sameDigest, sameText, below, above, antisymmetric _ _ below above⟩

end FloatLogic
