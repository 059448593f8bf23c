import FloatLogic.Log
import FloatLogic.Proofs.Folding.Operations
import FloatLogic.Proofs.Subformula

/-!
# The log of construction

Building a tree applies one constructor for each of its nodes that is no truth value.
Every constructor has an ordered table of rules, and the first rule that fires gives
the formula that the application returns and the message that it logs.  If none fires,
the application returns the plain node and logs nothing.  So the log of a build is the
list of the messages of its applications, and what an application returns tells
whether it logs.
-/

namespace FloatLogic

/-! ## Applications and their rules -/

/-- A constructor with the operands that it is applied to. -/
inductive Application where
  | compare (relation : Comparison) (left right : Term)
  | join (connective : Connective) (left right : Formula)
  | negate (operand : Formula)
  | quantify (binders : VarSet) (body : Formula)

/-- A rule of a constructor for given operands: whether it fires, the formula that it
returns, and its message. -/
structure FoldingRule where
  fires : Bool
  outcome : Formula
  message : Naming → String

/-- The log line of a rule that fires. -/
def FoldingRule.logLine (names : Naming) (rule : FoldingRule) : LogLine :=
  ⟨.trace, rule.message names⟩

namespace Application

/-- Carry out an application. -/
def perform : Application → Logged Fold Formula
  | compare relation left right => Formula.compareLogged relation left right
  | join connective left right => Formula.joinLogged connective left right
  | negate operand => operand.negateLogged
  | quantify binders body => pure (Formula.quantify binders body)

/-- The formula that an application returns. -/
def value (application : Application) : Formula := application.perform.value

/-- The node that an application makes if no rule fires. -/
def node : Application → Formula
  | compare relation left right => .comparison relation left right
  | join connective left right => .junction connective left right
  | negate operand => .negation operand
  | quantify binders body => .universal binders body

/-- The formulas among the operands. -/
def operands : Application → List Formula
  | compare _ _ _ => []
  | join _ left right => [left, right]
  | negate operand => [operand]
  | quantify _ body => [body]

/-- The rules of a constructor in the order in which they are tried. -/
def rules : Application → List FoldingRule
  | compare relation left right => [{
      fires := decide (left = right)
      outcome := .truth relation.reflexive
      message := fun names => "relation over structurally equal operands " ++ left.text names ++
        " folded to " ++ (if relation.reflexive then "true" else "false") }]
  | join connective left right => [{
      fires := decide (left.truth? = some connective.absorbing ∨
        right.truth? = some connective.absorbing)
      outcome := .truth connective.absorbing
      message := fun names => connective.word ++ "(" ++ left.text names ++ ", " ++
        right.text names ++ ") folded to " ++ truthText connective.absorbing }, {
      fires := decide (left.truth? = some !connective.absorbing)
      outcome := right
      message := fun names => connective.word ++ "(" ++ truthText (!connective.absorbing) ++ ", " ++
        right.text names ++ ") folded to its right operand" }, {
      fires := decide (right.truth? = some !connective.absorbing)
      outcome := left
      message := fun names => connective.word ++ "(" ++ left.text names ++ ", " ++
        truthText (!connective.absorbing) ++ ") folded to its left operand" }]
  | negate operand => [{
      fires := decide (operand.truth? = some true)
      outcome := .truth false
      message := fun _ => "not(True) folded to False" }, {
      fires := decide (operand.truth? = some false)
      outcome := .truth true
      message := fun _ => "not(False) folded to True" }]
  | quantify _ _ => []

/-- The first rule that fires. -/
def rule? (application : Application) : Option FoldingRule :=
  application.rules.find? FoldingRule.fires

/-- The application returns one of its operands or a truth value. -/
def Folds (application : Application) : Prop :=
  application.value ∈ application.operands ∨ ∃ value, application.value = .truth value

/-! ## One application -/

/-- A junction folds by the first rule that fires. -/
theorem fold?_eq (connective : Connective) (left right : Formula) :
    connective.fold? left right =
      if left.truth? = some connective.absorbing ∨ right.truth? = some connective.absorbing then
        some (.truth connective.absorbing)
      else if left.truth? = some !connective.absorbing then some .right
      else if right.truth? = some !connective.absorbing then some .left
      else none := by
  have constant {formula : Formula} (other : formula.truth? ≠ some connective.absorbing) :
      formula.truth?.isSome = true ↔ formula.truth? = some !connective.absorbing := by
    cases known : formula.truth? with
    | none => simp
    | some value =>
      rw [known] at other
      simpa using Bool.eq_not_of_ne fun same => other (congrArg some same)
  rw [Connective.fold?]
  by_cases absorbed : left.truth? = some connective.absorbing ∨
      right.truth? = some connective.absorbing
  · rw [if_pos absorbed, if_pos absorbed]
  · obtain ⟨leftOther, rightOther⟩ := not_or.mp absorbed
    rw [if_neg absorbed, if_neg absorbed]
    simp only [constant leftOther, constant rightOther]

/-- The message for a dropped left operand shows the truth value that it is. -/
theorem message_right (connective : Connective) (neutral : Bool) (right : Formula)
    (names : Naming) :
    (Fold.junction connective (.truth neutral) right .right).message names =
      connective.word ++ "(" ++ truthText neutral ++ ", " ++ right.text names ++
        ") folded to its right operand" :=
  calc
    _ = connective.word ++ "(" ++ truthText neutral ++ ", " ++ right.text names ++
          (") folded to " ++ "its right operand") := String.append_assoc

/-- The message for a dropped right operand shows the truth value that it is. -/
theorem message_left (connective : Connective) (left : Formula) (neutral : Bool)
    (names : Naming) :
    (Fold.junction connective left (.truth neutral) .left).message names =
      connective.word ++ "(" ++ left.text names ++ ", " ++ truthText neutral ++
        ") folded to its left operand" :=
  calc
    _ = connective.word ++ "(" ++ left.text names ++ ", " ++ truthText neutral ++
          (") folded to " ++ "its left operand") := String.append_assoc

/-- The application returns the outcome of its rule and logs the message of the rule, or
it returns the plain node in silence. -/
def FollowsRules (application : Application) : Prop :=
  application.value = (application.rule?.map FoldingRule.outcome).getD application.node ∧
    ∀ names, application.perform.records.map (Fold.logLine names) =
      (application.rule?.map (FoldingRule.logLine names)).toList

theorem followsRules_compare (relation : Comparison) (left right : Term) :
    (compare relation left right).FollowsRules := by
  rw [FollowsRules, value, perform, Formula.compareLogged]
  by_cases same : left = right
  · have found := decide_eq_true same
    simp only [rule?, rules, List.find?, found, if_pos same]
    exact ⟨rfl, fun names => rfl⟩
  · have skipped := decide_eq_false same
    simp only [rule?, rules, List.find?, skipped, if_neg same]
    exact ⟨rfl, fun names => rfl⟩

theorem followsRules_join (connective : Connective) (left right : Formula) :
    (join connective left right).FollowsRules := by
  rw [FollowsRules, value, perform, Formula.joinLogged, fold?_eq]
  -- The cases are the rules in their order, each with the conditions before it refuted.
  by_cases absorbed : left.truth? = some connective.absorbing ∨
      right.truth? = some connective.absorbing
  · have found := decide_eq_true absorbed
    simp only [rule?, rules, List.find?, found, if_pos absorbed]
    exact ⟨rfl, fun names => rfl⟩
  have skipped := decide_eq_false absorbed
  by_cases leftNeutral : left.truth? = some !connective.absorbing
  · have found := decide_eq_true leftNeutral
    simp only [rule?, rules, List.find?, skipped, found, if_neg absorbed, if_pos leftNeutral]
    rw [Formula.eq_truth_of_truth?_eq_some leftNeutral]
    refine ⟨rfl, fun names => ?_⟩
    rw [List.map_singleton, Fold.logLine, message_right]
    rfl
  have leftSkipped := decide_eq_false leftNeutral
  by_cases rightNeutral : right.truth? = some !connective.absorbing
  · have found := decide_eq_true rightNeutral
    simp only [rule?, rules, List.find?, skipped, leftSkipped, found, if_neg absorbed,
      if_neg leftNeutral, if_pos rightNeutral]
    rw [Formula.eq_truth_of_truth?_eq_some rightNeutral]
    refine ⟨rfl, fun names => ?_⟩
    rw [List.map_singleton, Fold.logLine, message_left]
    rfl
  · have rightSkipped := decide_eq_false rightNeutral
    simp only [rule?, rules, List.find?, skipped, leftSkipped, rightSkipped, if_neg absorbed,
      if_neg leftNeutral, if_neg rightNeutral]
    exact ⟨rfl, fun names => rfl⟩

theorem followsRules_negate (operand : Formula) : (negate operand).FollowsRules := by
  rw [FollowsRules, value, perform, Formula.negateLogged, rule?, rules]
  cases constant : operand.truth? with
  | some value => cases value <;> exact ⟨rfl, fun names => rfl⟩
  | none => exact ⟨rfl, fun names => rfl⟩

theorem followsRules (application : Application) : application.FollowsRules := by
  cases application with
  | compare relation left right => exact followsRules_compare relation left right
  | join connective left right => exact followsRules_join connective left right
  | negate operand => exact followsRules_negate operand
  | quantify binders body => exact ⟨rfl, fun names => rfl⟩

/-! ## Folds and nodes -/

/-- Every rule gives an operand or a truth value. -/
theorem outcome_of_mem_rules {application : Application} {rule : FoldingRule}
    (mem : rule ∈ application.rules) :
    rule.outcome ∈ application.operands ∨ ∃ value, rule.outcome = .truth value := by
  cases application with
  | compare relation left right =>
    obtain rfl := List.mem_singleton.mp mem
    exact .inr ⟨_, rfl⟩
  | join connective left right =>
    rcases List.mem_cons.mp mem with rfl | mem
    · exact .inr ⟨_, rfl⟩
    · rcases List.mem_cons.mp mem with rfl | mem
      · exact .inl (List.mem_cons_of_mem _ List.mem_cons_self)
      · obtain rfl := List.mem_singleton.mp mem
        exact .inl List.mem_cons_self
  | negate operand =>
    rcases List.mem_cons.mp mem with rfl | mem
    · exact .inr ⟨_, rfl⟩
    · obtain rfl := List.mem_singleton.mp mem
      exact .inr ⟨_, rfl⟩
  | quantify binders body => cases mem

/-- The plain node is larger than its operands, and it is no truth value. -/
theorem node_is_new (application : Application) :
    ¬ (application.node ∈ application.operands ∨ ∃ value, application.node = .truth value) := by
  have larger : ∀ operand ∈ application.operands,
      operand.nodeCount < application.node.nodeCount := by
    cases application with
    | compare relation left right => simp [operands]
    | join connective left right =>
      simp only [operands, node, Formula.nodeCount, List.mem_cons, List.not_mem_nil, or_false]
      rintro operand (rfl | rfl) <;> omega
    | negate operand => simp [operands, node, Formula.nodeCount]
    | quantify binders body => simp [operands, node, Formula.nodeCount]
  rintro (mem | ⟨value, isTruth⟩)
  · exact Nat.lt_irrefl _ (larger _ mem)
  · cases application <;> cases isTruth

/-- An application either folds by a rule, and then it makes no node, or no rule fires
and it makes one. -/
theorem folds_or_makes_node (application : Application) :
    (∃ rule, application.rule? = some rule ∧ application.value = rule.outcome ∧
      application.Folds ∧ application.value ≠ application.node) ∨
    (application.rule? = none ∧ application.value = application.node ∧ ¬ application.Folds) := by
  have returned := application.followsRules.1
  cases found : application.rule? with
  | some rule =>
    rw [found] at returned
    replace returned : application.value = rule.outcome := returned
    have folds : application.Folds := by
      rw [Folds, returned]
      exact outcome_of_mem_rules (List.mem_of_find?_eq_some found)
    refine .inl ⟨rule, rfl, returned, folds, fun same => ?_⟩
    rw [Folds, same] at folds
    exact application.node_is_new folds
  | none =>
    rw [found] at returned
    replace returned : application.value = application.node := returned
    refine .inr ⟨rfl, returned, ?_⟩
    rw [Folds, returned]
    exact application.node_is_new

end Application

/-! ## Building a tree -/

namespace Formula

/-- The applications that build a tree, in their order: those for the operands from
left to right, and then the one for the node, with the operands as they were built. -/
def applications : Formula → List Application
  | truth _ => []
  | comparison relation left right => [.compare relation left right]
  | junction connective left right =>
    left.applications ++ right.applications ++ [.join connective left.build right.build]
  | negation operand => operand.applications ++ [.negate operand.build]
  | universal binders body => body.applications ++ [.quantify binders body.build]

theorem records_buildLogged (tree : Formula) :
    tree.buildLogged.records =
      tree.applications.flatMap fun application => application.perform.records := by
  induction tree with
  | truth value => rfl
  | comparison relation left right =>
    rw [applications, List.flatMap_singleton]
    rfl
  | junction connective left right leftHypothesis rightHypothesis =>
    rw [applications, List.flatMap_append, List.flatMap_append, List.flatMap_singleton,
      ← leftHypothesis, ← rightHypothesis, List.append_assoc]
    rfl
  | negation operand inductionHypothesis =>
    rw [applications, List.flatMap_append, List.flatMap_singleton, ← inductionHypothesis]
    rfl
  | universal binders body inductionHypothesis =>
    rw [applications, List.flatMap_append, List.flatMap_singleton, ← inductionHypothesis]
    rfl

/-- The log of a build holds the messages of its applications in their order. -/
theorem logLines_buildLogged (tree : Formula) (names : Naming) :
    tree.buildLogged.records.map (Fold.logLine names) =
      tree.applications.filterMap fun application =>
        application.rule?.map (FoldingRule.logLine names) := by
  rw [records_buildLogged, List.map_flatMap, List.filterMap_eq_flatMap_toList]
  simp only [(Application.followsRules _).2]

theorem build_eq_value_of_last (tree : Formula) :
    tree.build = (tree.applications.getLast?.map Application.value).getD tree := by
  cases tree with
  | truth value => rfl
  | comparison relation left right => rfl
  | junction connective left right =>
    rw [applications, List.getLast?_concat]
    rfl
  | negation operand =>
    rw [applications, List.getLast?_concat]
    rfl
  | universal binders body =>
    rw [applications, List.getLast?_concat]
    rfl

theorem length_applications (tree : Formula) :
    tree.applications.length = tree.subformulas.countP fun part => part.truth? = none := by
  induction tree with
  | truth value => rfl
  | comparison relation left right => rfl
  | junction connective left right leftHypothesis rightHypothesis =>
    rw [applications, subformulas, List.countP_cons_of_pos (by rfl), List.countP_append,
      List.length_append, List.length_append, leftHypothesis, rightHypothesis]
    rfl
  | negation operand inductionHypothesis =>
    rw [applications, subformulas, List.countP_cons_of_pos (by rfl),
      List.length_append, inductionHypothesis]
    rfl
  | universal binders body inductionHypothesis =>
    rw [applications, subformulas, List.countP_cons_of_pos (by rfl),
      List.length_append, inductionHypothesis]
    rfl

/-- Every application that makes no node emits one record. -/
theorem length_records_add_nodes (tree : Formula) :
    tree.buildLogged.records.length +
        tree.applications.countP (fun application => application.value = application.node) =
      tree.applications.length := by
  have logged : tree.buildLogged.records.length =
      tree.applications.countP fun application => application.rule?.isSome := by
    rw [← List.length_map (Fold.logLine fun _ => ""), logLines_buildLogged,
      List.length_filterMap_eq_countP]
    simp only [Option.isSome_map]
  have silent : tree.applications.countP
        (fun application => decide (application.value = application.node)) =
      tree.applications.countP fun application => application.rule? = none := by
    refine List.countP_congr fun application _ => ?_
    rcases application.folds_or_makes_node with ⟨rule, found, _, _, different⟩ | ⟨found, same, _⟩
    · simp [found, different]
    · simp [found, same]
  rw [logged, silent]
  simpa using (List.length_eq_countP_add_countP
    (fun application : Application => application.rule?.isSome)).symm

/-- The log of a build holds one line for each application that returns an operand or a
truth value, namely the message of the rule that fired, and none for an application
that makes a node. -/
theorem build_logs_its_folds (tree : Formula) :
    (∀ names : Naming, tree.buildLogged.records.map (Fold.logLine names) =
      tree.applications.filterMap fun application =>
        application.rule?.map (FoldingRule.logLine names)) ∧
    (∀ application : Application,
      (∃ rule, application.rule? = some rule ∧ application.value = rule.outcome ∧
        application.Folds ∧ application.value ≠ application.node) ∨
      (application.rule? = none ∧ application.value = application.node ∧
        ¬ application.Folds)) ∧
    tree.buildLogged.records.length +
        tree.applications.countP (fun application => application.value = application.node) =
      tree.applications.length ∧
    tree.applications.length = tree.subformulas.countP (fun part => part.truth? = none) ∧
    tree.build = (tree.applications.getLast?.map Application.value).getD tree :=
  ⟨tree.logLines_buildLogged, Application.folds_or_makes_node, tree.length_records_add_nodes,
    tree.length_applications, tree.build_eq_value_of_last⟩

/-- A truth value that a negation folds to is an operand of the next fold, and of two
rules that fire only the first one logs. -/
example :
    (junction .or (negation (truth true)) (truth false)).buildLogged.records.map
        (Fold.logLine fun _ => "") =
      [⟨.trace, "not(True) folded to False"⟩,
        ⟨.trace, "or(False, False) folded to its right operand"⟩] := by
  decide +kernel

end Formula

end FloatLogic
