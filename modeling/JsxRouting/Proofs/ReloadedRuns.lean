import JsxRouting.Proofs.QuietWalks
import JsxRouting.Proofs.ReloadedTrees

namespace JsxRouting

/-- Steps that a tree takes. -/
inductive TreeStep
  | route (options : Options) (known : Option NameSet)
  /-- Writes the tree and reads it again. -/
  | reread
  | write
  | scope
  | walk

/-- What a step tells of the tree. -/
inductive TreeAnswer
  | done
  | written (data : Json)
  | names (names : NameSet)
  | visits (visits : List Visit)

namespace TreeStep

/-- Takes a step. A routed tree is written. -/
def take (tree : Node) : TreeStep → Except Error (TreeAnswer × Node)
  | .route options known => do
    let routed ← routeProgram options known tree
    return (.written (← routed.tree.toJson), routed.tree)
  | .reread => do return (.done, ← Node.read (← tree.toJson))
  | .write => do return (.written (← tree.toJson), tree)
  | .scope => do return (.names (← tree.topScope), tree)
  | .walk => do return (.visits (← tree.visits), tree)

/-- Takes steps until one fails: the answers, and the error of the last step if there is one. -/
def run (tree : Node) : List TreeStep → List TreeAnswer × Option Error
  | [] => ([], none)
  | step :: rest =>
    match step.take tree with
    | .error error => ([], some error)
    | .ok (answer, tree) =>
      let (answers, error) := run tree rest
      (answer :: answers, error)

end TreeStep

section Walks

mutual

theorem Node.Alike.own : ∀ {node other : Node} {closing : Bool}, node.Alike .reloading closing other →
    node.all Node.hasOwnFields = true
  | .mk kind fields _ _, _, _, .mk own alike _ _ => by
    rw [Node.all, ownInFields_alike alike, Bool.and_true]
    exact beq_iff_eq.mpr own

theorem ownInFields_alike :
    ∀ {fields others : List (Field × Value)}, List.Forall₂ (FieldAlike .reloading) fields others →
    allInFields Node.hasOwnFields fields = true
  | [], _, .nil => rfl
  | _ :: _, _, .cons (.value alike) tails => by
    rw [allInFields, Value.Alike.own alike, ownInFields_alike tails, Bool.and_true]
  | _ :: _, _, .cons (.raw ignores _ _) _ => by cases ignores

theorem Value.Alike.own : ∀ {value other : Value} {closing : Bool}, value.Alike .reloading closing other →
    value.all Node.hasOwnFields = true
  | .scalar _, _, _, .scalar _ => rfl
  | .list _, _, _, .list alike => ownInItems_alike alike
  | .object _, _, _, .object _ => rfl
  | .node _, _, _, .node alike => Node.Alike.own alike

theorem ownInItems_alike : ∀ {items others : List Value}, List.Forall₂ (Value.Alike .reloading false) items others →
    allInItems Node.hasOwnFields items = true
  | [], _, .nil => rfl
  | _ :: _, _, .cons alike tails => by
    rw [allInItems, Value.Alike.own alike, ownInItems_alike tails, Bool.and_true]

end

mutual

/-- Walks through trees that are alike visit nodes of the same kinds. -/
theorem Node.Alike.visitsBelow : ∀ {node other : Node} {closing : Bool}, node.Alike .reloading closing other →
    ∀ parent field, other.visitsBelow parent field = node.visitsBelow parent field
  | .mk kind fields _ _, _, _, .mk _ alike _ _, parent, field => by
    rw [Node.visitsBelow, Node.visitsBelow, visitsInFields_alike alike]

theorem visitsInFields_alike :
    ∀ {fields others : List (Field × Value)}, List.Forall₂ (FieldAlike .reloading) fields others →
    ∀ {kind : Kind}, visitsInFields kind others = visitsInFields kind fields
  | [], _, .nil, _ => rfl
  | _ :: _, _, .cons (.value alike) tails, kind => by
    rw [visitsInFields, visitsInFields, Value.Alike.visitsIn alike, visitsInFields_alike tails]
  | _ :: _, _, .cons (.raw ignores _ _) _, _ => by cases ignores

theorem Value.Alike.visitsIn : ∀ {value other : Value} {closing : Bool}, value.Alike .reloading closing other →
    ∀ {kind : Kind} {field : Field}, other.visitsIn kind field = value.visitsIn kind field
  | .scalar _, _, _, .scalar _, _, _ => rfl
  | .list _, _, _, .list alike, _, _ => visitsInItems_alike alike
  | .object _, _, _, .object _, _, _ => rfl
  | .node _, _, _, .node alike, _, _ => Node.Alike.visitsBelow alike _ _

theorem visitsInItems_alike :
    ∀ {items others : List Value}, List.Forall₂ (Value.Alike .reloading false) items others →
    ∀ {kind : Kind} {field : Field}, visitsInItems kind field others = visitsInItems kind field items
  | [], _, .nil, _, _ => rfl
  | _ :: _, _, .cons (.node alike) tails, _, _ => by
    rw [visitsInItems, visitsInItems, Node.Alike.visitsBelow alike, visitsInItems_alike tails]
  | _ :: _, _, .cons (.scalar _) tails, _, _ => visitsInItems_alike tails
  | _ :: _, _, .cons (.list _) tails, _, _ => visitsInItems_alike tails
  | _ :: _, _, .cons (.object _) tails, _, _ => visitsInItems_alike tails

end

end Walks

/-- Trees of the form that trees from data have, alike up to older marks that do not hold. -/
structure Node.Interchangeable (tree other : Node) : Prop where
  first : tree.Alike .reloading false tree
  second : other.Alike .reloading false other
  alike : tree.Alike .reloading false other

namespace Node

theorem interchangeable_self {tree : Node} (alike : tree.Alike .reloading false tree) : tree.Interchangeable tree :=
  ⟨alike, alike, alike⟩

/-- What is left of a tree is as good as the tree. -/
theorem interchangeable_settled {tree : Node} (alike : tree.Alike .reloading false tree) :
    tree.Interchangeable tree.settled :=
  ⟨alike, alike.settled_right.symm.settled_right, alike.settled_right⟩

theorem Alike.toJson {tree : Node} (alike : tree.Alike .reloading false tree) : tree.toJson = .ok tree.write :=
  if_pos alike.isWritable

namespace Interchangeable

variable {tree other : Node} (both : tree.Interchangeable other)

include both

theorem toJson : other.toJson = tree.toJson := by rw [both.first.toJson, both.second.toJson, both.alike.write]

theorem topScope : other.topScope = tree.topScope := by
  refine (both.alike.topScope.imp fun names others alike => ?_).eq.symm
  have same : names.toList = others.toList := List.forall₂_eq_eq_eq ▸ alike
  obtain ⟨list, distinct⟩ := names
  cases same
  rfl

theorem visits : other.visits = tree.visits := by
  rw [visits_eq both.first.own, visits_eq both.second.own, both.alike.visitsBelow]

/-- The pass keeps trees interchangeable. -/
theorem routeProgram (options : Options) (known : Option NameSet) :
    Agree (fun routed after => routed.tree.Interchangeable after.tree) (JsxRouting.routeProgram options known tree)
      (JsxRouting.routeProgram options known other) := by
  have firsts := routeProgram_alike options known both.first
  have seconds := routeProgram_alike options known both.second
  have alike := routeProgram_alike options known both.alike
  generalize JsxRouting.routeProgram options known tree = run at firsts alike ⊢
  generalize JsxRouting.routeProgram options known other = after at seconds alike ⊢
  cases alike with
  | error error => exact .error error
  | ok trees =>
    cases firsts with
    | ok first =>
      cases seconds with
      | ok second => exact .ok ⟨first, second, trees⟩

end Interchangeable

end Node

namespace TreeStep

/-- Interchangeable trees give the same answer to a step, or fail in the same way, and stay interchangeable. -/
theorem take_agree {tree other : Node} (both : tree.Interchangeable other) (step : TreeStep) :
    Agree (fun result after => after.1 = result.1 ∧ result.2.Interchangeable after.2) (step.take tree)
      (step.take other) := by
  cases step with
  | route options known =>
    refine (both.routeProgram options known).bind fun routed after trees => ?_
    rw [trees.toJson, trees.first.toJson]
    exact .ok ⟨rfl, trees⟩
  | reread =>
    have kept := Node.interchangeable_self (Node.interchangeable_settled both.first).second
    simp only [take, both.toJson, both.first.toJson, bind, Except.bind, both.first.read_write]
    exact .ok ⟨rfl, kept⟩
  | write =>
    simp only [take, both.toJson, both.first.toJson]
    exact .ok ⟨rfl, both⟩
  | scope =>
    simp only [take, both.topScope]
    cases tree.topScope with
    | error error => exact .error error
    | ok => exact .ok ⟨rfl, both⟩
  | walk =>
    simp only [take, both.visits]
    cases tree.visits with
    | error error => exact .error error
    | ok => exact .ok ⟨rfl, both⟩

theorem run_eq {tree other : Node} (both : tree.Interchangeable other) (steps : List TreeStep) :
    run other steps = run tree steps := by
  induction steps generalizing tree other with
  | nil => rfl
  | cons step rest ih =>
    have agree := take_agree both step
    rw [run, run]
    generalize step.take tree = taken at agree ⊢
    generalize step.take other = after at agree ⊢
    cases agree with
    | error => rfl
    | ok results =>
      obtain ⟨sameAnswer, trees⟩ := results
      simp only [ih trees, sameAnswer]

/-- Reading a tree again in between changes no other answer. -/
theorem run_reread {tree : Node} (alike : tree.Alike .reloading false tree) (before after : List TreeStep) :
    run tree (before ++ .reread :: after) =
      ((run tree (before ++ after)).1.insertIdx before.length .done, (run tree (before ++ after)).2) := by
  induction before generalizing tree with
  | nil =>
    have reread : TreeStep.reread.take tree = .ok (.done, tree.settled) := by
      simp only [take, alike.toJson, bind, Except.bind, alike.read_write]
      rfl
    rw [List.nil_append, run, reread]
    simp only [run_eq (Node.interchangeable_settled alike)]
    rfl
  | cons step rest ih =>
    have agree := take_agree (Node.interchangeable_self alike) step
    rw [List.cons_append, List.cons_append, run, run]
    generalize step.take tree = taken at agree ⊢
    cases agree with
    | error => rfl
    | ok results =>
      simp only [ih results.2.first]
      rfl

end TreeStep

/-- Writing a tree from data and reading it again, anywhere among its steps, changes nothing in the answers to the
other steps, and no step fails that did not, or in another way. -/
theorem Node.FromData.run_insert_reread {tree : Node} (fromData : tree.FromData) (before after : List TreeStep) :
    TreeStep.run tree (before ++ .reread :: after) =
      ((TreeStep.run tree (before ++ after)).1.insertIdx before.length .done,
        (TreeStep.run tree (before ++ after)).2) :=
  TreeStep.run_reread fromData.alike before after

theorem Node.FromData.run_insert_reread_falseMark :
    let before : List TreeStep := [.walk, .route {} none]
    let after : List TreeStep := [.write, .scope, .route {} none, .walk]
    ∃ tree, Node.read falseMarkPage = .ok tree ∧ TreeStep.run tree (before ++ .reread :: after) =
      ((TreeStep.run tree (before ++ after)).1.insertIdx before.length .done,
        (TreeStep.run tree (before ++ after)).2) := by
  intro before after
  obtain ⟨tree, read⟩ : ∃ tree, Node.read falseMarkPage = .ok tree := ⟨_, rfl⟩
  exact ⟨tree, read, Node.FromData.run_insert_reread (.read rfl read) before after⟩

end JsxRouting
