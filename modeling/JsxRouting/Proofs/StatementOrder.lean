import JsxRouting.Proofs.RootStatements
import JsxRouting.Proofs.LocalNames

namespace JsxRouting

section Traversal

/-- A computation on every item of a list has the results in the order of the items. -/
theorem mapM_perm {α β : Type} {step : α → Except Error β} {list others : List α} (perm : list.Perm others)
    {results : List β} (run : list.mapM step = .ok results) :
    ∃ reordered, others.mapM step = .ok reordered ∧ results.Perm reordered := by
  induction perm generalizing results with
  | nil => exact ⟨results, run, .rfl⟩
  | cons first _ ih =>
    rw [List.mapM_cons] at run
    obtain ⟨head, ranFirst, run⟩ := bind_eq_ok_iff.mp run
    obtain ⟨tail, ranRest, run⟩ := bind_eq_ok_iff.mp run
    cases run
    obtain ⟨reordered, ranOthers, perm⟩ := ih ranRest
    refine ⟨head :: reordered, ?_, perm.cons head⟩
    rw [List.mapM_cons, ranFirst, ranOthers]
    rfl
  | swap first second rest =>
    rw [List.mapM_cons, List.mapM_cons] at run
    obtain ⟨here, ranSecond, run⟩ := bind_eq_ok_iff.mp run
    obtain ⟨inner, ranInner, run⟩ := bind_eq_ok_iff.mp run
    cases run
    obtain ⟨there, ranFirst, ranInner⟩ := bind_eq_ok_iff.mp ranInner
    obtain ⟨tail, ranRest, ranInner⟩ := bind_eq_ok_iff.mp ranInner
    cases ranInner
    refine ⟨there :: here :: tail, ?_, .swap there here tail⟩
    rw [List.mapM_cons, List.mapM_cons, ranFirst, ranSecond, ranRest]
    rfl
  | trans _ _ first second =>
    obtain ⟨middle, ranMiddle, toMiddle⟩ := first run
    obtain ⟨reordered, ranOthers, fromMiddle⟩ := second ranMiddle
    exact ⟨reordered, ranOthers, toMiddle.trans fromMiddle⟩

theorem declaredNames_perm {statements others : List Value} (perm : statements.Perm others) {names : List Scalar}
    (declared : declaredNames statements = .ok names) :
    ∃ reordered, declaredNames others = .ok reordered ∧ names.Perm reordered := by
  unfold declaredNames at declared ⊢
  rw [declaredInItems_eq, namesOfAll] at declared ⊢
  obtain ⟨values, found, areNames⟩ := bind_eq_ok_iff.mp declared
  obtain ⟨lists, ran, rfl⟩ := map_eq_ok_iff.mp found
  obtain ⟨otherLists, ranOthers, listsPerm⟩ := mapM_perm perm ran
  obtain ⟨reordered, areOthers, namesPerm⟩ := mapM_perm listsPerm.flatten areNames
  refine ⟨reordered, ?_, namesPerm⟩
  rw [ranOthers]
  exact areOthers

/-- Sets of the same names, in whatever order they were added. -/
theorem NameSet.contains_ofList_perm {names others : List Scalar} (perm : names.Perm others) :
    (NameSet.ofList names).contains = (NameSet.ofList others).contains := by
  funext name
  rw [contains_ofList, contains_ofList, perm.any_eq]

theorem functionsInItems_perm {items others : List Value} (perm : items.Perm others) :
    (functionsInItems items).Perm (functionsInItems others) := by
  rw [functionsInItems_eq, functionsInItems_eq]
  exact (perm.filterMap _).flatMap_right _

end Traversal

/-- A program with these statements. -/
def Node.programWith (sourceType extra : Value) (attached : List (String × Value)) (statements : List Value) :
    Node :=
  .mk .program [(.body, .list statements), (.sourceType, sourceType)] extra attached

/-- The fields of a program, with its statements first. -/
theorem Node.exists_programFields {tree : Node} (program : tree.kind = .program) (regular : tree.isRegular = true) :
    ∃ body sourceType, tree = .mk .program [(.body, body), (.sourceType, sourceType)] tree.extra tree.attached := by
  obtain ⟨kind, fields, extra, attached⟩ := tree
  obtain rfl : kind = .program := program
  have names : fields.map (·.1) = [.body, .sourceType] := beq_iff_eq.mp (check_of_all regular)
  obtain ⟨⟨_, body⟩, others, rfl, rfl, otherNames⟩ := List.map_eq_cons_iff.mp names
  obtain ⟨⟨_, sourceType⟩, rfl, rfl⟩ := List.map_eq_singleton_iff.mp otherNames
  exact ⟨body, sourceType, rfl⟩

theorem Node.exists_programWith {tree : Node} {statements : List Value} (program : tree.kind = .program)
    (regular : tree.isRegular = true) (isBody : tree.get? .body = some (.list statements)) :
    ∃ sourceType, tree = .programWith sourceType tree.extra tree.attached statements := by
  obtain ⟨body, sourceType, isTree⟩ := exists_programFields program regular
  rw [isTree] at isBody
  cases isBody
  exact ⟨sourceType, isTree⟩

namespace Pass

/-- What the pass makes of a statement of a program. -/
def statementForm (pass : Pass) (statement : Value) : Except Error Value :=
  statement.visitItem fun place child => child.mapOutermost pass.declare place

/-- What is put in front of a program: the helper if it is needed, and before it the provider if that is. -/
def front (options : Options) (needsHelper needsProvider : Bool) : Except Error (List Node) := do
  let provider ← if needsProvider then (providerBinding options.source options.format).map ([·]) else .ok []
  return provider ++ if needsHelper then [missingComponentFunction] else []

section SameScope

variable {options : Options} {topScope other : NameSet} (same : topScope.contains = other.contains)

include same

/-- Only the set of the names of the top scope counts for what is found in a function. -/
theorem within_congr (function : Node) : Findings.within topScope function = Findings.within other function := by
  unfold Findings.within Findings.ofElements
  rw [same]

theorem declare_congr : declare ⟨options, topScope⟩ = declare ⟨options, other⟩ := by
  have observes : Frame.observe topScope = Frame.observe other := by
    funext frame element
    unfold Frame.observe
    rw [same]
  funext place function
  unfold declare frameOf
  rw [observes]

/-- Only the set of the names of the top scope counts for what becomes of a statement. -/
theorem statementForm_congr : statementForm ⟨options, topScope⟩ = statementForm ⟨options, other⟩ := by
  funext statement
  rw [statementForm, statementForm, declare_congr same]

theorem needsHelperFor_congr : needsHelperFor ⟨options, topScope⟩ = needsHelperFor ⟨options, other⟩ := by
  funext function
  rw [needsHelperFor, needsHelperFor, within_congr same]

theorem needsProviderFor_congr : needsProviderFor ⟨options, topScope⟩ = needsProviderFor ⟨options, other⟩ := by
  funext function
  rw [needsProviderFor, needsProviderFor, within_congr same]

end SameScope

section Statements

variable {sourceType extra : Value} {attached : List (String × Value)} {statements : List Value}

theorem mapOutermost_programWith (change : Place → Node → Except Error Node) :
    (Node.programWith sourceType extra attached statements).mapOutermost change .plain = do
      let forms ← statements.mapM (Value.visitItem fun place child => child.mapOutermost change place)
      let type ← sourceType.mapOutermost change .plain
      return .programWith type extra attached forms := by
  rw [← mapOutermostInItems_eq, Node.programWith, Node.mapOutermost, if_neg (by decide)]
  cases forms : mapOutermostInItems change statements with
  | error error =>
    simp [mapOutermostInFields, Place.inField, Place.hidesName, Value.mapOutermost, forms, bind, Except.bind]
  | ok forms =>
    cases type : sourceType.mapOutermost change .plain <;>
      simp [mapOutermostInFields, Place.inField, Place.hidesName, Value.mapOutermost, Node.programWith, *, bind,
        Except.bind, pure, Except.pure]

/-- What is needed in the end is put in front of the statements. -/
theorem addFront_programWith (options : Options) (progress : Progress) :
    (addHelper progress (.programWith sourceType extra attached statements) >>= addProvider options progress).map
        Routed.tree =
      (front options progress.needsHelper progress.needsProvider).map fun front =>
        .programWith sourceType extra attached (front.map .node ++ statements) := by
  unfold addHelper addProvider front
  cases progress.needsHelper <;> cases progress.needsProvider <;>
    cases providerBinding options.source options.format <;> rfl

/-- The pass over a program routes its statements one by one and puts in front of them what they need. -/
theorem run_programWith (pass : Pass) :
    (pass.run (.programWith sourceType extra attached statements)).map Routed.tree = do
      let forms ← statements.mapM pass.statementForm
      let type ← sourceType.mapOutermost pass.declare .plain
      let front ← front pass.options
        ((functionsInItems statements ++ sourceType.functions .plain).any fun entry => pass.needsHelperFor entry.2)
        ((functionsInItems statements ++ sourceType.functions .plain).any fun entry =>
          pass.needsProviderFor entry.2)
      return .programWith type extra attached (front.map .node ++ forms) := by
  obtain ⟨progress, settled, run⟩ := pass.run_eq (.programWith sourceType extra attached statements)
  have functions : (Node.programWith sourceType extra attached statements).functions .plain =
      functionsInItems statements ++ sourceType.functions .plain := by
    rw [Node.programWith, Node.functions, if_neg (by decide)]
    simp [functionsInFields, Place.inField, Place.hidesName, Value.functions]
  have helper := settled.helper
  have provider := settled.provider
  rw [functions, Bool.false_or] at helper provider
  rw [run, mapOutermost_programWith, ← helper, ← provider]
  unfold statementForm
  cases statements.mapM (Value.visitItem fun place child => child.mapOutermost pass.declare place) with
  | error error => rfl
  | ok forms =>
    cases sourceType.mapOutermost pass.declare .plain with
    | error error => rfl
    | ok type =>
      refine (addFront_programWith pass.options progress).trans ?_
      cases front pass.options progress.needsHelper progress.needsProvider <;> rfl

end Statements

end Pass

theorem Node.topScope_programWith (sourceType extra : Value) (attached : List (String × Value))
    (statements : List Value) :
    (programWith sourceType extra attached statements).topScope = (declaredNames statements).map NameSet.ofList :=
  topScope_make statements

section Order

variable {options : Options} {sourceType extra : Value} {attached : List (String × Value)}
  {statements others : List Value} (perm : statements.Perm others)

include perm

/-- What the statements of a program need, they need in any order. -/
theorem any_functions_perm (needs : Place × Node → Bool) :
    (functionsInItems statements ++ sourceType.functions .plain).any needs =
      (functionsInItems others ++ sourceType.functions .plain).any needs :=
  ((functionsInItems_perm perm).append_right _).any_eq

/-- If a program is routed, it is routed with its statements in any other order, to the same forms of the statements
and with the same in front of them. -/
theorem exists_reordered {routed : Routed}
    (run : routeProgram options none (.programWith sourceType extra attached statements) = .ok routed) :
    ∃ topScope, ∃ front : List Node, ∃ type forms otherForms reordered,
      (Node.programWith sourceType extra attached statements).topScope = .ok topScope ∧
      statements.mapM (Pass.statementForm ⟨options, topScope⟩) = .ok forms ∧
      others.mapM (Pass.statementForm ⟨options, topScope⟩) = .ok otherForms ∧
      routed.tree = .programWith type extra attached (front.map .node ++ forms) ∧
      routeProgram options none (.programWith sourceType extra attached others) = .ok reordered ∧
      reordered.tree = .programWith type extra attached (front.map .node ++ otherForms) := by
  rw [routeProgram_eq] at run ⊢
  obtain ⟨topScope, isScope, run⟩ := bind_eq_ok_iff.mp run
  have isScope : (Node.programWith sourceType extra attached statements).topScope = .ok topScope := isScope
  obtain ⟨names, declared, rfl⟩ := map_eq_ok_iff.mp ((Node.topScope_programWith _ _ _ _).symm.trans isScope)
  obtain ⟨reorderedNames, redeclared, namesPerm⟩ := declaredNames_perm perm declared
  have sameScope := NameSet.contains_ofList_perm namesPerm
  have otherScope :
    (Node.programWith sourceType extra attached others).topScope = .ok (.ofList reorderedNames) := by
    rw [Node.topScope_programWith, redeclared]
    rfl
  -- The run on the statements in their order, taken apart.
  have ran : (Pass.run ⟨options, .ofList names⟩ (.programWith sourceType extra attached statements)).map
    Routed.tree = _ :=
    Pass.run_programWith _
  rw [run] at ran
  obtain ⟨forms, areForms, ran⟩ := bind_eq_ok_iff.mp ran.symm
  obtain ⟨type, isType, ran⟩ := bind_eq_ok_iff.mp ran
  obtain ⟨front, isFront, ran⟩ := bind_eq_ok_iff.mp ran
  obtain ⟨otherForms, areOtherForms, _⟩ := mapM_perm perm areForms
  -- The run on the statements in the other order has the same parts.
  have reran :
      (Pass.run ⟨options, .ofList reorderedNames⟩ (.programWith sourceType extra attached others)).map
        Routed.tree = _ :=
    Pass.run_programWith _
  rw [← any_functions_perm perm, ← any_functions_perm perm, ← Pass.statementForm_congr sameScope,
    ← Pass.declare_congr sameScope, ← Pass.needsHelperFor_congr sameScope,
      ← Pass.needsProviderFor_congr sameScope] at reran
  have rerun := reran.trans (bind_eq_ok_iff.mpr ⟨otherForms, areOtherForms, bind_eq_ok_iff.mpr ⟨type, isType,
    bind_eq_ok_iff.mpr ⟨front, isFront, rfl⟩⟩⟩)
  obtain ⟨reordered, isReordered, sameTree⟩ := map_eq_ok_iff.mp rerun
  refine ⟨_, front, type, forms, otherForms, reordered, isScope, areForms, areOtherForms, ?_, ?_, sameTree⟩
  · exact (Except.ok.inj ran).symm
  · exact bind_eq_ok_iff.mpr ⟨_, otherScope, isReordered⟩

end Order

/-- Whether a program can be routed does not depend on the order of its statements, and neither does what is put in
front of them or what becomes of each: that depends on the statement, the options and the set of the names of the
top scope. -/
theorem routeProgram_perm (options : Options) {tree : Node} {statements others : List Value}
    (program : tree.kind = .program) (regular : tree.isRegular = true)
    (isBody : tree.get? .body = some (.list statements)) (perm : statements.Perm others) :
    let permuted := tree.set .body (.list others)
    ((∃ routed, routeProgram options none tree = .ok routed) ↔
      ∃ routed, routeProgram options none permuted = .ok routed) ∧
    ∀ routed reordered, routeProgram options none tree = .ok routed →
      routeProgram options none permuted = .ok reordered →
      ∃ topScope, ∃ front : List Node, ∃ type forms otherForms,
        tree.topScope = .ok topScope ∧
        (∀ scope : NameSet, scope.contains = topScope.contains →
          Pass.statementForm ⟨options, scope⟩ = Pass.statementForm ⟨options, topScope⟩) ∧
        statements.mapM (Pass.statementForm ⟨options, topScope⟩) = .ok forms ∧
        others.mapM (Pass.statementForm ⟨options, topScope⟩) = .ok otherForms ∧
        routed.tree = .programWith type tree.extra tree.attached (front.map .node ++ forms) ∧
        reordered.tree = .programWith type tree.extra tree.attached (front.map .node ++ otherForms) := by
  obtain ⟨sourceType, isTree⟩ := Node.exists_programWith program regular isBody
  have isPermuted : tree.set .body (.list others) = .programWith sourceType tree.extra tree.attached others := by
    rw [isTree]
    rfl
  intro permuted
  rw [show permuted = _ from isPermuted, isTree]
  refine ⟨⟨fun ⟨_, run⟩ => ?_, fun ⟨_, run⟩ => ?_⟩, fun routed reordered run rerun => ?_⟩
  · obtain ⟨_, _, _, _, _, reordered, _, _, _, _, rerun, _⟩ := exists_reordered perm run
    exact ⟨reordered, rerun⟩
  · obtain ⟨_, _, _, _, _, reordered, _, _, _, _, rerun, _⟩ := exists_reordered perm.symm run
    exact ⟨reordered, rerun⟩
  · obtain ⟨topScope, front, type, forms, otherForms, other, isScope, areForms, areOtherForms, routes, isOther,
      otherTree⟩ := exists_reordered perm run
    cases rerun.symm.trans isOther
    exact ⟨topScope, front, type, forms, otherForms, isScope, fun _ => Pass.statementForm_congr,
      areForms, areOtherForms, routes, otherTree⟩

/-- `function F() { <b />; }` and `function G() { <Foo />; }` in either order, behind the helper that `G` needs. -/
theorem routeProgram_perm_swapped :
    let renders := fun (name element : String) =>
      Node.functionNamed name [] [.expressionStatement (.emptyElement (.jsxName element))]
    let page := Node.programOf [renders "F" "b", renders "G" "Foo"]
    let permuted := Node.programOf [renders "G" "Foo", renders "F" "b"]
    page.kind = .program ∧ page.isRegular = true ∧
      ∃ routed reordered type f g, routeProgram {} none page = .ok routed ∧
        routeProgram {} none permuted = .ok reordered ∧
        routed.tree = .programWith type (.object []) [] [.node missingComponentFunction, f, g] ∧
        reordered.tree = .programWith type (.object []) [] [.node missingComponentFunction, g, f] := by
  intro renders page permuted
  have program : page.kind = .program := rfl
  have regular : page.isRegular = true := rfl
  have perm : [Value.node (renders "F" "b"), .node (renders "G" "Foo")].Perm
      [.node (renders "G" "Foo"), .node (renders "F" "b")] := .swap _ _ _
  obtain ⟨routed, run⟩ : ∃ routed, routeProgram {} none page = .ok routed := ⟨_, rfl⟩
  obtain ⟨succeeds, sameForms⟩ := routeProgram_perm {} program regular rfl perm
  obtain ⟨reordered, rerun⟩ := succeeds.mp ⟨routed, run⟩
  obtain ⟨topScope, front, type, forms, otherForms, isScope, _, areForms, areOtherForms, isTree, isReordered⟩ :=
    sameForms routed reordered run rerun
  cases isScope
  cases areForms
  cases areOtherForms
  cases run
  have statements : front.map Value.node ++ _ = [.node missingComponentFunction] ++ _ :=
    (congrArg Node.statements isTree).symm
  obtain ⟨_, rfl, isHelper⟩ := List.map_eq_singleton_iff.mp (List.append_cancel_right statements)
  cases isHelper
  exact ⟨program, regular, _, reordered, type, _, _, rfl, rerun, isTree, isReordered⟩

end JsxRouting
