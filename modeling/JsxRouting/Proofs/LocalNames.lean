import JsxRouting.Proofs.InjectedNames
import JsxRouting.Proofs.RoutedNames

namespace JsxRouting

/-- The names that statements declare in the scope in which they stand. -/
def declaredNames (statements : List Value) : Except Error (List Scalar) := do
  (← declaredInItems .statement true statements).mapM Value.asName

/-- The names that a list of parameters binds. -/
def parameterNames (parameters : List Value) : Except Error (List Scalar) := do
  (← namesOfItems .pattern parameters).mapM Value.asName

namespace Node

/-- The names that the parameters of a function bind. -/
def parameterNames (function : Node) : Except Error (List Scalar) :=
  match function.get? .params with
  | some (.list parameters) => JsxRouting.parameterNames parameters
  | _ => .error .wrongShape

/-- The names declared at the top of the body of a function. A body that is no block declares none. -/
def bodyNames (function : Node) : Except Error (List Scalar) := declaredNames (function.bodyStatements.getD [])

/-- The names that statements declare are those of the top scope of a program that consists of them. -/
theorem topScope_make (statements : List Value) :
    (Node.make .program [(.body, .list statements)]).topScope = (declaredNames statements).map NameSet.ofList := by
  have isBody : (Node.make .program [(.body, .list statements)]).get? .body = some (.list statements) := rfl
  unfold topScope declaredNames
  rw [isBody]
  simp only [Value.declaredAs]
  cases declaredInItems .statement true statements with
  | error error => rfl
  | ok names =>
    simp only [bind, Except.bind, NameSet.ofValues]
    cases names.mapM Value.asName <;> rfl

end Node

theorem mapM_asName_eq_ok {values : List Value} {names : List Scalar} :
    values.mapM Value.asName = .ok names ↔ values = names.map Value.scalar := by
  constructor
  · intro run
    have related := forall₂_of_mapM run
    clear run
    induction related with
    | nil => rfl
    | @cons value name _ _ named _ ih =>
      rw [List.map_cons, ← ih]
      cases value <;> cases named
      rfl
  · rintro rfl
    induction names with
    | nil => rfl
    | cons name rest ih =>
      rw [List.map_cons, List.mapM_cons, ih]
      rfl

theorem areNames_map (names : List Scalar) : AreNames (names.map Value.scalar) := by
  intro value member
  obtain ⟨name, _, rfl⟩ := List.mem_map.mp member
  exact ⟨name, rfl⟩

theorem declaredNames_eq_ok {statements : List Value} {names : List Scalar} :
    declaredNames statements = .ok names ↔
      declaredInItems .statement true statements = .ok (names.map .scalar) := by
  unfold declaredNames
  rw [bind_eq_ok_iff]
  constructor
  · rintro ⟨values, declared, areNames⟩
    rw [declared, mapM_asName_eq_ok.mp areNames]
  · exact fun declared => ⟨_, declared, mapM_asName_eq_ok.mpr rfl⟩

theorem parameterNames_eq_ok {parameters : List Value} {names : List Scalar} :
    parameterNames parameters = .ok names ↔ namesOfItems .pattern parameters = .ok (names.map .scalar) := by
  unfold parameterNames
  rw [bind_eq_ok_iff]
  constructor
  · rintro ⟨values, bound, areNames⟩
    rw [bound, mapM_asName_eq_ok.mp areNames]
  · exact fun bound => ⟨_, bound, mapM_asName_eq_ok.mpr rfl⟩

theorem declaredNames_append {statements others : List Value} {names more : List Scalar}
    (first : declaredNames statements = .ok names) (second : declaredNames others = .ok more) :
    declaredNames (statements ++ others) = .ok (names ++ more) := by
  rw [declaredNames_eq_ok] at first second ⊢
  rw [List.map_append]
  generalize names.map Value.scalar = values at first ⊢
  induction statements generalizing values with
  | nil =>
    cases first
    exact second
  | cons statement rest ih =>
    rw [declaredInItems] at first
    obtain ⟨here, isHere, first⟩ := bind_eq_ok_iff.mp first
    obtain ⟨behind, areBehind, first⟩ := bind_eq_ok_iff.mp first
    cases first
    rw [List.cons_append, declaredInItems, isHere, ih _ areBehind, List.append_assoc]
    rfl

/-- A constant declares what its pattern binds. -/
theorem declaredNames_constDeclaration {pattern init : Value} {names : List Scalar}
    (bound : pattern.boundNames = .ok (names.map Value.scalar)) :
    declaredNames [.node (.constDeclaration pattern init)] = .ok names := by
  have declared : (Value.node (.constDeclaration pattern init)).declaredAs .statement true =
      .ok (names.map Value.scalar ++ []) := by
    rw [Node.constDeclaration_eq, Value.declaredAs.eq_def]
    simp only [Bool.true_or, if_true, declaratorNames]
    simp [Value.elements, bound, Node.get?, Node.fields, bind, Except.bind, pure, Except.pure]
  rw [declaredNames_eq_ok, declaredInItems, declared]
  simp [declaredInItems, bind, Except.bind, pure, Except.pure]

theorem Node.parameterNames_routing {function inner : Node} (routes : function.RoutesTo inner)
    (isFunction : function.isFunction = true) {names : List Scalar} (named : function.parameterNames = .ok names) :
    inner.parameterNames = .ok names := by
  have lists := routes.get? (Node.isRouted_of_isFunction isFunction) .params
  unfold parameterNames at named ⊢
  generalize function.get? .params = before at lists named
  generalize inner.get? .params = after at lists ⊢
  cases lists with
  | none => cases named
  | @some value _ routesValue =>
    cases value with
    | list parameters =>
      obtain ⟨others, rfl, rfl | run⟩ := routesValue.list
      · exact named
      · rw [parameterNames_eq_ok] at named ⊢
        exact namesOfItems_routing parameters .pattern run named (areNames_map names)
    | scalar | object | node => cases named

theorem namesOfItems_cons_eq_ok {part : PatternPart} {item : Value} {rest : List Value} {names : List Scalar}
    (named : namesOfItems part (item :: rest) = .ok (names.map Value.scalar)) :
    ∃ here behind, names = here ++ behind ∧ item.namesAs part = .ok (here.map Value.scalar) ∧
      namesOfItems part rest = .ok (behind.map Value.scalar) := by
  rw [namesOfItems] at named
  obtain ⟨values, isItem, named⟩ := bind_eq_ok_iff.mp named
  obtain ⟨others, isRest, named⟩ := bind_eq_ok_iff.mp named
  obtain ⟨here, behind, rfl, rfl, rfl⟩ := List.map_eq_append_iff.mp (Except.ok.inj named).symm
  exact ⟨here, behind, rfl, isItem, isRest⟩

theorem namesInField_eq_ok {wanted : Field} {fields : List (Field × Value)} {names : List Value} :
    namesInField wanted fields = .ok names ↔
      ∃ value, fields.lookup wanted = some value ∧ value.boundNames = .ok names := by
  rw [namesInField_eq]
  cases fields.lookup wanted with
  | none => simp [namesAt]
  | some value => simp [namesAt, Value.namesIn, Value.boundNames]

/-- A rest parameter binds what its argument binds, and one with a default value what is on its left. -/
theorem namesAs_wrapper {parameter : Node} {field : Field}
    (isWrapper : parameter.patternField? = some field) :
    (Value.node parameter).namesAs .pattern = namesInField field parameter.fields := by
  obtain ⟨kind, fields, extra, attached⟩ := parameter
  unfold Node.patternField? at isWrapper
  split at isWrapper
  · rename_i isRest
    cases isRest
    cases isWrapper
    rfl
  · rename_i isDefault
    cases isDefault
    cases isWrapper
    rfl
  · cases isWrapper

/-- What becomes of the names of parameters, some of which can move into the body. -/
inductive ParametersMove (parameters : List Scalar) : List Scalar → List Scalar → Prop
  | kept : ParametersMove parameters [] parameters
  | added : ParametersMove parameters [] (parameters ++ [.text propsParameter])
  | moved {moved rest : List Scalar} :
      parameters = moved ++ rest → ParametersMove parameters moved (.text propsParameter :: rest)

/-- Reading the props moves the names that are then declared in front of the body. -/
theorem PropsReading.From.names {function : Node} {reading : PropsReading} (read : reading.From function)
    {parameters : List Scalar} (named : function.parameterNames = .ok parameters) :
    ∃ after moved, reading.function.parameterNames = .ok after ∧
      declaredNames (reading.prelude.map .node) = .ok moved ∧ ParametersMove parameters moved after := by
  have props : namesOfItems .pattern [.node (.identifier propsParameter)] =
      .ok ([.text propsParameter].map Value.scalar) := rfl
  cases read with
  | kept => exact ⟨parameters, [], named, rfl, .kept⟩
  | added _ isParams =>
    refine ⟨parameters ++ [.text propsParameter], [], ?_, rfl, .added⟩
    simp only [Node.parameterNames, isParams, Node.get?_set_self, parameterNames_eq_ok] at named ⊢
    rw [List.map_append]
    exact namesOfItems_append named props
  | @within parameter rest field _ isParams isWrapper =>
    simp only [Node.parameterNames, isParams, Node.get?_set_self, parameterNames_eq_ok] at named ⊢
    obtain ⟨moved, others, rfl, areMoved, areOthers⟩ := namesOfItems_cons_eq_ok named
    rw [namesAs_wrapper isWrapper] at areMoved
    obtain ⟨pattern, isPattern, bound⟩ := namesInField_eq_ok.mp areMoved
    have replaced : (Value.node (parameter.set field (.node (.identifier propsParameter)))).namesAs .pattern =
        .ok [.text propsParameter] := by
      rw [namesAs_wrapper (by rwa [Node.patternField?, Node.kind_set])]
      exact namesInField_eq_ok.mpr ⟨_, Node.lookup_set_self _ isPattern, rfl⟩
    refine ⟨.text propsParameter :: others, moved, ?_, ?_, .moved rfl⟩
    · rw [namesOfItems, replaced, areOthers]
      rfl
    · rw [Node.get?_of_lookup isPattern]
      exact declaredNames_constDeclaration bound
  | whole _ isParams _ =>
    simp only [Node.parameterNames, isParams, Node.get?_set_self, parameterNames_eq_ok] at named ⊢
    obtain ⟨moved, others, rfl, areMoved, areOthers⟩ := namesOfItems_cons_eq_ok named
    refine ⟨.text propsParameter :: others, moved, ?_, declaredNames_constDeclaration areMoved, .moved rfl⟩
    rw [namesOfItems, areOthers]
    rfl

theorem Findings.declaredNames_declarations (findings : Findings) (usesProvider : Bool) (props : Option Node) :
    declaredNames ((findings.declarations usesProvider props).map .node) =
      .ok (.text componentsObject :: (findings.components ++ findings.objects)) := by
  have object : declaredNames [.node (.constDeclaration (.node (.identifier componentsObject))
      (.node (findings.componentsLiteral usesProvider props)))] = .ok [.text componentsObject] :=
    declaredNames_constDeclaration rfl
  unfold declarations
  split
  · rename_i nothing
    rw [nothing.1, nothing.2]
    exact object
  · exact declaredNames_append object (declaredNames_constDeclaration findings.boundNames_bindingPattern)

/-- The names that the declarations keep for themselves. -/
def reservedNames : List Scalar := [.text componentsObject, .text propsParameter]

namespace ParametersMove

variable {parameters moved after : List Scalar}

theorem apart_moved (move : ParametersMove parameters moved after)
    (distinct : parameters.Pairwise fun a b => a.same b = false) (reserved : Apart parameters reservedNames) :
    Apart moved after := by
  cases move with
  | kept | added => exact fun name member => absurd member List.not_mem_nil
  | @moved _ rest split =>
    subst split
    intro name inMoved other member
    obtain rfl | inRest := List.mem_cons.mp member
    · exact reserved name (List.mem_append_left _ inMoved) _ (by decide)
    · exact (List.pairwise_append.mp distinct).2.2 name inMoved other inRest

theorem mem_after (move : ParametersMove parameters moved after) {name : Scalar} (member : name ∈ after) :
    name ∈ parameters ∨ name = .text propsParameter := by
  cases move with
  | kept => exact .inl member
  | added => simpa using member
  | moved split =>
    subst split
    obtain same | inRest := List.mem_cons.mp member
    · exact .inr same
    · exact .inl (List.mem_append_right _ inRest)

/-- The moved names are those that the parameters no longer bind. -/
theorem apart_moved_iff (move : ParametersMove parameters moved after)
    (distinct : parameters.Pairwise fun a b => a.same b = false) (reserved : Apart parameters reservedNames)
    (others : List Scalar) :
    Apart moved others ↔ ∀ name ∈ parameters, Apart [name] after → Apart [name] others := by
  have apart := move.apart_moved distinct reserved
  constructor
  · intro separate name inParameters unbound
    have notKept : name ∉ after := fun inAfter => by
      have differs := unbound name (List.mem_singleton_self name) name inAfter
      rw [Scalar.same_self] at differs
      cases differs
    cases move with
    | kept => exact absurd inParameters notKept
    | added => exact absurd (List.mem_append_left _ inParameters) notKept
    | moved split =>
      subst split
      obtain inMoved | inRest := List.mem_append.mp inParameters
      · intro same isSame
        obtain rfl := List.mem_singleton.mp isSame
        exact separate _ inMoved
      · exact absurd (List.mem_cons_of_mem _ inRest) notKept
  · intro separate name inMoved
    have inParameters : name ∈ parameters := by
      cases move with
      | kept | added => cases inMoved
      | moved split =>
        subst split
        exact List.mem_append_left _ inMoved
    refine separate name inParameters ?_ name (List.mem_singleton_self name)
    intro same isSame
    obtain rfl := List.mem_singleton.mp isSame
    exact apart _ inMoved

/-- With the names of the function itself set apart from the reserved ones, only what was found and what
was moved can meet them. -/
theorem apart_injected_iff (move : ParametersMove parameters moved after)
    (distinct : parameters.Pairwise fun a b => a.same b = false) {declared : List Scalar}
    (reserved : Apart (parameters ++ declared) reservedNames) (found : List Scalar) :
    Apart (moved ++ .text componentsObject :: found) (after ++ declared) ↔
      Apart found (after ++ declared) ∧
        ∀ name ∈ parameters, Apart [name] after → Apart [name] declared := by
  obtain ⟨reservedParameters, reservedDeclared⟩ := apart_append_left.mp reserved
  have object : Apart [.text componentsObject] (after ++ declared) := by
    rw [apart_append_right]
    refine ⟨?_, fun name isObject other member => ?_⟩
    · intro name isObject other member
      obtain rfl := List.mem_singleton.mp isObject
      obtain inParameters | rfl := move.mem_after member
      · rw [Scalar.same_comm]
        exact reservedParameters other inParameters _ (by decide)
      · decide
    · obtain rfl := List.mem_singleton.mp isObject
      rw [Scalar.same_comm]
      exact reservedDeclared other member _ (by decide)
  have movedAfter := move.apart_moved distinct reservedParameters
  rw [apart_append_left, apart_cons_left, ← move.apart_moved_iff distinct reservedParameters]
  constructor
  · rintro ⟨movedApart, _, foundApart⟩
    exact ⟨foundApart, (apart_append_right.mp movedApart).2⟩
  · rintro ⟨foundApart, movedApart⟩
    exact ⟨apart_append_right.mpr ⟨movedAfter, movedApart⟩, object, foundApart⟩

end ParametersMove

/-- In a routed program, the declarations of a function bind no name that its parameters or the top of its
body bind, exactly if no component or object that was found in it has such a name, and no name that its
parameters lost to the body is declared there. -/
theorem routeProgram_declared_apart_iff {options : Options} {known : Option NameSet} {tree : Node}
    {routed : Routed} (program : tree.kind = .program) (run : routeProgram options known tree = .ok routed) :
    ∃ topScope, tree.knownNames known = .ok topScope ∧
      ∀ position place function, tree.outermostAt? .plain position = some (place, function) →
        (Findings.within topScope function).isEmpty = false →
        ∀ parameters declared, function.parameterNames = .ok parameters → function.bodyNames = .ok declared →
          (parameters.Pairwise fun a b => a.same b = false) → Apart (parameters ++ declared) reservedNames →
          ∃ changed after injected, routed.tree.at?
            (Position.behind (routed.frontCount tree) position) = some changed ∧
            changed.parameterNames = .ok after ∧
            declaredNames (function.addedStatements changed) = .ok injected ∧
            (Apart injected (after ++ declared) ↔
              Apart ((Findings.within topScope function).components ++ (Findings.within topScope function).objects)
                  (after ++ declared) ∧
                ∀ name ∈ parameters, Apart [name] after → Apart [name] declared) := by
  obtain ⟨topScope, isScope, outermost⟩ := routeProgram_outermost program run
  refine ⟨topScope, isScope, ?_⟩
  intro position place function found something parameters declared named _ distinct reserved
  obtain ⟨changed, declares, there⟩ := outermost position place function found
  obtain ⟨nothing, _⟩ | ⟨_, inner, prepared, ran, ready, prepended⟩ := Pass.declare_cases declares
  · rw [something] at nothing
    cases nothing
  have isFunction := Node.isFunction_of_outermostAt? found
  obtain ⟨props, read⟩ := Node.prepare_from ready
  obtain ⟨after, moved, namedAfter, areMoved, move⟩ :=
    read.names (Node.parameterNames_routing (.inr ⟨.plain, ran⟩) isFunction named)
  have injected := declaredNames_append areMoved (Findings.declaredNames_declarations
    (Findings.within topScope function) options.usesProvider prepared.props)
  rw [← List.map_append, ← Pass.addedStatements_prependToBody isFunction ran ready prepended] at injected
  refine ⟨changed, after, _, there, ?_, injected, move.apart_injected_iff distinct reserved _⟩
  unfold Node.parameterNames at namedAfter ⊢
  rwa [Node.get?_prependToBody prepended (by decide) (by decide)]

/-- `Foo` is declared in `function F() { return <Foo />; }`, which has no name of its own. -/
theorem routeProgram_declared_apart_free :
    let function := Node.functionNamed "F" [] [.returnStatement (.node (.emptyElement (.jsxName "Foo")))]
    let page := Node.programOf [function]
    page.kind = .program ∧ ∃ routed, routeProgram {} none page = .ok routed ∧
      ∃ changed injected, routed.tree.at?
        (Position.behind (routed.frontCount page) [.item .body 0]) = some changed ∧
        changed.parameterNames = .ok [] ∧ declaredNames (function.addedStatements changed) = .ok injected ∧
        Apart injected [] := by
  intro function page
  have program : page.kind = .program := rfl
  obtain ⟨topScope, isScope, outermost⟩ :=
    routeProgram_declared_apart_iff program (rfl : routeProgram {} none page = .ok _)
  cases isScope
  obtain ⟨changed, after, injected, there, named, areInjected, apart⟩ :=
    outermost [.item .body 0] _ function rfl rfl [] [] rfl rfl .nil nofun
  cases there
  cases named
  exact ⟨program, _, rfl, _, injected, rfl, rfl, areInjected, apart.mpr ⟨nofun, nofun⟩⟩

namespace Node

/-- `function F(Foo) { return <Foo />; }` -/
def parameterUsed : Node :=
  .functionNamed "F" [.identifier "Foo"] [.returnStatement (.node (.emptyElement (.jsxName "Foo")))]

/-- `function MDXContent({a} = {}) { var a; return <b />; }` -/
def patternRepeated : Node :=
  .functionNamed entryPoint
    [.make .assignmentPattern
      [(.left, .node (.objectPattern [.property (.identifier "a") (.identifier "a") true])),
        (.right, .node (.objectLiteral []))]]
    [.make .variableDeclaration [(.declarations,
        .list [.node (.make .variableDeclarator [(.id, .node (.identifier "a"))])])],
      .returnStatement (.node (.emptyElement (.jsxName "b")))]

end Node

/-- A component can have the name of a parameter, and a pattern the name of a variable in the body. -/
theorem routeProgram_redeclares_own_names :
    (Apart [.text "Foo"] reservedNames ∧
      ∃ routed changed injected, routeProgram {} none (.programOf [.parameterUsed]) = .ok routed ∧
        routed.tree.at? [.item .body 1] = some changed ∧ changed.parameterNames = .ok [.text "Foo"] ∧
        declaredNames (Node.parameterUsed.addedStatements changed) = .ok injected ∧
        ¬ Apart injected [.text "Foo"]) ∧
      Apart [.text "a"] reservedNames ∧ Node.patternRepeated.bodyNames = .ok [.text "a"] ∧
      ∃ routed changed injected, routeProgram {} none (.programOf [.patternRepeated]) = .ok routed ∧
        routed.tree.at? [.item .body 0] = some changed ∧
        declaredNames (Node.patternRepeated.addedStatements changed) = .ok injected ∧
        ¬ Apart injected [.text "a"] := by
  have separateFoo : Apart [.text "Foo"] reservedNames := by
    unfold Apart
    decide
  have separateA : Apart [.text "a"] reservedNames := by
    unfold Apart
    decide
  refine ⟨⟨separateFoo, _, _, [.text componentsObject, .text "Foo"], rfl, rfl, rfl, rfl, fun apart => ?_⟩,
    separateA, rfl, _, _, [.text "a", .text componentsObject], rfl, rfl, rfl, fun apart => ?_⟩
  · exact absurd (apart (.text "Foo") (by decide) (.text "Foo") (by decide)) (by decide)
  · exact absurd (apart (.text "a") (by decide) (.text "a") (by decide)) (by decide)

end JsxRouting
