import JsxRouting.Proofs.FunctionBodies
import JsxRouting.Proofs.OutermostFunctions

namespace JsxRouting

namespace Findings

/-- The object of the components: a fallback for every tag and for every component but the layout, then
what the provider and the props give, so that what comes later takes the place of what came before. -/
def componentsLiteral (findings : Findings) (usesProvider : Bool) (props : Option Node) : Node :=
  let tags := findings.tags.map Frame.tagFallback
  let components := (findings.components.filter (· != .text layoutComponent)).map Frame.componentFallback
  let provided := if usesProvider then [Node.call provideComponents []] else []
  let given := props.toList.map Node.componentsOf
  .objectLiteral ((tags ++ components).map .node ++
    (provided ++ given).map fun part => .node (.make .spreadElement [(.argument, .node part)]))

/-- The pattern that binds the components, the layout from a key of its own, and the objects. -/
def bindingPattern (findings : Findings) : Node :=
  .objectPattern (findings.components.map Frame.componentBinding ++ findings.objects.map Frame.objectBinding)

/-- The statements that declare what was found. -/
def declarations (findings : Findings) (usesProvider : Bool) (props : Option Node) : List Node :=
  let components := Value.node (.identifier componentsObject)
  .constDeclaration components (.node (findings.componentsLiteral usesProvider props)) ::
    if findings.components = [] ∧ findings.objects = [] then []
    else [.constDeclaration (.node findings.bindingPattern) components]

end Findings

theorem Node.get?_properties_objectLiteral (properties : List Value) :
    (Node.objectLiteral properties).get? .properties = some (.list properties) := rfl

/-- A frame declares what its names are found to be, and never fails to do so. -/
theorem Frame.declarations_eq (frame : Frame) (usesProvider : Bool) (props : Option Node) :
    frame.declarations usesProvider props = .ok (frame.findings.declarations usesProvider props) := by
  have merged : mergeObjects (frame.sources usesProvider props) =
      .ok (.node (frame.findings.componentsLiteral usesProvider props)) := by
    have fallbacks : frame.fallbacks = frame.findings.tags.map tagFallback ++
        (frame.findings.components.filter (· != .text layoutComponent)).map componentFallback := rfl
    unfold sources Findings.componentsLiteral
    rw [fallbacks]
    cases usesProvider <;> cases props <;>
      simp [mergeObjects, Node.get?_properties_objectLiteral, Value.elements, pure, Except.pure, bind, Except.bind]
  have nothing : frame.bindings.isEmpty = true ↔ frame.findings.components = [] ∧ frame.findings.objects = [] := by
    simp [bindings, findings]
  unfold declarations
  rw [merged]
  by_cases unbound : frame.findings.components = [] ∧ frame.findings.objects = []
  · simp only [Findings.declarations, if_pos unbound, if_pos (nothing.mpr unbound)]
    rfl
  · simp only [Findings.declarations, if_neg unbound, if_neg (mt nothing.mp unbound)]
    rfl

/-- A function that is ready to receive declarations: how it reads its props, if it does, and the
statements that this needs in front of the body. -/
structure Prepared where
  props : Option Node
  prelude : List Node
  function : Node

/-- An entry point is prepared by reading its props; other functions are ready as they are. -/
def Node.prepare (function : Node) (isEntryPoint : Bool) : Except Error Prepared :=
  if isEntryPoint then function.readProps.map fun reading => ⟨some reading.props, reading.prelude, reading.function⟩
  else .ok ⟨none, [], function⟩

theorem Node.prepare_from {function : Node} {isEntryPoint : Bool} {prepared : Prepared}
    (ready : function.prepare isEntryPoint = .ok prepared) :
    ∃ props, PropsReading.From function ⟨props, prepared.prelude, prepared.function⟩ := by
  cases isEntryPoint with
  | true =>
    obtain ⟨reading, read, rfl⟩ := map_eq_ok_iff.mp ready
    exact ⟨reading.props, Node.readProps_from read⟩
  | false =>
    cases ready
    exact ⟨function, .kept function⟩

theorem Node.injectDeclarations_eq (function : Node) (frame : Frame) (usesProvider : Bool) :
    function.injectDeclarations frame usesProvider =
      if frame.isEmpty then .ok none
      else do
        let prepared ← function.prepare frame.isEntryPoint
        return some (← prepared.function.prependToBody
          (prepared.prelude ++ frame.findings.declarations usesProvider prepared.props)) := by
  unfold injectDeclarations prepare
  cases frame.isEmpty with
  | true => rfl
  | false =>
    cases frame.isEntryPoint with
    | false => simp only [Frame.declarations_eq]; rfl
    | true =>
      simp only [Frame.declarations_eq]
      cases function.readProps <;> rfl

namespace Pass

theorem findings_frameOf (pass : Pass) (place : Place) (function : Node) :
    (pass.frameOf place function).findings = Findings.within pass.topScope function :=
  Frame.findings_foldl_observe pass.topScope (function.isEntryPoint place) _

/-- A function in which nothing is found stays as it is. Any other is routed, prepared, and receives the
declarations of what is found. -/
theorem declare_cases {pass : Pass} {place : Place} {function changed : Node}
    (declared : pass.declare place function = .ok changed) :
    ((Findings.within pass.topScope function).isEmpty = true ∧ changed = function) ∨
      ((Findings.within pass.topScope function).isEmpty = false ∧
        ∃ inner prepared, function.transform routing .plain = .ok inner ∧
          inner.prepare (function.isEntryPoint place) = .ok prepared ∧
          prepared.function.prependToBody (prepared.prelude ++
            (Findings.within pass.topScope function).declarations pass.options.usesProvider prepared.props) =
              .ok changed) := by
  obtain ⟨inner, ran, declared⟩ := bind_eq_ok_iff.mp declared
  obtain ⟨injected, isInjected, declared⟩ := bind_eq_ok_iff.mp declared
  rw [Node.injectDeclarations_eq, ← Frame.isEmpty_findings, findings_frameOf] at isInjected
  cases declared
  cases nothing : (Findings.within pass.topScope function).isEmpty with
  | true =>
    rw [nothing] at isInjected
    cases isInjected
    refine .inl ⟨rfl, Node.routing_eq_self function .plain ran fun element member => ?_⟩
    exact Findings.tag?_of_isEmpty nothing member
  | false =>
    rw [nothing] at isInjected
    obtain ⟨prepared, ready, isInjected⟩ := bind_eq_ok_iff.mp isInjected
    obtain ⟨after, prepended, isInjected⟩ := bind_eq_ok_iff.mp isInjected
    cases isInjected
    refine .inr ⟨rfl, inner, prepared, ran, ?_, prepended⟩
    rwa [frameOf, Frame.isEntryPoint_foldl_observe] at ready

theorem bodyStatements_prepared {inner : Node} {isEntryPoint : Bool} {prepared : Prepared}
    (ready : inner.prepare isEntryPoint = .ok prepared) :
    prepared.function.bodyStatements = inner.bodyStatements := by
  obtain ⟨props, read⟩ := Node.prepare_from ready
  exact Node.bodyStatements_reading read

/-- What is put in front of the body of a function is all by which the body is longer than before. -/
theorem addedStatements_prependToBody {function inner changed : Node} {isEntryPoint : Bool} {prepared : Prepared}
    {front : List Node} (isFunction : function.isFunction = true)
    (ran : function.transform routing .plain = .ok inner)
    (ready : inner.prepare isEntryPoint = .ok prepared)
    (prepended : prepared.function.prependToBody front = .ok changed) :
    function.addedStatements changed = front.map .node := by
  obtain ⟨statements, isBody, changedBody⟩ := Node.bodyStatements_prependToBody prepended
  have sameLength := Node.length_bodyStatements_routing (.inr ⟨.plain, ran⟩) isFunction
  rw [← bodyStatements_prepared ready, isBody] at sameLength
  obtain ⟨old, isOld, sameLength⟩ := Option.map_eq_some_iff.mp sameLength.symm
  simp [Node.addedStatements, changedBody, isOld, sameLength]

end Pass

/-- Every outermost function of a routed program is as it was if nothing is found in it. In any other, its
elements are routed, and its body begins with what reading its props needs and then with the declarations
of exactly what is found in it. -/
theorem routeProgram_declares {options : Options} {known : Option NameSet} {tree : Node} {routed : Routed}
    (program : tree.kind = .program) (run : routeProgram options known tree = .ok routed) :
    ∃ topScope, tree.knownNames known = .ok topScope ∧
      ∀ position place function, tree.outermostAt? .plain position = some (place, function) →
        ∃ changed, routed.tree.at? (Position.behind (routed.frontCount tree) position) = some changed ∧
          ((Findings.within topScope function).isEmpty = true → changed = function) ∧
          ((Findings.within topScope function).isEmpty = false →
            ∃ inner prepared statements, function.transform routing .plain = .ok inner ∧
              inner.prepare (function.isEntryPoint place) = .ok prepared ∧ prepared.prelude.length ≤ 1 ∧
              inner.bodyStatements = some statements ∧
              changed.bodyStatements = some ((prepared.prelude ++
                (Findings.within topScope function).declarations options.usesProvider prepared.props).map .node ++
                  statements)) := by
  obtain ⟨topScope, isScope, outermost⟩ := routeProgram_outermost program run
  refine ⟨topScope, isScope, fun position place function found => ?_⟩
  obtain ⟨changed, declared, there⟩ := outermost position place function found
  refine ⟨changed, there, ?_⟩
  obtain ⟨nothing, rfl⟩ | ⟨something, inner, prepared, ran, ready, prepended⟩ := Pass.declare_cases declared
  · exact ⟨fun _ => rfl, fun something => absurd (nothing.symm.trans something) (by decide)⟩
  · refine ⟨fun nothing => absurd (nothing.symm.trans something) (by decide), fun _ => ?_⟩
    obtain ⟨props, read⟩ := Node.prepare_from ready
    obtain ⟨statements, isBody, changedBody⟩ := Node.bodyStatements_prependToBody prepended
    rw [Pass.bodyStatements_prepared ready] at isBody
    exact ⟨inner, prepared, statements, ran, ready, read.length_prelude, isBody, changedBody⟩

namespace Node

/-- `<name />` -/
def emptyElement (name : Node) : Node :=
  .make .jsxElement [(.openingElement, .node (.make .jsxOpeningElement
    [(.name, .node name), (.selfClosing, .bool true)]))]

/-- `<opening></closing>` -/
def closedElement (opening closing : Node) : Node :=
  .make .jsxElement [(.openingElement, .node (.make .jsxOpeningElement [(.name, .node opening)])),
    (.closingElement, .node (.make .jsxClosingElement [(.name, .node closing)]))]

def jsxName (name : String) : Node := .make .jsxIdentifier [(.name, .text name)]

/-- `object.property` as the name of an element. -/
def jsxMember (object property : String) : Node :=
  .make .jsxMemberExpression [(.object, .node (jsxName object)), (.property, .node (jsxName property))]

def expressionStatement (expression : Node) : Node :=
  .make .expressionStatement [(.expression, .node expression)]

/-- `function name(parameters) { statements }` -/
def functionNamed (name : String) (parameters statements : List Node) : Node :=
  .make .functionDeclaration [(.id, .node (.identifier name)), (.params, .list (parameters.map .node)),
    (.body, .node (.block (statements.map .node)))]

def programOf (statements : List Node) : Node := .make .program [(.body, .list (statements.map .node))]

end Node

/-- `function MDXContent(props) { return <b /> }` begins with `const _components = {b: "b",
...props.components}` when it is routed. -/
theorem routeProgram_declares_bold :
    let bold := Node.returnStatement (.node (.emptyElement (.jsxName "b")))
    let page := Node.programOf [.functionNamed entryPoint [.identifier "props"] [bold]]
    page.kind = .program ∧ ∃ routed, routeProgram {} none page = .ok routed ∧
      ∃ changed, routed.tree.at? (Position.behind (routed.frontCount page) [.item .body 0]) = some changed ∧
        changed.bodyStatements = some [.node (.constDeclaration (.node (.identifier componentsObject))
            (.node ((Findings.mk [.text "b"] [] []).componentsLiteral false (some (.identifier "props"))))),
          .node (.returnStatement (.node (.emptyElement (routedName (.node (.jsxName "b"))))))] := by
  intro bold page
  have program : page.kind = .program := rfl
  obtain ⟨routed, run⟩ : ∃ routed, routeProgram {} none page = .ok routed := ⟨_, rfl⟩
  refine ⟨program, routed, run, ?_⟩
  obtain ⟨topScope, isScope, outermost⟩ := routeProgram_declares program run
  cases isScope
  obtain ⟨changed, there, _, declared⟩ := outermost [.item .body 0] _ _ rfl
  obtain ⟨inner, prepared, statements, ran, ready, _, isBody, changedBody⟩ := declared rfl
  cases ran
  cases ready
  cases isBody
  exact ⟨changed, there, changedBody⟩

end JsxRouting
