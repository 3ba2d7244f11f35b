import JsxRouting.Proofs.DeclaredFunctions
import JsxRouting.Scope.TopScope

namespace JsxRouting

namespace Node

theorem identifierOf_eq (value : Value) :
    identifierOf value = .mk .identifier [(.name, value)] (.object []) [] := rfl

theorem constDeclaration_eq (target init : Value) :
    constDeclaration target init = .mk .variableDeclaration
      [(.declarations, .list [.node (.mk .variableDeclarator [(.id, target), (.init, init)] (.object []) [])]),
        (.kind, .text "const")] (.object []) [] := rfl

theorem property_eq (key value : Node) (shorthand : Bool) :
    property key value shorthand = .mk .property
      [(.key, .node key), (.value, .node value), (.kind, .text "init"), (.method, .bool false),
        (.shorthand, .bool shorthand), (.computed, .bool false)] (.object []) [] := rfl

theorem objectPattern_eq (properties : List Node) :
    objectPattern properties = .mk .objectPattern [(.properties, .list (properties.map .node))] (.object []) [] :=
      rfl

theorem identifier_injective {name other : String} (same : identifier name = identifier other) : name = other := by
  simpa [identifier, identifierOf_eq] using same

theorem constDeclaration_injective {target other init otherInit : Value}
    (same : constDeclaration target init = constDeclaration other otherInit) :
    target = other ∧ init = otherInit := by
  simpa [constDeclaration_eq] using same

end Node

/-- A property that stands for a pattern binds what its value binds. -/
theorem namesAs_property (key value : Node) (shorthand : Bool) :
    (Value.node (.property key value shorthand)).namesAs .property = (Value.node value).boundNames := by
  rw [Node.property_eq, Value.namesAs]
  rfl

theorem namesOfItems_map {α : Type} {part : PatternPart} {item : α → Value} {name : α → Value}
    (binds : ∀ a, (item a).namesAs part = .ok [name a]) (list : List α) :
    namesOfItems part (list.map item) = .ok (list.map name) := by
  induction list with
  | nil => rfl
  | cons first rest ih =>
    rw [List.map_cons, namesOfItems, binds, ih]
    rfl

theorem namesOfItems_append {part : PatternPart} {items others : List Value} {names more : List Value}
    (first : namesOfItems part items = .ok names) (second : namesOfItems part others = .ok more) :
    namesOfItems part (items ++ others) = .ok (names ++ more) := by
  induction items generalizing names with
  | nil =>
    cases first
    exact second
  | cons item rest ih =>
    rw [namesOfItems] at first
    obtain ⟨here, isHere, first⟩ := bind_eq_ok_iff.mp first
    obtain ⟨behind, areBehind, first⟩ := bind_eq_ok_iff.mp first
    cases first
    rw [List.cons_append, namesOfItems, isHere, ih areBehind, List.append_assoc]
    rfl

/-- No name of one list is a name of the other. -/
def Apart (names others : List Scalar) : Prop := ∀ name ∈ names, ∀ other ∈ others, name.same other = false

theorem apart_append_left {names more others : List Scalar} :
    Apart (names ++ more) others ↔ Apart names others ∧ Apart more others := by
  simp only [Apart, List.mem_append, or_imp, forall_and]

theorem apart_append_right {names others more : List Scalar} :
    Apart names (others ++ more) ↔ Apart names others ∧ Apart names more := by
  simp only [Apart, List.mem_append, or_imp, forall_and]

theorem apart_cons_left {name : Scalar} {names others : List Scalar} :
    Apart (name :: names) others ↔ Apart [name] others ∧ Apart names others := by
  rw [← List.singleton_append, apart_append_left]

namespace Findings

/-- The pattern binds the components and then the objects. -/
theorem boundNames_bindingPattern (findings : Findings) :
    (Value.node findings.bindingPattern).boundNames =
      .ok ((findings.components ++ findings.objects).map Value.scalar) := by
  have component (name : Scalar) :
      (Value.node (Frame.componentBinding name)).namesAs .property = .ok [.scalar name] := by
    unfold Frame.componentBinding
    split <;> exact namesAs_property _ _ _
  have components :
    namesOfItems .property (findings.components.map fun name => .node (Frame.componentBinding name)) =
      .ok (findings.components.map Value.scalar) := namesOfItems_map component _
  have objects : namesOfItems .property (findings.objects.map fun name => .node (Frame.objectBinding name)) =
      .ok (findings.objects.map Value.scalar) := namesOfItems_map (fun name => namesAs_property _ _ _) _
  have both := namesOfItems_append components objects
  rw [← List.map_append] at both
  rw [← both, bindingPattern, Node.objectPattern_eq, Value.boundNames, Value.namesAs, namesInList, if_pos rfl,
    namesListed, List.map_append, List.map_map, List.map_map]
  rfl

/-- Two lists have no name in common if this holds of lists that have the same names. -/
theorem separate_of_any_same {names others list rest : List Scalar}
    (left : ∀ name, list.any (·.same name) = names.any (·.same name))
    (right : ∀ name, rest.any (·.same name) = others.any (·.same name))
    (apart : Apart list rest) : Apart names others := by
  intro a inNames b inOthers
  obtain ⟨a', inList, sameA⟩ : ∃ a' ∈ list, a'.same a = true :=
    List.any_eq_true.mp ((left a).trans (List.any_eq_true.mpr ⟨a, inNames, Scalar.same_self a⟩))
  obtain ⟨b', inRest, sameB⟩ : ∃ b' ∈ rest, b'.same b = true :=
    List.any_eq_true.mp ((right b).trans (List.any_eq_true.mpr ⟨b, inOthers, Scalar.same_self b⟩))
  refine Bool.eq_false_iff.mpr fun same => ?_
  have common : a'.same b' = true :=
    Scalar.same_trans sameA (Scalar.same_trans same ((Scalar.same_comm b b').trans sameB))
  rw [apart a' inList b' inRest] at common
  cases common

/-- The components and the objects of a function have a name in common exactly if a component and the
first part of a dotted name are called alike and are not known. -/
theorem pairwise_bindings_iff (known : NameSet) (elements : List Node) :
    ((ofElements known elements).components ++ (ofElements known elements).objects).Pairwise
        (fun a b => a.same b = false) ↔
      ∀ element ∈ elements, ∀ other ∈ elements, ∀ component root, element.component? = some component →
        other.chainRoot? = some root → component.same root = true → known.contains component = true := by
  have first := any_same_firstOccurrences ((elements.filterMap Node.component?).filter fun name =>
    !known.contains name)
  have second := any_same_firstOccurrences ((elements.filterMap Node.chainRoot?).filter fun name =>
    !known.contains name)
  rw [List.pairwise_append]
  constructor
  · rintro ⟨_, _, apart⟩ element inElements other isOther component root isComponent isRoot same
    have apart := separate_of_any_same first second apart
    refine Bool.of_not_eq_false fun unknown => ?_
    have unknownRoot : known.contains root = false := (NameSet.contains_congr known same).symm.trans unknown
    have differ := apart component
      (List.mem_filter.mpr ⟨List.mem_filterMap.mpr ⟨element, inElements, isComponent⟩, by simp [unknown]⟩) root
      (List.mem_filter.mpr ⟨List.mem_filterMap.mpr ⟨other, isOther, isRoot⟩, by simp [unknownRoot]⟩)
    rw [same] at differ
    cases differ
  · intro alike
    refine ⟨pairwise_firstOccurrences _, pairwise_firstOccurrences _,
      separate_of_any_same (fun name => (first name).symm) (fun name => (second name).symm) ?_⟩
    intro component isComponent root isRoot
    obtain ⟨isComponent, unknown⟩ := List.mem_filter.mp isComponent
    obtain ⟨isRoot, _⟩ := List.mem_filter.mp isRoot
    obtain ⟨element, inElements, isComponent⟩ := List.mem_filterMap.mp isComponent
    obtain ⟨other, isOther, isRoot⟩ := List.mem_filterMap.mp isRoot
    refine Bool.eq_false_iff.mpr fun same => ?_
    rw [alike element inElements other isOther component root isComponent isRoot same] at unknown
    cases unknown

theorem eq_bindingPattern_of_mem {findings : Findings} {function : Node} {isEntryPoint usesProvider : Bool}
    {prepared : Prepared} {pattern : Value} (ready : function.prepare isEntryPoint = .ok prepared)
    (added : .node (.constDeclaration pattern (.node (.identifier componentsObject))) ∈
      (prepared.prelude ++ findings.declarations usesProvider prepared.props).map Value.node) :
    pattern = .node findings.bindingPattern := by
  obtain ⟨statement, member, same⟩ := List.mem_map.mp added
  cases same
  obtain inPrelude | inDeclarations := List.mem_append.mp member
  · obtain ⟨props, read⟩ := Node.prepare_from ready
    obtain ⟨other, isPrelude⟩ := read.propsPrelude_of_mem inPrelude
    have sameInit := (Node.constDeclaration_injective isPrelude).2
    exact absurd (Node.identifier_injective (Value.node.inj sameInit)) (by decide)
  · unfold declarations at inDeclarations
    obtain same | inDeclarations := List.mem_cons.mp inDeclarations
    · have sameInit := (Node.constDeclaration_injective same).2
      cases congrArg Node.kind (Value.node.inj sameInit)
    · split at inDeclarations
      · cases inDeclarations
      · exact (Node.constDeclaration_injective (List.mem_singleton.mp inDeclarations)).1

end Findings

/-- In a routed program, what a function binds from its components object repeats no name, unless the
function holds an element of a component and one with a dotted name that begin alike. -/
theorem routeProgram_bindings_distinct_iff {options : Options} {known : Option NameSet} {tree : Node}
    {routed : Routed} (program : tree.kind = .program) (run : routeProgram options known tree = .ok routed) :
    ∃ topScope, tree.knownNames known = .ok topScope ∧
      ∀ position place function, tree.outermostAt? .plain position = some (place, function) →
        ∃ changed, routed.tree.at? (Position.behind (routed.frontCount tree) position) = some changed ∧
          ∀ pattern, Value.node (.constDeclaration pattern (.node (.identifier componentsObject))) ∈
              function.addedStatements changed →
            ∃ names : List Scalar, pattern.boundNames = .ok (names.map Value.scalar) ∧
              (names.Pairwise (fun a b => a.same b = false) ↔
                ∀ element ∈ function.jsxElements Node.isRouted .plain,
                  ∀ other ∈ function.jsxElements Node.isRouted .plain, ∀ component root,
                    element.component? = some component → other.chainRoot? = some root →
                      component.same root = true → topScope.contains component = true) := by
  obtain ⟨topScope, isScope, outermost⟩ := routeProgram_outermost program run
  refine ⟨topScope, isScope, fun position place function found => ?_⟩
  obtain ⟨changed, declared, there⟩ := outermost position place function found
  refine ⟨changed, there, fun pattern added => ?_⟩
  obtain ⟨nothing, rfl⟩ | ⟨_, inner, prepared, ran, ready, prepended⟩ := Pass.declare_cases declared
  · simp [Node.addedStatements] at added
  · have isFunction := Node.isFunction_of_outermostAt? found
    rw [Pass.addedStatements_prependToBody isFunction ran ready prepended] at added
    refine ⟨_, ?_, Findings.pairwise_bindings_iff topScope _⟩
    rw [Findings.eq_bindingPattern_of_mem ready added]
    exact Findings.boundNames_bindingPattern _

namespace Node

/-- `function Mixed() { <plain />; <root.part />; }` -/
def mixedNames (plain root : String) : Node :=
  .functionNamed "Mixed" []
    [.expressionStatement (.emptyElement (.jsxName plain)),
      .expressionStatement (.emptyElement (.jsxMember root "part"))]

end Node

/-- `X` and `Y` are bound once each for `<X />` and `<Y.part />`. -/
theorem routeProgram_bindings_distinct_apart :
    let page := Node.programOf [.mixedNames "X" "Y"]
    page.kind = .program ∧ ∃ routed, routeProgram {} none page = .ok routed ∧
      ∃ changed, routed.tree.at? (Position.behind (routed.frontCount page) [.item .body 0]) = some changed ∧
        ∀ pattern, Value.node (.constDeclaration pattern (.node (.identifier componentsObject))) ∈
            (Node.mixedNames "X" "Y").addedStatements changed →
          ∃ names : List Scalar, pattern.boundNames = .ok (names.map Value.scalar) ∧
            names.Pairwise fun a b => a.same b = false := by
  intro page
  have program : page.kind = .program := rfl
  obtain ⟨routed, run⟩ : ∃ routed, routeProgram {} none page = .ok routed := ⟨_, rfl⟩
  obtain ⟨topScope, _, outermost⟩ := routeProgram_bindings_distinct_iff program run
  obtain ⟨changed, there, patterns⟩ := outermost [.item .body 0] _ (Node.mixedNames "X" "Y") rfl
  refine ⟨program, routed, run, changed, there, fun pattern added => ?_⟩
  obtain ⟨names, bound, distinct⟩ := patterns pattern added
  refine ⟨names, bound, distinct.mpr ?_⟩
  intro element inElements other isOther component root isComponent isRoot same
  have components :
    component ∈ ((Node.mixedNames "X" "Y").jsxElements Node.isRouted .plain).filterMap Node.component? :=
    List.mem_filterMap.mpr ⟨element, inElements, isComponent⟩
  have roots : root ∈ ((Node.mixedNames "X" "Y").jsxElements Node.isRouted .plain).filterMap Node.chainRoot? :=
    List.mem_filterMap.mpr ⟨other, isOther, isRoot⟩
  obtain rfl : component = .text "X" := List.mem_singleton.mp components
  obtain rfl : root = .text "Y" := List.mem_singleton.mp roots
  exact absurd same (by decide)

/-- `X` is bound twice for `<X />` and `<X.part />`. -/
theorem routeProgram_binds_twice :
    ∃ routed changed pattern, routeProgram {} none (.programOf [.mixedNames "X" "X"]) = .ok routed ∧
      routed.tree.at? [.item .body 1] = some changed ∧
      .node (.constDeclaration pattern (.node (.identifier componentsObject))) ∈
        (Node.mixedNames "X" "X").addedStatements changed ∧
      pattern.boundNames = .ok [.text "X", .text "X"] :=
  ⟨_, _, .node ((Findings.mk [] [.text "X"] [.text "X"]).bindingPattern), rfl, rfl,
    List.mem_cons_of_mem _ List.mem_cons_self, rfl⟩

end JsxRouting
