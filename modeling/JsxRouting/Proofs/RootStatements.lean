import JsxRouting.Proofs.InjectedParts
import JsxRouting.Proofs.LocalNames
import JsxRouting.Proofs.TreeEdits

namespace JsxRouting

namespace Value

/-- The value is a call of the function with this name. -/
def Calls (value : Value) (callee : String) : Prop :=
  ∃ call target, value = .node call ∧ call.kind = .callExpression ∧ call.get? .callee = some (.node target) ∧
    target.kind = .identifier ∧ target.get? .name = some (.text callee)

theorem calls_call (callee : String) (arguments : List Node) : (Value.node (.call callee arguments)).Calls callee :=
  ⟨_, _, rfl, rfl, rfl, rfl, rfl⟩

end Value

/-- An object literal has a part of this kind with a call of this function in this field: a property with the call
for its value, or a spread of what the call gives. -/
def Node.HoldsCall (literal : Node) (kind : Kind) (field : Field) (callee : String) : Prop :=
  ∃ parts part value, literal.get? .properties = some (.list parts) ∧ .node part ∈ parts ∧ part.kind = kind ∧
    part.get? field = some value ∧ value.Calls callee

theorem Node.holdsCall_objectLiteral {parts : List Node} {kind : Kind} {field : Field} {callee : String} :
    (objectLiteral (parts.map .node)).HoldsCall kind field callee ↔
      ∃ part ∈ parts, part.kind = kind ∧ ∃ value, part.get? field = some value ∧ value.Calls callee := by
  constructor
  · rintro ⟨_, part, value, areParts, member, isKind, isValue, calls⟩
    cases areParts
    obtain ⟨_, inParts, same⟩ := List.mem_map.mp member
    cases same
    exact ⟨part, inParts, isKind, value, isValue, calls⟩
  · rintro ⟨part, inParts, isKind, value, isValue, calls⟩
    exact ⟨_, part, value, rfl, List.mem_map_of_mem inParts, isKind, isValue, calls⟩

/-- What is put in front of a program declares the names that the components objects call. -/
theorem declaredNames_missingComponentFunction :
    declaredNames [.node missingComponentFunction] = .ok [.text missingComponentHelper] := rfl

theorem declaredNames_providerBinding {source : Option String} {format : OutputFormat} {binding : Node}
    (bound : providerBinding source format = .ok binding) :
    declaredNames [.node binding] = .ok [.text provideComponents] := by
  cases format with
  | functionBody =>
    cases bound
    rfl
  | program =>
    cases source with
    | none => cases bound
    | some source =>
      cases bound
      rfl

namespace Findings

variable (findings : Findings) (usesProvider : Bool) (props : Option Node)

/-- A components object calls the helper exactly if there is a component but the layout. -/
theorem holdsCall_helper_iff :
    (findings.componentsLiteral usesProvider props).HoldsCall .property .value missingComponentHelper ↔
      findings.components.any (· != .text layoutComponent) = true := by
  rw [componentsLiteral_eq, Node.holdsCall_objectLiteral]
  constructor
  · rintro ⟨part, member, isProperty, value, isValue, calls⟩
    obtain ⟨tag, _, rfl⟩ | ⟨component, isComponent, noLayout, rfl⟩ | ⟨source, _, rfl⟩ :=
      (mem_parts_componentsLiteral _ _ _).mp member
    · cases isValue
      obtain ⟨_, _, same, isCall, _⟩ := calls
      cases same
      cases isCall
    · exact List.any_eq_true.mpr ⟨component, isComponent, by simpa using noLayout⟩
    · cases isProperty
  · intro found
    obtain ⟨component, isComponent, noLayout⟩ := List.any_eq_true.mp found
    have member := (mem_parts_componentsLiteral findings usesProvider props).mpr
      (.inr (.inl ⟨component, isComponent, by simpa using noLayout, rfl⟩))
    exact ⟨_, member, rfl, _, rfl, Value.calls_call _ _⟩

/-- A components object spreads what the provider gives exactly if there is a provider. -/
theorem holdsCall_provider_iff :
    (findings.componentsLiteral usesProvider props).HoldsCall .spreadElement .argument provideComponents ↔
      usesProvider = true := by
  rw [componentsLiteral_eq, Node.holdsCall_objectLiteral]
  constructor
  · rintro ⟨part, member, isSpread, value, isValue, calls⟩
    obtain ⟨tag, _, rfl⟩ | ⟨component, _, _, rfl⟩ | ⟨source, taken, rfl⟩ :=
      (mem_parts_componentsLiteral _ _ _).mp member
    · cases isSpread
    · cases isSpread
    · cases isValue
      obtain ⟨uses, _⟩ | ⟨expression, _, rfl⟩ := (mem_takenIn _ _).mp taken
      · exact uses
      · obtain ⟨_, _, same, isCall, _⟩ := calls
        cases same
        cases isCall
  · intro uses
    have member := (mem_parts_componentsLiteral findings usesProvider props).mpr
      (.inr (.inr ⟨_, (mem_takenIn _ _).mpr (.inl ⟨uses, rfl⟩), rfl⟩))
    exact ⟨_, member, rfl, _, rfl, Value.calls_call _ _⟩

end Findings

/-- The pass has put a components object into the function at a position. -/
def Routed.Initialises (routed : Routed) (tree : Node) (position : Position) (literal : Node) : Prop :=
  ∃ place function changed, tree.outermostAt? .plain position = some (place, function) ∧
    routed.tree.at? (Position.behind (routed.frontCount tree) position) = some changed ∧
    literal.kind = .objectExpression ∧
    .node (.constDeclaration (.node (.identifier componentsObject)) (.node literal)) ∈
      function.addedStatements changed

/-- The pass has put a pattern that takes the components object apart into the function at a position. -/
def Routed.Destructures (routed : Routed) (tree : Node) (position : Position) (pattern : Node) : Prop :=
  ∃ place function changed, tree.outermostAt? .plain position = some (place, function) ∧
    routed.tree.at? (Position.behind (routed.frontCount tree) position) = some changed ∧
    .node (.constDeclaration (.node pattern) (.node (.identifier componentsObject))) ∈
      function.addedStatements changed

/-- The pass has put statements into the function at a position. -/
def Routed.Receives (routed : Routed) (tree : Node) (position : Position) : Prop :=
  ∃ place function changed, tree.outermostAt? .plain position = some (place, function) ∧
    routed.tree.at? (Position.behind (routed.frontCount tree) position) = some changed ∧
    function.addedStatements changed ≠ []

namespace Pass

/-- The statements that a function is given are those that its findings need. -/
theorem addedStatements_declare {pass : Pass} {place : Place} {function changed : Node}
    (declared : pass.declare place function = .ok changed) (isFunction : function.isFunction = true) :
    ((Findings.within pass.topScope function).isEmpty = true ∧ function.addedStatements changed = []) ∨
      ((Findings.within pass.topScope function).isEmpty = false ∧
        ∃ (inner : Node) (prepared : Prepared), inner.prepare (function.isEntryPoint place) = .ok prepared ∧
        function.addedStatements changed = (prepared.prelude ++
          (Findings.within pass.topScope function).declarations pass.options.usesProvider
            prepared.props).map .node) := by
  obtain ⟨nothing, rfl⟩ | ⟨something, inner, prepared, ran, ready, prepended⟩ := declare_cases declared
  · exact .inl ⟨nothing, by simp [Node.addedStatements]⟩
  · exact .inr ⟨something, inner, prepared, ready, addedStatements_prependToBody isFunction ran ready prepended⟩

/-- The components object of a function is the one of its findings. -/
theorem eq_componentsLiteral_of_mem {findings : Findings} {inner literal : Node} {isEntryPoint usesProvider : Bool}
    {prepared : Prepared} (ready : inner.prepare isEntryPoint = .ok prepared)
    (isObject : literal.kind = .objectExpression)
    (added : .node (.constDeclaration (.node (.identifier componentsObject)) (.node literal)) ∈
      (prepared.prelude ++ findings.declarations usesProvider prepared.props).map Value.node) :
    literal = findings.componentsLiteral usesProvider prepared.props := by
  obtain ⟨statement, member, same⟩ := List.mem_map.mp added
  cases same
  obtain inPrelude | inDeclarations := List.mem_append.mp member
  · obtain ⟨props, read⟩ := Node.prepare_from ready
    obtain ⟨pattern, isPrelude⟩ := read.propsPrelude_of_mem inPrelude
    have sameInit := (Node.constDeclaration_injective isPrelude).2
    rw [Value.node.inj sameInit] at isObject
    cases isObject
  · unfold Findings.declarations at inDeclarations
    obtain same | inDeclarations := List.mem_cons.mp inDeclarations
    · exact Value.node.inj (Node.constDeclaration_injective same).2
    · split at inDeclarations
      · cases inDeclarations
      · have sameInit := (Node.constDeclaration_injective (List.mem_singleton.mp inDeclarations)).2
        rw [Value.node.inj sameInit] at isObject
        cases isObject

end Pass

namespace Node

/-- The statements of a program. -/
def statements (program : Node) : List Value :=
  match program.get? .body with
  | some (.list items) => items
  | _ => []

/-- Statements are put in front of a program at once. -/
theorem prependStatements_eq {program after : Node} {front : List Node}
    (prepended : List.foldlM prependStatement program front = .ok after) :
    front = [] ∧ after = program ∨ front ≠ [] ∧ ∃ items, program.get? .body = some (.list items) ∧
      after = program.set .body (.list (front.reverse.map .node ++ items)) := by
  induction front generalizing program with
  | nil =>
    cases prepended
    exact .inl ⟨rfl, rfl⟩
  | cons statement rest ih =>
    obtain ⟨middle, first, others⟩ := bind_eq_ok_iff.mp prepended
    unfold prependStatement at first
    split at first
    · rename_i items isBody
      cases first
      refine .inr ⟨List.cons_ne_nil _ _, items, isBody, ?_⟩
      obtain ⟨rfl, rfl⟩ | ⟨_, items, isItems, rfl⟩ := ih others
      · rfl
      · rw [get?_set_self] at isItems
        cases isItems
        rw [set_set]
        simp
    · cases first

theorem statements_prependStatements {program after : Node} {front : List Node}
    (prepended : List.foldlM prependStatement program front = .ok after) :
    after.statements = front.reverse.map .node ++ program.statements := by
  obtain ⟨rfl, rfl⟩ | ⟨_, items, isBody, rfl⟩ := prependStatements_eq prepended
  · rfl
  · simp only [statements, get?_set_self, isBody]

/-- The statements of a program are changed one by one. -/
theorem statements_mapOutermost {change : Place → Node → Except Error Node} {tree walked : Node}
    (program : tree.kind = .program) (regular : tree.isRegular = true)
    (mapped : tree.mapOutermost change .plain = .ok walked) :
    mapOutermostInItems change tree.statements = .ok walked.statements := by
  obtain ⟨body, isBody⟩ := exists_lookup (check_of_all regular) .body (by rw [program]; decide)
  obtain ⟨other, isOther, mappedBody⟩ := lookup_body_mapOutermost program isBody mapped
  unfold statements
  rw [get?_of_lookup isBody, get?_of_lookup isOther]
  cases body with
  | list items =>
    obtain ⟨after, mappedItems, isAfter⟩ := bind_eq_ok_iff.mp mappedBody
    cases isAfter
    exact mappedItems
  | node child =>
    obtain ⟨after, _, isAfter⟩ := bind_eq_ok_iff.mp mappedBody
    cases isAfter
    rfl
  | scalar | object =>
    cases mappedBody
    rfl

end Node

section Injected

variable {options : Options} {topScope : NameSet} {tree : Node} {routed : Routed}
  (outermost : ∀ position place function, tree.outermostAt? .plain position = some (place, function) →
    ∃ changed, Pass.declare ⟨options, topScope⟩ place function = .ok changed ∧
      routed.tree.at? (Position.behind (routed.frontCount tree) position) = some changed)

include outermost

/-- A function receives statements exactly if something is found in it. -/
theorem receives_iff {position : Position} :
    routed.Receives tree position ↔ ∃ place function, tree.outermostAt? .plain position = some (place, function) ∧
      (Findings.within topScope function).isEmpty = false := by
  constructor
  · rintro ⟨place, function, changed, found, there, added⟩
    obtain ⟨other, declared, isChanged⟩ := outermost position place function found
    cases there.symm.trans isChanged
    obtain ⟨_, none⟩ | ⟨something, _⟩ :=
      Pass.addedStatements_declare declared (Node.isFunction_of_outermostAt? found)
    · exact absurd none added
    · exact ⟨place, function, found, something⟩
  · rintro ⟨place, function, found, something⟩
    obtain ⟨changed, declared, there⟩ := outermost position place function found
    refine ⟨place, function, changed, found, there, ?_⟩
    obtain ⟨nothing, _⟩ | ⟨_, _, prepared, _, added⟩ :=
      Pass.addedStatements_declare declared (Node.isFunction_of_outermostAt? found)
    · cases nothing.symm.trans something
    · rw [added]
      simp [Findings.declarations]

/-- A function in which something is found has one components object, whose props are those that it reads. -/
theorem exists_initialises_iff {position : Position} {place : Place} {function : Node}
    (found : tree.outermostAt? .plain position = some (place, function))
    (something : (Findings.within topScope function).isEmpty = false) :
    ∃ (inner : Node) (prepared : Prepared), function.transform routing .plain = .ok inner ∧
      inner.prepare (function.isEntryPoint place) = .ok prepared ∧
        ∀ literal, routed.Initialises tree position literal ↔
        literal = (Findings.within topScope function).componentsLiteral options.usesProvider prepared.props := by
  obtain ⟨changed, declared, there⟩ := outermost position place function found
  obtain ⟨nothing, _⟩ | ⟨_, inner, prepared, ran, ready, prepended⟩ := Pass.declare_cases declared
  · cases nothing.symm.trans something
  · have added := Pass.addedStatements_prependToBody (Node.isFunction_of_outermostAt? found) ran ready prepended
    refine ⟨inner, prepared, ran, ready, fun literal => ⟨?_, ?_⟩⟩
    · rintro ⟨_, _, other, foundOther, thereOther, isObject, member⟩
      cases found.symm.trans foundOther
      cases there.symm.trans thereOther
      rw [added] at member
      exact Pass.eq_componentsLiteral_of_mem ready isObject member
    · rintro rfl
      refine ⟨place, function, changed, found, there, rfl, ?_⟩
      rw [added]
      exact List.mem_map_of_mem (List.mem_append_right _ List.mem_cons_self)

/-- A function in which something is found has the components object of what is found. -/
theorem exists_initialises {position : Position} {place : Place} {function : Node}
    (found : tree.outermostAt? .plain position = some (place, function))
    (something : (Findings.within topScope function).isEmpty = false) :
    ∃ props, routed.Initialises tree position
      ((Findings.within topScope function).componentsLiteral options.usesProvider props) := by
  obtain ⟨_, prepared, _, _, initialises⟩ := exists_initialises_iff outermost found something
  exact ⟨prepared.props, (initialises _).mpr rfl⟩

/-- Every components object is that of what is found in its function. -/
theorem eq_componentsLiteral_of_initialises {position : Position} {literal : Node}
    (initialises : routed.Initialises tree position literal) :
    ∃ place function props, tree.outermostAt? .plain position = some (place, function) ∧
      literal = (Findings.within topScope function).componentsLiteral options.usesProvider props := by
  obtain ⟨place, function, changed, found, there, isObject, added⟩ := initialises
  obtain ⟨other, declared, isChanged⟩ := outermost position place function found
  cases there.symm.trans isChanged
  obtain ⟨_, none⟩ | ⟨_, inner, prepared, ready, isAdded⟩ :=
    Pass.addedStatements_declare declared (Node.isFunction_of_outermostAt? found)
  · rw [none] at added
    cases added
  · rw [isAdded] at added
    exact ⟨place, function, prepared.props, found, Pass.eq_componentsLiteral_of_mem ready isObject added⟩

/-- Every pattern is that of what is found in its function. -/
theorem eq_bindingPattern_of_destructures {position : Position} {place : Place} {function pattern : Node}
    (found : tree.outermostAt? .plain position = some (place, function))
    (destructures : routed.Destructures tree position pattern) :
    pattern = (Findings.within topScope function).bindingPattern := by
  obtain ⟨otherPlace, other, changed, foundOther, there, added⟩ := destructures
  cases found.symm.trans foundOther
  obtain ⟨_, declared, isChanged⟩ := outermost position place function found
  cases there.symm.trans isChanged
  obtain ⟨_, none⟩ | ⟨_, inner, prepared, ready, isAdded⟩ :=
    Pass.addedStatements_declare declared (Node.isFunction_of_outermostAt? found)
  · rw [none] at added
    cases added
  · rw [isAdded] at added
    exact Value.node.inj (Findings.eq_bindingPattern_of_mem ready added)

/-- A function in which a component or an object is found has the pattern of what is found. -/
theorem destructures_bindingPattern {position : Position} {place : Place} {function : Node}
    (found : tree.outermostAt? .plain position = some (place, function))
    (something : ¬ ((Findings.within topScope function).components = [] ∧
      (Findings.within topScope function).objects = [])) :
    routed.Destructures tree position (Findings.within topScope function).bindingPattern := by
  obtain ⟨changed, declared, there⟩ := outermost position place function found
  obtain ⟨nothing, _⟩ | ⟨_, _, prepared, _, added⟩ :=
    Pass.addedStatements_declare declared (Node.isFunction_of_outermostAt? found)
  · simp only [Findings.isEmpty, Bool.and_eq_true, List.isEmpty_iff] at nothing
    exact absurd ⟨nothing.1.2, nothing.2⟩ something
  · refine ⟨place, function, changed, found, there, ?_⟩
    rw [added]
    refine List.mem_map_of_mem (List.mem_append_right _ (List.mem_cons_of_mem _ ?_))
    rw [if_neg something]
    exact List.mem_singleton_self _

/-- A components object calls the helper exactly if one of the outermost functions needs it. -/
theorem any_needsHelperFor_iff (regular : tree.isRegular = true) :
    ((tree.functions .plain).any fun entry => Pass.needsHelperFor ⟨options, topScope⟩ entry.2) = true ↔
      ∃ position literal, routed.Initialises tree position literal ∧
        literal.HoldsCall .property .value missingComponentHelper := by
  rw [List.any_eq_true]
  constructor
  · rintro ⟨⟨place, function⟩, member, needs⟩
    obtain ⟨position, found⟩ := (Node.mem_functions_iff regular).mp member
    have something : (Findings.within topScope function).isEmpty = false := by
      obtain ⟨component, isComponent, _⟩ := List.any_eq_true.mp needs
      have nonempty : (Findings.within topScope function).components ≠ [] := List.ne_nil_of_mem isComponent
      simp [Findings.isEmpty, nonempty]
    obtain ⟨props, initialises⟩ := exists_initialises outermost found something
    exact ⟨position, _, initialises, (Findings.holdsCall_helper_iff _ _ props).mpr needs⟩
  · rintro ⟨position, literal, initialises, holds⟩
    obtain ⟨place, function, props, found, rfl⟩ := eq_componentsLiteral_of_initialises outermost initialises
    exact ⟨(place, function), (Node.mem_functions_iff regular).mpr ⟨position, found⟩,
      (Findings.holdsCall_helper_iff _ _ props).mp holds⟩

/-- Declarations use the provider exactly if there is one and a function receives declarations. -/
theorem any_needsProviderFor_iff (regular : tree.isRegular = true) :
    ((tree.functions .plain).any fun entry => Pass.needsProviderFor ⟨options, topScope⟩ entry.2) = true ↔
      options.usesProvider = true ∧ ∃ position, routed.Receives tree position := by
  rw [List.any_eq_true]
  constructor
  · rintro ⟨⟨place, function⟩, member, needs⟩
    obtain ⟨position, found⟩ := (Node.mem_functions_iff regular).mp member
    obtain ⟨uses, something⟩ := Bool.and_eq_true_iff.mp needs
    exact ⟨uses, position, (receives_iff outermost).mpr ⟨place, function, found, by simpa using something⟩⟩
  · rintro ⟨uses, position, receives⟩
    obtain ⟨place, function, found, something⟩ := (receives_iff outermost).mp receives
    refine ⟨(place, function), (Node.mem_functions_iff regular).mpr ⟨position, found⟩, ?_⟩
    exact Bool.and_eq_true_iff.mpr ⟨uses, by simpa using something⟩

end Injected

/-- In front of a routed program stands the provider, exactly if it is configured and declarations were given to a
function, and then the helper, exactly if a components object calls it. Behind them are the statements of the
program, each with its functions changed. The helper is a function of the name that is called, the provider is bound
under the name that is called, and what it gives is spread into every components object. -/
theorem routeProgram_front {options : Options} {known : Option NameSet} {tree : Node} {routed : Routed}
    (program : tree.kind = .program) (regular : tree.isRegular = true)
    (run : routeProgram options known tree = .ok routed) :
    ∃ topScope provider helper rest, tree.knownNames known = .ok topScope ∧
      routed.tree.statements = (provider ++ helper).map .node ++ rest ∧
      mapOutermostInItems (Pass.declare ⟨options, topScope⟩) tree.statements = .ok rest ∧
      (helper = [missingComponentFunction] ∨ helper = []) ∧
      (helper = [missingComponentFunction] ↔ ∃ position literal, routed.Initialises tree position literal ∧
        literal.HoldsCall .property .value "_missingComponent") ∧
      (∀ function ∈ helper, function.kind = .functionDeclaration ∧
        declaredNames [.node function] = .ok [.text "_missingComponent"]) ∧
      ((∃ binding, providerBinding options.source options.format = .ok binding ∧ provider = [binding]) ∨
        provider = []) ∧
      (provider ≠ [] ↔ options.usesProvider = true ∧ ∃ position, routed.Receives tree position) ∧
      (∀ binding ∈ provider, declaredNames [.node binding] = .ok [.text "_provideComponents"]) ∧
      (∀ position, routed.Receives tree position → ∃ literal, routed.Initialises tree position literal) ∧
      ∀ position literal, routed.Initialises tree position literal →
        (literal.HoldsCall .spreadElement .argument "_provideComponents" ↔ options.usesProvider = true) := by
  obtain ⟨topScope, isScope, outermost⟩ := routeProgram_outermost program run
  rw [routeProgram_eq, isScope] at run
  obtain ⟨walked, helper, provider, mapped, prepended, isHelper, isProvider⟩ := Pass.run_eq_ok run
  have needsHelper : _ ↔ ∃ position literal, routed.Initialises tree position literal ∧
      literal.HoldsCall .property .value "_missingComponent" := any_needsHelperFor_iff outermost regular
  have needsProvider := any_needsProviderFor_iff outermost regular
  rw [← needsHelper, ← needsProvider]
  generalize (tree.functions .plain).any (fun entry => Pass.needsHelperFor ⟨options, topScope⟩ entry.2) =
    helps at isHelper
  generalize (tree.functions .plain).any (fun entry => Pass.needsProviderFor ⟨options, topScope⟩ entry.2) = provides
    at isProvider
  obtain ⟨helperCases, providerCases, inOrder⟩ := Pass.front_cases isHelper isProvider
  refine ⟨topScope, provider, helper, walked.statements, isScope, ?_,
    Node.statements_mapOutermost program regular mapped, helperCases.imp And.left And.left, ?_,
      fun function member => ?_,
    providerCases.imp And.left And.left, ?_, fun binding member => ?_, fun position receives => ?_,
    fun position literal initialises => ?_⟩
  · rw [Node.statements_prependStatements prepended, inOrder]
  · obtain ⟨rfl, rfl⟩ | ⟨rfl, rfl⟩ := helperCases <;> simp
  · obtain ⟨rfl, _⟩ | ⟨rfl, _⟩ := helperCases
    · obtain rfl := List.mem_singleton.mp member
      exact ⟨rfl, declaredNames_missingComponentFunction⟩
    · cases member
  · obtain ⟨⟨_, _, rfl⟩, rfl⟩ | ⟨rfl, rfl⟩ := providerCases <;> simp
  · obtain ⟨⟨_, bound, rfl⟩, _⟩ | ⟨rfl, _⟩ := providerCases
    · obtain rfl := List.mem_singleton.mp member
      exact declaredNames_providerBinding bound
    · cases member
  · obtain ⟨place, function, found, something⟩ := (receives_iff outermost).mp receives
    obtain ⟨props, initialises⟩ := exists_initialises outermost found something
    exact ⟨_, initialises⟩
  · obtain ⟨place, function, props, _, rfl⟩ := eq_componentsLiteral_of_initialises outermost initialises
    exact Findings.holdsCall_provider_iff _ _ props

/-- In front of `function F() { return <Foo />; }` stand the import of the provider and the helper, under the names
that the components object of the function calls. -/
theorem routeProgram_front_import :
    let options : Options := { source := some "theme" }
    let page := Node.programOf [.functionNamed "F" [] [.returnStatement (.node (.emptyElement (.jsxName "Foo")))]]
    page.kind = .program ∧ page.isRegular = true ∧ ∃ routed, routeProgram options none page = .ok routed ∧
      ∃ binding helper rest, providerBinding options.source options.format = .ok binding ∧
        routed.tree.statements = .node binding :: .node helper :: rest ∧
        declaredNames [.node binding] = .ok [.text "_provideComponents"] ∧ helper.kind = .functionDeclaration ∧
        declaredNames [.node helper] = .ok [.text "_missingComponent"] ∧
        ∃ literal, routed.Initialises page [.item .body 0] literal ∧
          literal.HoldsCall .property .value "_missingComponent" ∧
          literal.HoldsCall .spreadElement .argument "_provideComponents" := by
  intro options page
  have program : page.kind = .program := rfl
  have regular : page.isRegular = true := rfl
  obtain ⟨routed, run⟩ : ∃ routed, routeProgram options none page = .ok routed := ⟨_, rfl⟩
  refine ⟨program, regular, routed, run, ?_⟩
  obtain ⟨topScope, provider, helper, rest, _, statements, _, _, helperIff, helperIs, providers, providerIff,
    providerIs, _, spreads⟩ := routeProgram_front program regular run
  let findings : Findings := ⟨[], [.text "Foo"], []⟩
  have initialises : routed.Initialises page [.item .body 0] (findings.componentsLiteral true none) := by
    cases run
    exact ⟨.plain, _, _, rfl, rfl, rfl, List.mem_cons_self⟩
  have receives : routed.Receives page [.item .body 0] := by
    cases run
    exact ⟨.plain, _, _, rfl, rfl, List.cons_ne_nil _ _⟩
  have calls := (findings.holdsCall_helper_iff true none).mpr rfl
  obtain rfl := helperIff.mpr ⟨_, _, initialises, calls⟩
  obtain ⟨isFunction, declares⟩ := helperIs _ (List.mem_singleton_self _)
  obtain ⟨binding, bound, rfl⟩ | none := providers
  · exact ⟨binding, _, rest, bound, statements, providerIs binding (List.mem_singleton_self _),
      isFunction, declares, _, initialises, calls, (spreads _ _ initialises).mpr rfl⟩
  · exact absurd none (providerIff.mpr ⟨rfl, _, receives⟩)

end JsxRouting
