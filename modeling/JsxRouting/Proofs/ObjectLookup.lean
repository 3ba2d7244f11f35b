import JsxRouting.Proofs.FoundNames
import JsxRouting.Proofs.RootStatements
import Mathlib.Logic.Function.Basic

namespace JsxRouting

/-- What an object can hold: plain data, what the helper stands in with for a name, or a value from elsewhere. -/
inductive Entry (α : Type)
  | data (value : Scalar)
  | standIn (name : Scalar)
  | given (value : α)

/-- An object, by its keys. -/
abbrev Content (α : Type) := Scalar → Option (Entry α)

/-- Where a function runs: what the provider gives, and what the `components` of the value of an expression hold. -/
structure Surroundings (α : Type) where
  provided : Scalar → Option α
  components : Node → Scalar → Option α

namespace Node

variable {α : Type}

/-- What an expression in a components object gives. -/
def entry? (expression : Node) : Option (Entry α) :=
  (expression.literalValue?.map .data).or (expression.standInName?.map .standIn)

/-- The expression whose `components` an expression reads. -/
def componentsOf? (expression : Node) : Option Node :=
  match expression.kind, expression.get? .computed, expression.get? .object, expression.get? .property with
  | .memberExpression, some (.scalar (.bool false)), some (.node object), some (.node property) =>
    match property.kind, property.get? .name with
    | .identifier, some (.scalar (.text name)) => if name = "components" then some object else none
    | _, _ => none
  | _, _, _, _ => none

end Node

namespace Surroundings

variable {α : Type} (surroundings : Surroundings α)

/-- What is in the source of a spread. -/
def spread? (source : Node) : Option (Scalar → Option α) :=
  match source.callArguments? provideComponents, source.componentsOf? with
  | some [], _ => some surroundings.provided
  | _, some props => some (surroundings.components props)
  | _, _ => none

/-- The object with one more part of the literal. -/
def put? (object : Content α) (part : Node) : Option (Content α) :=
  match part.kind with
  | .property =>
    match part.get? .kind, part.key?, part.get? .value with
    | some (.scalar (.text "init")), some (.scalar key), some (.node value) =>
      value.entry?.map fun entry => Function.update object key (some entry)
    | _, _, _ => none
  | .spreadElement =>
    match part.get? .argument with
    | some (.node source) =>
      (surroundings.spread? source).map fun copied key => ((copied key).map .given).or (object key)
    | _ => none
  | _ => none

/-- The object that a literal is. -/
def object? (literal : Node) : Option (Content α) :=
  if literal.is .objectExpression then literal.parts.foldlM surroundings.put? fun _ => none else none

end Surroundings

namespace Node

variable {α : Type} (object : Content α)

/-- The name that a property of a pattern binds, with what it reads from the object. -/
def binding? (part : Node) : Option (Scalar × Option (Entry α)) :=
  match part.boundName?, part.key? with
  | some (.scalar name), some (.scalar key) => some (name, object key)
  | _, _ => none

/-- What the properties of a pattern bind, one after another. -/
def bindings? (pattern : Node) : Option (List (Scalar × Option (Entry α))) := pattern.parts.mapM (binding? object)

end Node

namespace Findings

variable {α : Type} (findings : Findings)

/-- What a name falls back to: a tag to itself and a component but the layout to what stands in for it. -/
def fallback? (key : Scalar) : Option (Entry α) :=
  if key ∈ findings.tags then some (.data key)
  else if key ∈ findings.components ∧ key ≠ .text layoutComponent then some (.standIn key)
  else none

/-- The key from which a component is bound. -/
def componentKey (component : Scalar) : Scalar :=
  if component = .text layoutComponent then .text layoutKey else component

/-- What is to be bound: the components, the layout from its own key, and the objects. -/
def bindings (object : Content α) : List (Scalar × Option (Entry α)) :=
  findings.components.map (fun name => (name, object (componentKey name))) ++
    findings.objects.map fun name => (name, object name)

end Findings

/-- What a components object is to hold: what the props of an entry point give comes before what is provided, and
this before the fallback. -/
def Surroundings.lookup {α : Type} (surroundings : Surroundings α) (findings : Findings) (usesProvider : Bool)
    (props : Option Node) (key : Scalar) : Option (Entry α) :=
  ((props.bind fun props => surroundings.components props key).map .given).or
    (((if usesProvider then surroundings.provided key else none).map .given).or (findings.fallback? key))

namespace Surroundings

variable {α : Type} (surroundings : Surroundings α)

theorem put?_tagFallback (object : Content α) (tag : Scalar) :
    surroundings.put? object (Frame.tagFallback tag) = some (Function.update object tag (some (.data tag))) := rfl

theorem put?_componentFallback (object : Content α) (component : Scalar) :
    surroundings.put? object (Frame.componentFallback component) =
      some (Function.update object component (some (.standIn component))) := rfl

/-- Properties that hold an entry each under its own name put all of these into an object. -/
theorem foldlM_put?_map {part : Scalar → Node} {entry : Scalar → Entry α}
    (puts : ∀ object name, surroundings.put? object (part name) =
      some (Function.update object name (some (entry name))))
    (names : List Scalar) (object : Content α) :
    (names.map part).foldlM surroundings.put? object =
      some fun key => if key ∈ names then some (entry key) else object key := by
  induction names generalizing object with
  | nil => simp
  | cons name rest ih =>
    rw [List.map_cons, List.foldlM_cons, puts, Option.bind_eq_bind, Option.bind_some, ih]
    refine congrArg some (funext fun key => ?_)
    by_cases same : key = name
    · subst same
      simp
    · simp [same]

/-- What is provided is copied first, and what the props give is copied over it. -/
theorem foldlM_put?_takenIn (usesProvider : Bool) (props : Option Node) (object : Content α) :
    ((Findings.takenIn usesProvider props).map fun source =>
      Node.make .spreadElement [(.argument, .node source)]).foldlM
        surroundings.put? object =
      some fun key => ((props.bind fun props => surroundings.components props key).map .given).or
        (((if usesProvider then surroundings.provided key else none).map .given).or (object key)) := by
  cases usesProvider <;> cases props <;> rfl

/-- A components object holds what it is to hold. -/
theorem object?_componentsLiteral {findings : Findings} (apart : ∀ name ∈ findings.components, name ∉ findings.tags)
    (usesProvider : Bool) (props : Option Node) :
    surroundings.object? (findings.componentsLiteral usesProvider props) =
      some (surroundings.lookup findings usesProvider props) := by
  have isLiteral : (findings.componentsLiteral usesProvider props).is .objectExpression = true := rfl
  rw [object?, if_pos isLiteral, Findings.parts_componentsLiteral, List.foldlM_append, List.foldlM_append,
    foldlM_put?_map _ surroundings.put?_tagFallback]
  simp only [Option.bind_eq_bind, Option.bind_some]
  rw [foldlM_put?_map _ surroundings.put?_componentFallback, Option.bind_some, foldlM_put?_takenIn]
  refine congrArg some (funext fun key => ?_)
  have fallback : (if key ∈ findings.components.filter (· != .text layoutComponent) then some (.standIn key)
      else if key ∈ findings.tags then some (.data key) else none) = findings.fallback? (α := α) key := by
    unfold Findings.fallback?
    by_cases isComponent : key ∈ findings.components
    · simp [isComponent, apart key isComponent]
    · simp [isComponent]
  rw [fallback, lookup]

end Surroundings

namespace Findings

variable {α : Type} (object : Content α)

theorem binding?_componentBinding (component : Scalar) :
    (Frame.componentBinding component).binding? object = some (component, object (componentKey component)) := by
  unfold Frame.componentBinding componentKey
  split <;> rfl

theorem binding?_objectBinding (name : Scalar) :
    (Frame.objectBinding name).binding? object = some (name, object name) := rfl

/-- Properties that read one key each bind what stands under these keys. -/
theorem mapM_binding?_map {part : Scalar → Node} {key : Scalar → Scalar}
    (reads : ∀ name, (part name).binding? object = some (name, object (key name))) (names : List Scalar) :
    (names.map part).mapM (Node.binding? object) = some (names.map fun name => (name, object (key name))) := by
  have step : Node.binding? object ∘ part = fun name => pure (name, object (key name)) := funext reads
  rw [List.mapM_map, step]
  exact List.mapM_pure

theorem bindings?_bindingPattern (findings : Findings) :
    findings.bindingPattern.bindings? object = some (findings.bindings object) := by
  rw [Node.bindings?, parts_bindingPattern, List.mapM_append,
    mapM_binding?_map object (binding?_componentBinding object),
    mapM_binding?_map object (binding?_objectBinding object)]
  rfl

theorem nodup_firstOccurrences (names : List Scalar) : (firstOccurrences names).Nodup := by
  refine (pairwise_firstOccurrences names).imp fun differ same => ?_
  rw [same, Scalar.same_self] at differ
  cases differ

/-- No name is to be bound twice unless one is found both as a component and as an object. -/
theorem nodup_bindings_iff (known : NameSet) (function : Node) :
    (((within known function).bindings object).map Prod.fst).Nodup ↔
      ∀ name ∈ (within known function).components, name ∉ (within known function).objects := by
  have names : ((within known function).bindings object).map Prod.fst =
      (within known function).components ++ (within known function).objects := by
    simp [bindings, Function.comp_def]
  rw [names, List.nodup_append]
  constructor
  · rintro ⟨_, _, differ⟩ name isComponent isObject
    exact differ name isComponent name isObject rfl
  · intro apart
    refine ⟨nodup_firstOccurrences _, nodup_firstOccurrences _, ?_⟩
    rintro name isComponent _ isObject rfl
    exact apart name isComponent isObject

end Findings

/-- The function at a position binds a name to a value when it takes the components object apart. If its pattern has
a name twice, nothing is bound. -/
def Routed.Binds {α : Type} (routed : Routed) (tree : Node) (position : Position)
    (object : Content α) (name : Scalar)
    (value : Option (Entry α)) : Prop :=
  ∃ pattern bindings, routed.Destructures tree position pattern ∧ pattern.bindings? object = some bindings ∧
    (bindings.map Prod.fst).Nodup ∧ (name, value) ∈ bindings

section Run

variable {options : Options} {topScope : NameSet} {tree : Node} {routed : Routed}
  (outermost : ∀ position place function, tree.outermostAt? .plain position = some (place, function) →
    ∃ changed, Pass.declare ⟨options, topScope⟩ place function = .ok changed ∧
      routed.tree.at? (Position.behind (routed.frontCount tree) position) = some changed)

include outermost

/-- A function binds every component and every object exactly if no name is found as both. -/
theorem binds_iff {α : Type} (object : Content α) {position : Position} {place : Place} {function : Node}
    (found : tree.outermostAt? .plain position = some (place, function)) :
    ((∀ name ∈ (Findings.within topScope function).components,
        routed.Binds tree position object name (object (Findings.componentKey name))) ∧
      ∀ name ∈ (Findings.within topScope function).objects, routed.Binds tree position object name (object name)) ↔
      ∀ name ∈ (Findings.within topScope function).components, name ∉
        (Findings.within topScope function).objects := by
  have isBound := (Findings.within topScope function).bindings?_bindingPattern object
  constructor
  · rintro ⟨components, _⟩ name isComponent
    obtain ⟨pattern, bindings, destructures, areBindings, distinct, _⟩ := components name isComponent
    rw [eq_bindingPattern_of_destructures outermost found destructures, isBound] at areBindings
    cases areBindings
    exact (Findings.nodup_bindings_iff object _ _).mp distinct name isComponent
  · intro apart
    have distinct := (Findings.nodup_bindings_iff object _ _).mpr apart
    have destructures {name : Scalar} (isFound : name ∈ (Findings.within topScope function).components ∨
        name ∈ (Findings.within topScope function).objects) :
        routed.Destructures tree position (Findings.within topScope function).bindingPattern := by
      refine destructures_bindingPattern outermost found ?_
      rintro ⟨noComponents, noObjects⟩
      simp [noComponents, noObjects] at isFound
    refine ⟨fun name isComponent => ?_, fun name isObject => ?_⟩
    · exact ⟨_, _, destructures (.inl isComponent), isBound, distinct,
        List.mem_append_left _ (List.mem_map_of_mem isComponent)⟩
    · exact ⟨_, _, destructures (.inr isObject), isBound, distinct,
        List.mem_append_right _ (List.mem_map_of_mem isObject)⟩

end Run

theorem Node.isSome_props_prepare {function : Node} {isEntryPoint : Bool} {prepared : Prepared}
    (ready : function.prepare isEntryPoint = .ok prepared) : prepared.props.isSome = isEntryPoint := by
  cases isEntryPoint with
  | true =>
    obtain ⟨_, _, rfl⟩ := map_eq_ok_iff.mp ready
    rfl
  | false =>
    cases ready
    rfl

/-- A function of a routed program in which something is found is given one components object. Wherever it runs,
this object holds under every key what the `components` of the props give, if the function is the entry point, or
else what is provided, if there is a provider, or else the fallback. The properties of the pattern read every
component and every object from it, the layout from its own key. They are bound exactly if no name is found both as
a component and as an object. -/
theorem routeProgram_lookup {options : Options} {known : Option NameSet} {tree : Node} {routed : Routed}
    (program : tree.kind = .program) (run : routeProgram options known tree = .ok routed) :
    ∃ topScope, tree.knownNames known = .ok topScope ∧
      ∀ position place function, tree.outermostAt? .plain position = some (place, function) →
        (Findings.within topScope function).isEmpty = false →
        ∃ (inner : Node) (prepared : Prepared) (literal : Node), function.transform routing .plain = .ok inner ∧
          inner.prepare (function.isEntryPoint place) = .ok prepared ∧
          prepared.props.isSome = function.isEntryPoint place ∧
          (∀ other, routed.Initialises tree position other ↔ other = literal) ∧
          ∀ {α : Type} (surroundings : Surroundings α), ∃ object, surroundings.object? literal = some object ∧
            (∀ key, object key =
              surroundings.lookup (Findings.within topScope function) options.usesProvider prepared.props key) ∧
            (∀ pattern, routed.Destructures tree position pattern →
              pattern.bindings? object = some ((Findings.within topScope function).bindings object)) ∧
            (((∀ name ∈ (Findings.within topScope function).components,
                routed.Binds tree position object name (object (Findings.componentKey name))) ∧
              ∀ name ∈ (Findings.within topScope function).objects,
                routed.Binds tree position object name (object name)) ↔
              ∀ name ∈ (Findings.within topScope function).components,
                name ∉ (Findings.within topScope function).objects) := by
  obtain ⟨topScope, isScope, outermost⟩ := routeProgram_outermost program run
  refine ⟨topScope, isScope, fun position place function found something => ?_⟩
  obtain ⟨inner, prepared, ran, ready, initialises⟩ := exists_initialises_iff outermost found something
  have apart : ∀ name ∈ (Findings.within topScope function).components,
      name ∉ (Findings.within topScope function).tags := fun name => Findings.not_mem_tags_of_mem_components
  refine ⟨inner, prepared, _, ran, ready, Node.isSome_props_prepare ready, initialises, fun surroundings => ?_⟩
  refine ⟨_, surroundings.object?_componentsLiteral apart _ _, fun key => rfl, fun pattern destructures => ?_,
    binds_iff outermost _ found⟩
  rw [eq_bindingPattern_of_destructures outermost found destructures]
  exact Findings.bindings?_bindingPattern _ _

/-- `function MDXContent(props) { <b />; <Foo />; <MDXLayout />; <Y.part />; }` -/
def Node.everyUse : Node :=
  .functionNamed entryPoint [.identifier "props"]
    ([.jsxName "b", .jsxName "Foo", .jsxName layoutComponent, .jsxMember "Y" "part"].map fun name =>
      .expressionStatement (.emptyElement name))

/-- Where `b` and the layout are provided and `b` is given once more in the props, the latter and the provided
layout are found, `Foo` is stood in for, and there is no `Y`. -/
theorem routeProgram_lookup_everyUse :
    let options : Options := { source := some "theme" }
    let page := Node.programOf [.everyUse]
    let surroundings : Surroundings String :=
      ⟨fun key => if key = .text "b" ∨ key = .text layoutKey then some "provided" else none,
        fun _ key => if key = .text "b" then some "given" else none⟩
    page.kind = .program ∧ ∃ routed, routeProgram options none page = .ok routed ∧
      ∃ literal object, routed.Initialises page [.item .body 0] literal ∧
        surroundings.object? literal = some object ∧ object (.text "b") = some (.given "given") ∧
        routed.Binds page [.item .body 0] object (.text layoutComponent) (some (.given "provided")) ∧
        routed.Binds page [.item .body 0] object (.text "Foo") (some (.standIn (.text "Foo"))) ∧
        routed.Binds page [.item .body 0] object (.text "Y") none := by
  intro options page surroundings
  have program : page.kind = .program := rfl
  obtain ⟨routed, run⟩ : ∃ routed, routeProgram options none page = .ok routed := ⟨_, rfl⟩
  refine ⟨program, routed, run, ?_⟩
  obtain ⟨topScope, isScope, outermost⟩ := routeProgram_lookup program run
  have isFound : Findings.within topScope Node.everyUse =
      ⟨[.text "b"], [.text "Foo", .text layoutComponent], [.text "Y"]⟩ := by
    cases isScope
    rfl
  have something : (Findings.within topScope Node.everyUse).isEmpty = false := by
    rw [isFound]
    rfl
  obtain ⟨inner, prepared, literal, ran, ready, _, initialises, evaluates⟩ :=
    outermost [.item .body 0] _ Node.everyUse rfl something
  cases ran
  cases ready
  obtain ⟨object, isObject, holds, _, bindsIff⟩ := evaluates surroundings
  rw [isFound] at holds bindsIff
  obtain ⟨components, objects⟩ := bindsIff.mpr (by decide)
  refine ⟨literal, object, (initialises literal).mpr rfl, isObject, holds _, ?_, ?_, ?_⟩
  · have layout := components (.text layoutComponent) (by decide)
    rwa [holds] at layout
  · have foo := components (.text "Foo") (by decide)
    rwa [holds] at foo
  · have y := objects (.text "Y") (by decide)
    rwa [holds] at y

/-- For `<X />` and `<X.part />` nothing is bound to `X`, though it is found as a component. -/
theorem routeProgram_lookup_repeated :
    let page := Node.programOf [.mixedNames "X" "X"]
    ∃ topScope routed, page.knownNames none = .ok topScope ∧ routeProgram {} none page = .ok routed ∧
      .text "X" ∈ (Findings.within topScope (.mixedNames "X" "X")).components ∧
      ∀ (object : Content Unit) value, ¬ routed.Binds page [.item .body 0] object (.text "X") value := by
  intro page
  obtain ⟨routed, run⟩ : ∃ routed, routeProgram {} none page = .ok routed := ⟨_, rfl⟩
  obtain ⟨topScope, isScope, outermost⟩ := routeProgram_outermost (rfl : page.kind = .program) run
  refine ⟨topScope, routed, isScope, run, ?_⟩
  cases isScope
  refine ⟨List.mem_cons_self, fun object value => ?_⟩
  rintro ⟨pattern, bindings, destructures, isBound, distinct, _⟩
  rw [eq_bindingPattern_of_destructures outermost rfl destructures, Findings.bindings?_bindingPattern] at isBound
  cases isBound
  exact (List.nodup_cons.mp (show [Scalar.text "X", .text "X"].Nodup from distinct)).1 List.mem_cons_self

end JsxRouting
