import JsxRouting.Proofs.InjectedParts
import JsxRouting.Proofs.UntaggedElements

namespace JsxRouting

namespace Node

/-- Whether no list stands in the place of the first parameter. A walk does not enter a list in a list, but would
enter it where the props take its place. -/
def hasPlainParameter (node : Node) : Bool :=
  match node.get? .params with
  | some (.list (.list _ :: _)) => false
  | _ => true

theorem Everywhere.get? {node : Node} {field : Field} {value : Value} (finished : node.Everywhere Finished)
    (own : field ∈ node.kind.fields) (isValue : node.get? field = some value) : value.Everywhere Finished := by
  obtain ⟨old, isOld⟩ := exists_lookup finished.here.ownFields field own
  cases (get?_of_lookup isOld).symm.trans isValue
  exact finished.lookup isOld

theorem Everywhere.getD {node : Node} {field : Field} (finished : node.Everywhere Finished)
    (own : field ∈ node.kind.fields) : ((node.get? field).getD .null).Everywhere Finished := by
  cases isValue : node.get? field with
  | some value => exact finished.get? own isValue
  | none => exact Value.everywhere_scalar _

/-- A finished node that is no element stays finished when a field takes a finished value. -/
theorem Everywhere.replace {node : Node} {value : Value} (field : Field) (finished : node.Everywhere Finished)
    (noElement : node.kind ≠ .jsxElement) (inValue : value.Everywhere Finished) :
    (node.set field value).Everywhere Finished :=
  .set (finished_of_kind ((hasOwnFields_set node field value).trans finished.here.ownFields)
      (by rwa [kind_set]))
    (fun branch child _ isChild => (everywhere_iff.mp finished).2 branch child isChild) fun _ => inValue

theorem everywhere_constDeclaration {target init : Value} (inTarget : target.Everywhere Finished)
    (inInit : init.Everywhere Finished) : (constDeclaration target init).Everywhere Finished := by
  have declarator : (make .variableDeclarator [(.id, target), (.init, init)]).Everywhere Finished :=
    everywhere_make nofun (by simpa using ⟨inTarget, inInit⟩)
  exact everywhere_make nofun (by simpa using declarator)

theorem everywhere_property {key value : Node} (shorthand : Bool) (inKey : key.Everywhere Finished)
    (inValue : value.Everywhere Finished) : (property key value shorthand).Everywhere Finished :=
  everywhere_make nofun (by simpa using ⟨inKey, inValue⟩)

theorem everywhere_call {callee : String} {arguments : List Node}
    (inArguments : ∀ argument ∈ arguments, argument.Everywhere Finished) :
    (call callee arguments).Everywhere Finished := by
  have target : (identifier callee).Everywhere Finished := everywhere_identifierOf (by simp)
  exact everywhere_make nofun (by simpa using ⟨target, inArguments⟩)

theorem everywhere_firstElement {object : Node} (inObject : object.Everywhere Finished) :
    (firstElement object).Everywhere Finished := by
  have zero : zeroLiteral.Everywhere Finished := everywhere_make nofun (by simp)
  exact everywhere_make nofun (by simpa using ⟨inObject, zero⟩)

end Node

open Node

namespace Findings

variable (findings : Findings) (usesProvider : Bool)

theorem everywhere_objectBinding (name : Scalar) : (Frame.objectBinding name).Everywhere Finished :=
  everywhere_property _ (everywhere_identifierOf (by simp)) (everywhere_identifierOf (by simp))

theorem everywhere_bindingPattern : findings.bindingPattern.Everywhere Finished := by
  unfold bindingPattern Node.objectPattern
  refine everywhere_make nofun fun entry member => ?_
  obtain rfl := List.mem_singleton.mp member
  refine (Value.everywhere_map _).mpr fun binding member => ?_
  obtain inComponents | inObjects := List.mem_append.mp member
  · obtain ⟨component, _, rfl⟩ := List.mem_map.mp inComponents
    unfold Frame.componentBinding
    split
    · exact everywhere_property _ (everywhere_identifierOf (by simp)) (everywhere_identifierOf (by simp))
    · exact everywhere_objectBinding component
  · obtain ⟨object, _, rfl⟩ := List.mem_map.mp inObjects
    exact everywhere_objectBinding object

theorem everywhere_componentsLiteral {props : Option Node}
    (inProps : ∀ expression ∈ props, expression.Everywhere Finished) :
    (findings.componentsLiteral usesProvider props).Everywhere Finished := by
  have literal (name : Scalar) : (dataLiteral (.scalar name)).Everywhere Finished := everywhere_make nofun (by simp)
  rw [Findings.componentsLiteral_eq]
  refine everywhere_make nofun fun entry member => ?_
  obtain rfl := List.mem_singleton.mp member
  refine (Value.everywhere_map _).mpr fun part member => ?_
  obtain ⟨tag, _, rfl⟩ | ⟨component, _, _, rfl⟩ | ⟨source, taken, rfl⟩ :=
    (Findings.mem_parts_componentsLiteral _ _ _).mp member
  · exact everywhere_property _ (everywhere_identifierOf (by simp)) (literal tag)
  · exact everywhere_property _ (everywhere_identifierOf (by simp))
      (everywhere_call (by simpa using literal component))
  · have isFinished : source.Everywhere Finished := by
      obtain ⟨_, rfl⟩ | ⟨expression, isProps, rfl⟩ := (Findings.mem_takenIn _ _).mp taken
      · exact everywhere_call (by simp)
      · have key : (identifier "components").Everywhere Finished := everywhere_identifierOf (by simp)
        exact everywhere_make nofun (by simpa using ⟨inProps expression isProps, key⟩)
    exact everywhere_make nofun (by simpa using isFinished)

/-- The declarations of a function are finished if the expression for its props is. -/
theorem everywhere_declarations {props : Option Node}
    (inProps : ∀ expression ∈ props, expression.Everywhere Finished) :
    ∀ statement ∈ findings.declarations usesProvider props, statement.Everywhere Finished := by
  have components : (identifier componentsObject).Everywhere Finished := everywhere_identifierOf (by simp)
  intro statement member
  unfold declarations at member
  obtain rfl | member := List.mem_cons.mp member
  · exact everywhere_constDeclaration ((Value.everywhere_node _).mpr components)
      ((Value.everywhere_node _).mpr (findings.everywhere_componentsLiteral usesProvider inProps))
  · split at member
    · cases member
    · obtain rfl := List.mem_singleton.mp member
      exact everywhere_constDeclaration ((Value.everywhere_node _).mpr findings.everywhere_bindingPattern)
        ((Value.everywhere_node _).mpr components)

end Findings

namespace Node

theorem hasPlainParameter_routing {function inner : Node} (routes : function.RoutesTo inner)
    (isFunction : function.isFunction = true) (plain : function.hasPlainParameter = true) :
    inner.hasPlainParameter = true := by
  have params := routes.get? (isRouted_of_isFunction isFunction) .params
  unfold hasPlainParameter at plain ⊢
  generalize function.get? .params = before at params plain
  generalize inner.get? .params = after at params
  split
  · rename_i first rest
    cases params with
    | @some value _ routesParams =>
    cases value with
    | list items =>
      obtain ⟨_, same, rfl | run⟩ := routesParams.list
      · cases same
        cases plain
      · cases same
        cases items with
        | nil => cases run
        | cons item items =>
          obtain ⟨_, _, same, _, routesItem⟩ := transformItems_cons_eq_ok run
          cases same
          cases item with
          | list => cases plain
          | node => cases routesItem.node.choose_spec.1
          | scalar | object => cases routesItem.eq_of_data rfl
    | node => cases routesParams.node.choose_spec.1
    | scalar | object => cases routesParams.eq_of_data rfl
  · rfl

end Node

/-- Reading the props keeps a function finished, and so is what it needs in front of the body. -/
theorem PropsReading.From.finished {function : Node} {reading : PropsReading} (read : reading.From function)
    (isFunction : function.isFunction = true) (plain : function.hasPlainParameter = true)
    (finished : function.Everywhere Finished) :
    reading.function.Everywhere Finished ∧ ∀ statement ∈ reading.prelude, statement.Everywhere Finished := by
  have ownParams : .params ∈ function.kind.fields := (Kind.fields_of_isFunction isFunction).2.1
  have noElement : function.kind ≠ .jsxElement := ne_jsxElement_of_isFunction isFunction
  have props : (identifier propsParameter).Everywhere Finished := everywhere_identifierOf (by simp)
  have declares {pattern : Value} (inPattern : pattern.Everywhere Finished) :
      ∀ statement ∈ [propsPrelude pattern], statement.Everywhere Finished := by
    intro statement member
    obtain rfl := List.mem_singleton.mp member
    exact everywhere_constDeclaration inPattern ((Value.everywhere_node _).mpr props)
  cases read with
  | kept => exact ⟨finished, nofun⟩
  | added _ isParams =>
    have inParams := finished.get? ownParams isParams
    exact ⟨finished.replace _ noElement ((Value.everywhere_append _ _).mpr ⟨inParams, by simpa using props⟩), nofun⟩
  | @within parameter rest field _ isParams isField =>
    obtain ⟨inParameter, inRest⟩ := (Value.everywhere_cons _ _).mp (finished.get? ownParams isParams)
    have isPattern : field ∈ parameter.kind.fields ∧ parameter.kind ≠ .jsxElement := by
      unfold patternField? at isField
      split at isField
      · rename_i isRest
        cases isField
        rw [isRest]
        decide
      · rename_i isDefault
        cases isField
        rw [isDefault]
        decide
      · cases isField
    have renamed : (parameter.set field (.node (identifier propsParameter))).Everywhere Finished :=
      inParameter.replace field isPattern.2 ((Value.everywhere_node _).mpr props)
    exact ⟨finished.replace _ noElement ((Value.everywhere_cons _ _).mpr ⟨renamed, inRest⟩),
      declares (inParameter.getD isPattern.1)⟩
  | @whole first rest _ isParams _ =>
    have inParams := finished.get? ownParams isParams
    have inRest : (Value.list rest).Everywhere Finished :=
      fun child member => inParams child (by
        cases first with
        | node => exact List.mem_cons_of_mem _ member
        | scalar | list | object => exact member)
    refine ⟨finished.replace _ noElement ((Value.everywhere_cons _ _).mpr ⟨props, inRest⟩), declares ?_⟩
    cases first with
    | node child => exact (Value.everywhere_node _).mpr ((Value.everywhere_cons _ _).mp inParams).1
    | scalar value => exact Value.everywhere_scalar value
    | object members => exact fun child member => nomatch member
    | list items =>
      rw [hasPlainParameter, isParams] at plain
      cases plain

namespace Node

theorem everywhere_nameOf {value : Value} {name : Node} (inValue : value.Everywhere Finished)
    (isName : value.nodeOf? .identifier = some name) :
    (identifierOf ((name.get? .name).getD .null)).Everywhere Finished := by
  obtain ⟨rfl, isIdentifier⟩ := Value.nodeOf?_eq_some.mp isName
  exact everywhere_identifierOf (((Value.everywhere_node _).mp inValue).getD (by rw [isIdentifier]; decide))

theorem readRestParameter_finished {function parameter : Node} {params : Value} {reading : PropsReading}
    (isRest : parameter.kind = .restElement) (inParameter : parameter.Everywhere Finished)
    (read : function.readRestParameter params parameter = .ok reading) : reading.props.Everywhere Finished := by
  dsimp only [readRestParameter] at read
  split at read
  · rename_i isName
    cases read
    exact everywhere_firstElement (everywhere_nameOf (inParameter.getD (by rw [isRest]; decide)) isName)
  · obtain ⟨_, _, read⟩ := bind_eq_ok_iff.mp read
    cases read
    exact everywhere_firstElement (everywhere_identifierOf (by simp))

theorem readDefaultParameter_finished {function parameter : Node} {params : Value} {reading : PropsReading}
    (isDefault : parameter.kind = .assignmentPattern) (inParameter : parameter.Everywhere Finished)
    (read : function.readDefaultParameter params parameter = .ok reading) : reading.props.Everywhere Finished := by
  dsimp only [readDefaultParameter] at read
  split at read
  · rename_i isName
    cases read
    exact everywhere_nameOf (inParameter.getD (by rw [isDefault]; decide)) isName
  · obtain ⟨_, _, read⟩ := bind_eq_ok_iff.mp read
    cases read
    exact everywhere_identifierOf (by simp)

theorem readArrowParameter_finished {function : Node} {params first : Value} {reading : PropsReading}
    (read : function.readArrowParameter params first = .ok reading) : reading.props.Everywhere Finished := by
  dsimp only [readArrowParameter] at read
  split at read
  · split at read
    · cases read
      exact everywhere_identifierOf (by simp)
    · cases read
  · obtain ⟨_, _, read⟩ := bind_eq_ok_iff.mp read
    cases read
    exact everywhere_identifierOf (by simp)

theorem exists_list_of_firstParameter {params : Value} {parameter : Node}
    (isFirst : firstParameter params = .ok (.node parameter)) :
    ∃ rest, params = .list (.node parameter :: rest) := by
  unfold firstParameter at isFirst
  split at isFirst
  · cases isFirst
    exact ⟨_, rfl⟩
  · split at isFirst <;> cases isFirst
  · split at isFirst <;> cases isFirst

/-- The expression by which a finished function reads its props is finished. -/
theorem readProps_finished {function : Node} {reading : PropsReading} (isFunction : function.isFunction = true)
    (finished : function.Everywhere Finished) (read : function.readProps = .ok reading) :
    reading.props.Everywhere Finished := by
  unfold readProps at read
  cases isParams : function.get? .params with
  | none =>
    rw [isParams] at read
    cases read
  | some params =>
    rw [isParams] at read
    obtain ⟨first, isFirst, read⟩ := bind_eq_ok_iff.mp read
    have plain : (if function.is .arrowFunctionExpression then function.readArrowParameter params first
        else .ok ⟨firstElement (identifier "arguments"), [], function⟩) = .ok reading →
        reading.props.Everywhere Finished := by
      intro read
      split at read
      · exact readArrowParameter_finished read
      · cases read
        exact everywhere_firstElement (everywhere_identifierOf (by simp))
    dsimp only at read
    generalize (if function.is .arrowFunctionExpression then function.readArrowParameter params first
      else .ok ⟨firstElement (identifier "arguments"), [], function⟩) = other at read plain
    split at read
    · rename_i parameter
      obtain ⟨rest, rfl⟩ := exists_list_of_firstParameter isFirst
      have inParams := finished.get? (Kind.fields_of_isFunction isFunction).2.1 isParams
      have inParameter := ((Value.everywhere_cons _ _).mp inParams).1
      split at read
      · rename_i isIdentifier
        cases read
        exact everywhere_identifierOf (inParameter.getD (by rw [isIdentifier]; decide))
      · rename_i isRest
        exact readRestParameter_finished isRest inParameter read
      · rename_i isDefault
        exact readDefaultParameter_finished isDefault inParameter read
      · exact plain read
    · exact plain read

/-- Putting finished statements in front of its body keeps a function finished. -/
theorem prependToBody_finished {function after : Node} {front : List Node} (isFunction : function.isFunction = true)
    (finished : function.Everywhere Finished) (inFront : ∀ statement ∈ front, statement.Everywhere Finished)
    (prepended : function.prependToBody front = .ok after) : after.Everywhere Finished := by
  have ownBody := (Kind.fields_of_isFunction isFunction).1
  have noElement := ne_jsxElement_of_isFunction isFunction
  have inStatements {items : List Value} (inItems : (Value.list items).Everywhere Finished) :
      (Value.list (front.map .node ++ items)).Everywhere Finished :=
    (Value.everywhere_append _ _).mpr ⟨(Value.everywhere_map _).mpr inFront, inItems⟩
  obtain ⟨block, items, isBody, isBlock, isItems, rfl⟩ | ⟨body, isBody, _, rfl⟩ := prependToBody_cases prepended
  · have inBlock := (Value.everywhere_node _).mp (finished.get? ownBody isBody)
    have inItems := inBlock.get? (by rw [isBlock]; decide) isItems
    have longer := inBlock.replace .body (by rw [isBlock]; decide) (inStatements inItems)
    exact finished.replace _ noElement ((Value.everywhere_node _).mpr longer)
  · have returned : (returnStatement body).Everywhere Finished :=
      everywhere_make nofun (by simpa using finished.get? ownBody isBody)
    have inBlock : (block (front.map .node ++ [.node (returnStatement body)])).Everywhere Finished := by
      refine everywhere_make nofun fun entry member => ?_
      obtain rfl := List.mem_singleton.mp member
      exact inStatements ((Value.everywhere_cons _ _).mpr ⟨returned, Value.everywhere_nil⟩)
    have blocked := finished.replace .body noElement ((Value.everywhere_node _).mpr inBlock)
    unfold Node.blocked
    dsimp only
    split
    · exact blocked.replace _ (by rwa [kind_set]) (Value.everywhere_scalar _)
    · exact blocked

end Node

/-- Nowhere in an outermost function that went through the pass an element is a tag. -/
theorem Pass.declare_finished {pass : Pass} {place : Place} {function changed : Node}
    (regular : function.isRegular = true) (isFunction : function.isFunction = true)
    (plain : function.hasPlainParameter = true) (declared : pass.declare place function = .ok changed) :
    changed.Everywhere Finished := by
  obtain ⟨nothing, rfl⟩ | ⟨_, inner, prepared, ran, ready, prepended⟩ := declare_cases declared
  · obtain ⟨inner, ran, _⟩ := bind_eq_ok_iff.mp declared
    have same := routing_eq_self changed .plain ran fun element member => Findings.tag?_of_isEmpty nothing member
    rw [← same]
    exact everywhere_routing regular rfl ran
  · have inInner := everywhere_routing regular rfl ran
    have innerFunction : inner.isFunction = true := by
      rw [Node.isFunction, kind_routing ran]
      exact isFunction
    have innerPlain := hasPlainParameter_routing (.inr ⟨.plain, ran⟩) isFunction plain
    obtain ⟨props, read⟩ := prepare_from ready
    obtain ⟨inFunction, inPrelude⟩ := read.finished innerFunction innerPlain inInner
    have inProps : ∀ expression ∈ prepared.props, expression.Everywhere Finished := by
      unfold prepare at ready
      split at ready
      · obtain ⟨reading, isRead, rfl⟩ := map_eq_ok_iff.mp ready
        intro expression isProps
        cases isProps
        exact readProps_finished innerFunction inInner isRead
      · cases ready
        exact nofun
    have stillFunction : prepared.function.isFunction = true := by
      rw [Node.isFunction, read.kind]
      exact innerFunction
    refine prependToBody_finished stillFunction inFunction (fun statement member => ?_) prepended
    obtain inFront | inDeclarations := List.mem_append.mp member
    · exact inPrelude statement inFront
    · exact Findings.everywhere_declarations _ _ inProps statement inDeclarations

namespace Node

/-- If the node is a function, it is finished everywhere. -/
def IsFinishedFunction (node : Node) : Prop := node.isFunction = true → node.Everywhere Finished

theorem Everywhere.functions {node : Node} (finished : node.Everywhere Finished) :
    node.Everywhere IsFinishedFunction := fun _ _ there _ => finished.below there

/-- Changing the outermost functions of a tree makes all its functions finished if it does so alone. -/
theorem mapOutermost_finished {change : Place → Node → Except Error Node} {node after : Node} {place : Place}
    (changes : ∀ place function changed, function.isRegular = true → function.isFunction = true →
      function.hasPlainParameter = true → change place function = .ok changed → changed.Everywhere Finished)
    (regular : node.isRegular = true) (plain : node.all hasPlainParameter = true)
    (visible : place.hidesName = false)
    (mapped : node.mapOutermost change place = .ok after) : after.Everywhere IsFinishedFunction := by
  induction node using induction_children generalizing place after with
  | step node ih =>
    by_cases isFunction : node.isFunction = true
    · rw [mapOutermost_of_function isFunction] at mapped
      exact (changes place node after regular isFunction (check_of_all plain) mapped).functions
    · rw [mapOutermost_of_not_function isFunction] at mapped
      obtain ⟨fields, mappedFields, rfl⟩ := map_eq_ok_iff.mp mapped
      rw [mapOutermostInFields_eq] at mappedFields
      refine everywhere_iff.mpr
        ⟨fun stillFunction => absurd stillFunction isFunction, fun branch other isOther => ?_⟩
      obtain ⟨child, isChild, mappedChild⟩ := (visitFields_relate mappedFields).child_cases isOther
      have member := mem_children_of_child? isChild
      split at mappedChild
      · rename_i inner placed
        exact ih child member (all_of_mem_children regular member) (all_of_mem_children plain member)
          (Place.visible_below placed) mappedChild
      · rename_i unplaced
        obtain ⟨hides, _⟩ := Place.inField_eq_none unplaced
        cases visible.symm.trans hides

end Node

/-- In a tree without elements nothing is left to finish. -/
theorem Node.everywhere_finished_of_all {node : Node}
    (noElements : node.all (fun node => node.hasOwnFields && node.kind != .jsxElement) = true) :
    node.Everywhere Finished :=
  everywhere_of_all noElements fun node holds => by
    rw [Bool.and_eq_true] at holds
    exact finished_of_kind holds.1 (by simpa using holds.2)

theorem providerBinding_finished {source : Option String} {format : OutputFormat} {binding : Node}
    (bound : providerBinding source format = .ok binding) : binding.Everywhere Finished := by
  cases format with
  | functionBody =>
    cases bound
    exact everywhere_finished_of_all rfl
  | program =>
    cases source with
    | some source =>
      cases bound
      exact everywhere_finished_of_all rfl
    | none => cases bound

/-- All functions of a routed program are finished. -/
theorem routeProgram_finished {options : Options} {known : Option NameSet} {tree : Node} {routed : Routed}
    (program : tree.kind = .program) (regular : tree.isRegular = true)
    (plain : tree.all Node.hasPlainParameter = true) (run : routeProgram options known tree = .ok routed) :
    routed.tree.Everywhere IsFinishedFunction := by
  rw [routeProgram_eq] at run
  obtain ⟨topScope, _, run⟩ := bind_eq_ok_iff.mp run
  obtain ⟨walked, helper, provider, mapped, prepended, isHelper, isProvider⟩ := Pass.run_eq_ok run
  have inWalked := mapOutermost_finished (fun _ _ _ => Pass.declare_finished) regular plain rfl mapped
  have inFront : ∀ statement ∈ helper ++ provider, statement.Everywhere Finished := by
    intro statement member
    obtain inHelper | inProvider := List.mem_append.mp member
    · rw [isHelper] at inHelper
      split at inHelper
      · obtain rfl := List.mem_singleton.mp inHelper
        exact everywhere_finished_of_all rfl
      · cases inHelper
    · have bound : (.ok statement : Except Error Node) ∈ provider.map .ok := List.mem_map_of_mem inProvider
      rw [isProvider] at bound
      split at bound
      · exact providerBinding_finished (List.mem_singleton.mp bound).symm
      · cases bound
  obtain ⟨_, same⟩ | ⟨_, items, isBody, same⟩ := prependStatements_eq prepended
  · rw [same]
    exact inWalked
  · have stillProgram := (kind_mapOutermost (not_isFunction_of_program program) mapped).trans program
    rw [same]
    refine .set (fun isFunction => ?_) (fun branch child _ => (everywhere_iff.mp inWalked).2 branch child) ?_
    · exact absurd isFunction (not_isFunction_of_program ((kind_set ..).trans stillProgram))
    · rintro ⟨old, isOwn⟩
      cases (get?_of_lookup isOwn).symm.trans isBody
      refine (Value.everywhere_append _ _).mpr ⟨(Value.everywhere_map _).mpr fun statement member => ?_, ?_⟩
      · exact (inFront statement (List.mem_reverse.mp member)).functions
      · exact inWalked.lookup isOwn

end JsxRouting
