import JsxRouting.Proofs.AlikeNames
import JsxRouting.Proofs.DeclaredFunctions

namespace JsxRouting

variable {likeness : Likeness}

section Parts

theorem FieldAlike.refl_scalar (field : Field) (value : Scalar) :
    FieldAlike likeness (field, .scalar value) (field, .scalar value) := .value (.refl_scalar _)

theorem FieldAlike.node {field : Field} (ordinary : field.isOrdinary = true) {node other : Node}
    (alike : node.Alike likeness false other) : FieldAlike likeness (field, .node node) (field, .node other) :=
  .of_ordinary ordinary (.node alike)

theorem nodes_alike {nodes others : List Node} (alike : List.Forall₂ (Node.Alike likeness false) nodes others) :
    List.Forall₂ (Value.Alike likeness false) (nodes.map .node) (others.map .node) :=
  List.forall₂_map_left_iff.mpr (List.forall₂_map_right_iff.mpr (alike.imp fun _ _ => .node))

namespace Node

/-- The source text of a literal differs where the raw text may, and otherwise the data is the same. -/
theorem dataLiteral_alike {value other : Scalar} (scalars : likeness.scalars value other) :
    (dataLiteral (.scalar value)).Alike likeness false (dataLiteral (.scalar other)) := by
  refine .make (by decide) (.cons (.of_ordinary (by rfl) (.scalar scalars)) (.cons ?_ .nil))
  cases ignores : likeness.ignoresRaw with
  | true => exact .raw ignores rfl rfl
  | false =>
    obtain rfl := likeness.eq_of_scalars ignores scalars
    exact .refl_scalar _ _

theorem identifierOf_alike {name other : Value} (alike : name.Alike likeness false other) :
    (identifierOf name).Alike likeness false (identifierOf other) :=
  .make (by decide) (.cons (.of_ordinary (by rfl) alike) .nil)

theorem identifier_alike (name : String) : (identifier name).Alike likeness false (identifier name) :=
  .of_made false rfl

theorem constDeclaration_alike {target init otherTarget otherInit : Value}
    (targets : target.Alike likeness false otherTarget)
    (inits : init.Alike likeness false otherInit) :
    (constDeclaration target init).Alike likeness false (constDeclaration otherTarget otherInit) := by
  have declarator : (make .variableDeclarator [(.id, target), (.init, init)]).Alike likeness false
      (make .variableDeclarator [(.id, otherTarget), (.init, otherInit)]) :=
    .make (by decide) (.cons (.of_ordinary (by rfl) targets) (.cons (.of_ordinary (by rfl) inits) .nil))
  exact .make (by decide) (.cons (.refl_scalar _ _)
    (.cons (.of_ordinary (by rfl) (.list (.cons (.node declarator) .nil))) .nil))

theorem call_alike (callee : String) {arguments others : List Node}
    (alike : List.Forall₂ (Node.Alike likeness false) arguments others) :
    (call callee arguments).Alike likeness false (call callee others) :=
  .make (by decide) (.cons (.node (by rfl) (identifier_alike callee))
    (.cons (.of_ordinary (by rfl) (.list (nodes_alike alike))) .nil))

theorem property_alike {key value otherKey other : Node} (keys : key.Alike likeness false otherKey)
    (values : value.Alike likeness false other) (shorthand : Bool) :
    (property key value shorthand).Alike likeness false (property otherKey other shorthand) :=
  .make (by decide) (.cons (.node (by rfl) keys) (.cons (.node (by rfl) values)
    (.cons (.refl_scalar _ _) (.cons (.refl_scalar _ _) .nil))))

theorem objectLiteral_alike {properties others : List Value}
    (alike : List.Forall₂ (Value.Alike likeness false) properties others) :
    (objectLiteral properties).Alike likeness false (objectLiteral others) :=
  .make (by decide) (.cons (.of_ordinary (by rfl) (.list alike)) .nil)

theorem objectPattern_alike {properties others : List Node}
    (alike : List.Forall₂ (Node.Alike likeness false) properties others) :
    (objectPattern properties).Alike likeness false (objectPattern others) :=
  .make (by decide) (.cons (.of_ordinary (by rfl) (.list (nodes_alike alike))) .nil)

theorem block_alike {statements others : List Value}
    (alike : List.Forall₂ (Value.Alike likeness false) statements others) :
    (block statements).Alike likeness false (block others) :=
  .make (by decide) (.cons (.of_ordinary (by rfl) (.list alike)) .nil)

theorem returnStatement_alike {argument other : Value} (alike : argument.Alike likeness false other) :
    (returnStatement argument).Alike likeness false (returnStatement other) :=
  .make (by decide) (.cons (.of_ordinary (by rfl) alike) .nil)

theorem firstElement_alike {object other : Node} (alike : object.Alike likeness false other) :
    (firstElement object).Alike likeness false (firstElement other) :=
  .make (by decide) (.cons (.node (by rfl) alike)
    (.cons (.node (by rfl) (.of_made false rfl)) (.cons (.refl_scalar _ _) .nil)))

theorem propsPrelude_alike {pattern other : Value} (alike : pattern.Alike likeness false other) :
    (propsPrelude pattern).Alike likeness false (propsPrelude other) :=
  constDeclaration_alike alike (.node (identifier_alike _))

theorem routedName_alike {property other : Value} (alike : property.Alike likeness false other) :
    (routedName property).Alike likeness false (routedName other) := by
  exact .make (by decide) (.cons (.node (by rfl) (.of_made false rfl)) (.cons (.of_ordinary (by rfl) alike) .nil))

theorem missingComponentFunction_alike :
    missingComponentFunction.Alike likeness false missingComponentFunction := .of_made false rfl

end Node

end Parts

section Findings

/-- As many findings of each use, which may be exchanged for each other. -/
structure Findings.Alike (likeness : Likeness) (findings others : Findings) : Prop where
  tags : List.Forall₂ likeness.scalars findings.tags others.tags
  components : List.Forall₂ likeness.scalars findings.components others.components
  objects : List.Forall₂ likeness.scalars findings.objects others.objects

theorem Likeness.text_iff {scalar other : Scalar} (scalars : likeness.scalars scalar other) (text : String) :
    other = .text text ↔ scalar = .text text := by
  have same := likeness.same_of_scalars scalars
  constructor
  · rintro rfl
    rw [Scalar.same_comm] at same
    exact Scalar.eq_text_of_same same
  · rintro rfl
    exact Scalar.eq_text_of_same same

namespace Frame

variable {name other : Scalar} (scalars : likeness.scalars name other)

include scalars

theorem tagFallback_alike : (tagFallback name).Alike likeness false (tagFallback other) :=
  Node.property_alike (Node.identifierOf_alike (.scalar scalars)) (Node.dataLiteral_alike scalars) false

theorem componentFallback_alike : (componentFallback name).Alike likeness false (componentFallback other) :=
  Node.property_alike (Node.identifierOf_alike (.scalar scalars))
    (Node.call_alike _ (.cons (Node.dataLiteral_alike scalars) .nil)) false

theorem objectBinding_alike : (objectBinding name).Alike likeness false (objectBinding other) :=
  Node.property_alike (Node.identifierOf_alike (.scalar scalars)) (Node.identifierOf_alike (.scalar scalars)) true

theorem componentBinding_alike : (componentBinding name).Alike likeness false (componentBinding other) := by
  unfold componentBinding
  simp only [likeness.text_iff scalars]
  split
  · exact Node.property_alike (Node.identifier_alike _) (Node.identifierOf_alike (.scalar scalars)) false
  · exact objectBinding_alike scalars

end Frame

namespace Findings

variable {findings others : Findings} (alike : findings.Alike likeness others)

include alike

theorem Alike.bindingPattern : findings.bindingPattern.Alike likeness false others.bindingPattern :=
  Node.objectPattern_alike
    (List.rel_append (List.rel_map (fun _ _ scalars => Frame.componentBinding_alike scalars) alike.components)
    (List.rel_map (fun _ _ scalars => Frame.objectBinding_alike scalars) alike.objects))

theorem Alike.componentsLiteral (usesProvider : Bool) {props otherProps : Option Node}
    (readings : Option.Rel (Node.Alike likeness false) props otherProps) :
    (findings.componentsLiteral usesProvider props).Alike likeness false
      (others.componentsLiteral usesProvider otherProps) := by
  have noLayout : (List.Forall₂ likeness.scalars) (findings.components.filter (· != .text layoutComponent))
      (others.components.filter (· != .text layoutComponent)) :=
    List.rel_filter (fun _ _ scalars => by simp [likeness.text_iff scalars]) alike.components
  have fallbacks := List.rel_append (List.rel_map (fun _ _ scalars => Frame.tagFallback_alike scalars) alike.tags)
    (List.rel_map (fun _ _ scalars => Frame.componentFallback_alike scalars) noLayout)
  have given {props other : Node} (alike : props.Alike likeness false other) :
      (Node.componentsOf props).Alike likeness false (.componentsOf other) :=
    .make (by decide) (.cons (.node (by rfl) alike) (.cons (.node (by rfl) (Node.identifier_alike _)) .nil))
  have spread {part other : Node} (alike : part.Alike likeness false other) :
      (Value.node (.make .spreadElement [(.argument, .node part)])).Alike likeness false
        (.node (.make .spreadElement [(.argument, .node other)])) :=
    .node (.make (by decide) (.cons (.node (by rfl) alike) .nil))
  have provided : List.Forall₂ (Node.Alike likeness false)
      (if usesProvider then [Node.call provideComponents []] else [])
      (if usesProvider then [Node.call provideComponents []] else []) := by
    cases usesProvider with
    | true => exact .cons (.of_made false rfl) .nil
    | false => exact .nil
  have props : List.Forall₂ (Node.Alike likeness false) props.toList otherProps.toList := by
    cases readings with
    | none => exact .nil
    | some alike => exact .cons alike .nil
  exact Node.objectLiteral_alike (List.rel_append (nodes_alike fallbacks)
    (List.rel_map (fun _ _ alike => spread alike)
    (List.rel_append provided (List.rel_map (fun _ _ alike => given alike) props))))

/-- What is found in functions that are alike is declared in the same way. -/
theorem Alike.declarations (usesProvider : Bool) {props otherProps : Option Node}
    (readings : Option.Rel (Node.Alike likeness false) props otherProps) :
    List.Forall₂ (Node.Alike likeness false) (findings.declarations usesProvider props)
      (others.declarations usesProvider otherProps) := by
  have empty {names others : List Scalar} (scalars : List.Forall₂ likeness.scalars names others) :
      others = [] ↔ names = [] := by
    cases scalars <;> simp
  refine .cons (Node.constDeclaration_alike (.node (Node.identifier_alike _))
    (.node (alike.componentsLiteral usesProvider readings))) ?_
  simp only [empty alike.components, empty alike.objects]
  split
  · exact .nil
  · exact .cons (Node.constDeclaration_alike (.node alike.bindingPattern) (.node (Node.identifier_alike _))) .nil

end Findings

/-- Frames of functions of which both or neither is an entry point, with names that are alike in each of their
sets. -/
structure Frame.Alike (likeness : Likeness) (frame other : Frame) : Prop where
  isEntryPoint : other.isEntryPoint = frame.isEntryPoint
  get (part : Frame.Part) : (frame.get part).Alike likeness (other.get part)

namespace Frame

variable {frame other : Frame} (alike : frame.Alike likeness other)

include alike

theorem Alike.findings : frame.findings.Alike likeness other.findings :=
  ⟨alike.get .tags, alike.get .components, alike.get .objects⟩

theorem Alike.isEmpty : other.isEmpty = frame.isEmpty := by
  have objects := (alike.get .objects).isEmpty
  have components := (alike.get .components).isEmpty
  have tags := (alike.get .tags).isEmpty
  unfold Frame.isEmpty
  exact congrArg₂ _ (congrArg₂ _ objects components) tags

theorem Alike.insert (part : Frame.Part) {name changed : Scalar} (scalars : likeness.scalars name changed) :
    (frame.insert part name).Alike likeness (other.insert part changed) := by
  have inserted := (alike.get part).insert scalars
  refine ⟨by cases part <;> exact alike.isEntryPoint, fun place => ?_⟩
  have kept := alike.get place
  cases part <;> cases place <;> assumption

end Frame

end Findings

end JsxRouting
