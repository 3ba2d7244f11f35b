import JsxRouting.Pass.Visiting
import JsxRouting.Proofs.KeptTopScope
import JsxRouting.Proofs.ReachedElements

namespace JsxRouting

/-- The closing part of an element. -/
structure ClosingPart where
  name : Value
  extra : Value
  attached : Entries Value

/-- The parts of an element whose name is an identifier. -/
structure NamedElement where
  name : String
  nameExtra : Value
  nameAttached : Entries Value
  attributes : Value
  selfClosing : Value
  openingExtra : Value
  openingAttached : Entries Value
  children : Value
  closing : Option ClosingPart
  explicit : Value
  extra : Value
  attached : Entries Value

namespace NamedElement

variable (element : NamedElement)

def identifier : Node := .mk .jsxIdentifier [(.name, .text element.name)] element.nameExtra element.nameAttached

/-- The element under other names. -/
def under (opened : Node) (closed : Value → Value) : Node :=
  .mk .jsxElement
    [(.openingElement, .node (.mk .jsxOpeningElement
        [(.name, .node opened), (.attributes, element.attributes), (.selfClosing, element.selfClosing)]
        element.openingExtra element.openingAttached)),
      (.children, element.children),
      (.closingElement, match element.closing with
        | none => .null
        | some part => .node (.mk .jsxClosingElement [(.name, closed part.name)] part.extra part.attached)),
      (.explicit, element.explicit)]
    element.extra element.attached

def node : Node := element.under element.identifier id

/-- The element when it is routed under its name. -/
def routed : Node :=
  element.under (routedName (.node element.identifier)) fun _ =>
    .node (routedName (.node (.mk .jsxIdentifier [(.name, .text element.name)] (.object []) [])))

theorem route : element.node.route (.text element.name) = .ok element.routed := by
  obtain ⟨_, _, _, _, _, _, _, _, closing, _, _, _⟩ := element
  cases closing <;> rfl

end NamedElement

namespace Node

/-- Whether a node has fields of their declared forms, and only texts in them if it is an identifier. -/
def hasDeclaredNames (node : Node) : Bool :=
  node.hasDeclaredForms && (!node.is .identifier || node.fields.all fun entry => entry.2.isText)

theorem hasDeclaredForms_of_hasDeclaredNames (node : Node) (named : node.hasDeclaredNames = true) :
    node.hasDeclaredForms = true := (Bool.and_eq_true_iff.mp named).1

theorem routedDepth_fields_lt (node : Node) : routedDepthOfFields node.fields < node.routedDepth := by
  cases node
  rw [routedDepth]
  exact Nat.lt_succ_of_le (Nat.le_max_left ..)

/-- A name that is an identifier, with nothing but its text. -/
theorem exists_identifierName {node : Node} (formed : node.all hasDeclaredForms = true)
    (isIdentifier : node.kind = .jsxIdentifier) :
    ∃ name, node = .mk .jsxIdentifier [(.name, .text name)] node.extra node.attached := by
  obtain ⟨kind, fields, extra, attached⟩ := node
  obtain rfl : kind = .jsxIdentifier := isIdentifier
  obtain ⟨own, admitted⟩ := Bool.and_eq_true_iff.mp (check_of_all formed)
  have names : fields.map (·.1) = [.name] := beq_iff_eq.mp own
  obtain ⟨⟨_, name⟩, rfl, rfl⟩ := List.map_eq_singleton_iff.mp names
  obtain ⟨text, rfl⟩ := Value.exists_of_isText (List.all_eq_true.mp admitted _ (List.mem_singleton_self _))
  exact ⟨text, rfl⟩

/-- What is told by the form of an opening part. -/
theorem exists_openingParts {node : Node} (own : node.hasOwnFields = true)
    (isOpening : node.kind = .jsxOpeningElement) :
    ∃ name attributes selfClosing, node = .mk .jsxOpeningElement
      [(.name, name), (.attributes, attributes), (.selfClosing, selfClosing)] node.extra node.attached := by
  obtain ⟨kind, fields, extra, attached⟩ := node
  obtain rfl : kind = .jsxOpeningElement := isOpening
  have names : fields.map (·.1) = [.name, .attributes, .selfClosing] := beq_iff_eq.mp own
  obtain ⟨⟨_, name⟩, others, rfl, rfl, otherNames⟩ := List.map_eq_cons_iff.mp names
  obtain ⟨⟨_, attributes⟩, last, rfl, rfl, lastName⟩ := List.map_eq_cons_iff.mp otherNames
  obtain ⟨⟨_, selfClosing⟩, rfl, rfl⟩ := List.map_eq_singleton_iff.mp lastName
  exact ⟨name, attributes, selfClosing, rfl⟩

/-- What is told by the form of an element. -/
theorem exists_elementParts {node : Node} (own : node.hasOwnFields = true) (isElement : node.kind = .jsxElement) :
    ∃ opening children closing explicit, node = .mk .jsxElement
      [(.openingElement, opening), (.children, children), (.closingElement, closing), (.explicit, explicit)]
      node.extra node.attached := by
  obtain ⟨kind, fields, extra, attached⟩ := node
  obtain rfl : kind = .jsxElement := isElement
  have names : fields.map (·.1) = [.openingElement, .children, .closingElement, .explicit] := beq_iff_eq.mp own
  obtain ⟨⟨_, opening⟩, others, rfl, rfl, otherNames⟩ := List.map_eq_cons_iff.mp names
  obtain ⟨⟨_, children⟩, rest, rfl, rfl, restNames⟩ := List.map_eq_cons_iff.mp otherNames
  obtain ⟨⟨_, closing⟩, last, rfl, rfl, lastName⟩ := List.map_eq_cons_iff.mp restNames
  obtain ⟨⟨_, explicit⟩, rfl, rfl⟩ := List.map_eq_singleton_iff.mp lastName
  exact ⟨opening, children, closing, explicit, rfl⟩

/-- What is told by the form of a closing part. -/
theorem exists_closingPart {node : Node} (own : node.hasOwnFields = true)
    (isClosing : node.kind = .jsxClosingElement) :
    ∃ name, node = .mk .jsxClosingElement [(.name, name)] node.extra node.attached := by
  obtain ⟨kind, fields, extra, attached⟩ := node
  obtain rfl : kind = .jsxClosingElement := isClosing
  have names : fields.map (·.1) = [.name] := beq_iff_eq.mp own
  obtain ⟨⟨_, name⟩, rfl, rfl⟩ := List.map_eq_singleton_iff.mp names
  exact ⟨name, rfl⟩

/-- An element that is a tag has an opening part with an identifier for a name, and a closing part or none. -/
theorem exists_namedElement {element : Node} {tag : Scalar} (formed : element.all hasDeclaredForms = true)
    (isElement : element.kind = .jsxElement) (tagged : element.routingTag = .ok (some tag)) :
    ∃ parts : NamedElement, element = parts.node ∧ tag = .text parts.name := by
  have own {node : Node} (formed : node.all hasDeclaredForms = true) : node.hasOwnFields = true :=
    (Bool.and_eq_true_iff.mp (check_of_all formed)).1
  obtain ⟨opening, children, closing, explicit, isParts⟩ := exists_elementParts (own formed) isElement
  rw [isParts] at formed tagged
  have admitted := List.all_eq_true.mp (Bool.and_eq_true_iff.mp (check_of_all formed)).2
  have openingFormed := all_of_mem_fields (allInFields_of_all formed) (List.mem_of_getElem? (i := 0) rfl)
  have closingFormed := all_of_mem_fields (allInFields_of_all formed) (List.mem_of_getElem? (i := 2) rfl)
  obtain ⟨part, isPart⟩ := Option.isSome_iff_exists.mp (admitted _ (List.mem_of_getElem? (i := 0) rfl))
  obtain ⟨rfl, isOpening⟩ := Value.nodeOf?_eq_some.mp isPart
  obtain ⟨name, attributes, selfClosing, isPart⟩ := exists_openingParts (own openingFormed) isOpening
  rw [isPart] at tagged isParts openingFormed
  obtain ⟨_, _, _, same, isName, isTag⟩ := classify_of_tag? (tag?_of_routingTag tagged)
  cases same
  cases isName
  obtain ⟨node, rfl, isIdentifier, isTagName⟩ := identifier_of_classify isTag
  have nameFormed := all_of_mem_fields (allInFields_of_all openingFormed) (List.mem_of_getElem? (i := 0) rfl)
  obtain ⟨text, isText⟩ := exists_identifierName nameFormed isIdentifier
  rw [isText] at isParts isTagName
  cases isTagName
  let parts (closing : Option ClosingPart) : NamedElement :=
    { name := text, nameExtra := node.extra, nameAttached := node.attached, attributes, selfClosing,
      openingExtra := part.extra, openingAttached := part.attached, children, closing, explicit,
      extra := element.extra, attached := element.attached }
  obtain isNull | isPart := Bool.or_eq_true_iff.mp (admitted _ (List.mem_of_getElem? (i := 2) rfl))
  · obtain rfl := Value.eq_null_of_isNull isNull
    exact ⟨parts none, isParts, rfl⟩
  · obtain ⟨part, isPart⟩ := Option.isSome_iff_exists.mp isPart
    obtain ⟨rfl, isClosing⟩ := Value.nodeOf?_eq_some.mp isPart
    obtain ⟨name, isPart⟩ := exists_closingPart (own closingFormed) isClosing
    rw [isPart] at isParts
    exact ⟨parts (some ⟨name, part.extra, part.attached⟩), isParts, rfl⟩

end Node

namespace Pass

variable (pass : Pass)

/-- What is neither a function nor an element is gone through field by field. -/
theorem transform_plain {kind : Kind} (noFunction : kind.isFunction = false) (noElement : kind ≠ .jsxElement)
    (place : Place) (fields : List (Field × Value)) (extra : Value) (attached : Entries Value) :
    (Node.mk kind fields extra attached).transform pass.transformer place = (do
      return .mk kind (← transformFields pass.transformer (place.inField kind fields false) fields)
        extra attached) := by
  have plain (fields : List (Field × Value)) : (Node.mk kind fields extra attached).isFunction = false := noFunction
  have entered : pass.transformer.enter place (.mk kind fields extra attached) = pure none := by
    funext progress
    simp only [transformer, enter, plain, Node.is, Node.kind, beq_eq_false_iff_ne.mpr noElement, Bool.false_eq_true,
      if_false]
    rfl
  have left (others : List (Field × Value)) :
      pass.transformer.leave place none (.mk kind others extra attached) =
        pure (.mk kind others extra attached) := by
    simp only [transformer, leave, plain, Bool.false_eq_true, if_false]
  rw [Node.transform, entered, pure_bind]
  exact bind_congr left

/-- Nothing is done in a new name. -/
theorem transform_routedName {name : Scalar} {extra : Value} {attached : Entries Value} :
    (routedName (.node (.mk .jsxIdentifier [(.name, .scalar name)] extra attached))).transform
      pass.transformer .plain =
      pure (routedName (.node (.mk .jsxIdentifier [(.name, .scalar name)] extra attached))) := rfl

variable {pass}

theorem kind_leaveFunction {place : Place} {function after : Node} {progress left : Progress}
    (ran : pass.leaveFunction place function progress = .ok (after, left)) : after.kind = function.kind := by
  unfold leaveFunction at ran
  split at ran
  · cases ran
  · split at ran
    · obtain ⟨injected, isInjected, ran⟩ := bind_eq_ok_iff.mp ran
      cases injected with
      | none =>
        cases ran
        rfl
      | some injected =>
        cases ran
        rw [Node.injectDeclarations_eq] at isInjected
        split at isInjected
        · cases isInjected
        · obtain ⟨prepared, ready, isInjected⟩ := bind_eq_ok_iff.mp isInjected
          obtain ⟨changed, prepended, isInjected⟩ := bind_eq_ok_iff.mp isInjected
          cases isInjected
          obtain ⟨_, read⟩ := Node.prepare_from ready
          exact (Node.kind_prependToBody prepended).trans read.kind
    · cases ran
      rfl

/-- No node becomes one of another kind. -/
theorem kind_transform {node after : Node} {place : Place} {progress left : Progress}
    (ran : node.transform pass.transformer place progress = .ok (after, left)) : after.kind = node.kind := by
  obtain ⟨kind, fields, extra, attached⟩ := node
  rw [pass.transform_mk] at ran
  obtain ⟨⟨tag, entered⟩, _, ran⟩ := bind_eq_ok_iff.mp ran
  obtain ⟨⟨others, walked⟩, _, ran⟩ := bind_eq_ok_iff.mp ran
  cases tag with
  | some tag =>
    change ((Node.mk kind others extra attached).route (.scalar tag) >>= fun after =>
      .ok (after, walked)) = _ at ran
    obtain ⟨routed, isRouted, same⟩ := bind_eq_ok_iff.mp ran
    cases same
    exact (Node.kind_route isRouted).trans rfl
  | none =>
    simp only [leave] at ran
    split at ran
    · exact (kind_leaveFunction ran).trans rfl
    · cases ran
      rfl

/-- Nothing is done with texts. -/
theorem transformFields_texts (placeOf : Field → Option Place) {fields : List (Field × Value)}
    (texts : (fields.all fun entry => entry.2.isText) = true) :
    transformFields pass.transformer placeOf fields = pure fields := by
  induction fields with
  | nil => rfl
  | cons entry rest ih =>
    obtain ⟨field, value⟩ := entry
    rw [List.all_cons, Bool.and_eq_true] at texts
    obtain ⟨text, rfl⟩ := Value.exists_of_isText texts.1
    rw [transformFields, ih texts.2]
    cases placeOf field <;> rfl

/-- What a value gives to what stands beside it stays the same. -/
theorem givenName?_transform {value after : Value} {progress left : Progress}
    (named : value.all Node.hasDeclaredNames = true)
    (ran : value.transform pass.transformer .plain progress = .ok (after, left)) :
    after.givenName? = value.givenName? := by
  cases value with
  | node child =>
    obtain ⟨⟨changed, _⟩, ran, same⟩ := bind_eq_ok_iff.mp ran
    cases same
    by_cases isIdentifier : child.kind = .identifier
    · obtain ⟨kind, fields, extra, attached⟩ := child
      obtain rfl : kind = .identifier := isIdentifier
      have texts : (fields.all fun entry => entry.2.isText) = true :=
        (Bool.and_eq_true_iff.mp (Node.check_of_all (show Node.all Node.hasDeclaredNames _ = true from named))).2
      rw [pass.transform_plain rfl (by decide), transformFields_texts _ texts] at ran
      cases ran
      rfl
    · have others {node : Node} (sameKind : node.kind = child.kind) : (Value.node node).givenName? = none := by
        simp [Value.givenName?, Value.nodeOf?, Node.is, sameKind, isIdentifier]
      rw [others (kind_transform ran), others rfl]
  | list items =>
    obtain ⟨_, _, same⟩ := bind_eq_ok_iff.mp ran
    cases same
    rfl
  | scalar | object =>
    cases ran
    rfl

end Pass

namespace NamedElement

variable (element : NamedElement) (pass : Pass)

/-- Goes through the parts of an element other than its names. -/
def transform : PassM NamedElement := do
  let attributes ← element.attributes.transform pass.transformer .plain
  let selfClosing ← element.selfClosing.transform pass.transformer .plain
  let children ← element.children.transform pass.transformer .plain
  let explicit ← element.explicit.transform pass.transformer .plain
  return { element with attributes, selfClosing, children, explicit }

theorem transformFields_node (place : Place) :
    transformFields pass.transformer (place.inField element.node.kind element.node.fields true)
      element.node.fields = (do return (← element.transform pass).node.fields) := by
  have opening := @pass.transform_plain .jsxOpeningElement rfl (by decide) .routedPart
  have closing := @pass.transform_plain .jsxClosingElement rfl (by decide) .routedPart
  obtain ⟨_, _, _, _, _, _, _, _, part, _, _, _⟩ := element
  cases part <;>
    simp [node, under, Node.kind, Node.fields, transform, transformFields, Value.transform, opening,
      closing, Place.inField, Place.hidesName, identifier]

theorem transformFields_routed :
    transformFields pass.transformer (Place.plain.inField element.routed.kind element.routed.fields false)
      element.routed.fields = (do return (← element.transform pass).routed.fields) := by
  have opening := @pass.transform_plain .jsxOpeningElement rfl (by decide) .plain
  have closing := @pass.transform_plain .jsxClosingElement rfl (by decide) .plain
  obtain ⟨_, _, _, _, _, _, _, _, part, _, _, _⟩ := element
  cases part <;>
    simp [routed, under, Node.kind, Node.fields, transform, transformFields, Value.transform, opening,
      closing, Place.inField, Place.hidesName, pass.transform_routedName, identifier]

/-- When an element is left that was chosen for routing, it is made what it would be if it had been routed
before. -/
theorem leave_node (place : Place) :
    pass.leave place (some (.text element.name)) element.node = pass.leave place none element.routed := by
  rw [Pass.leave, element.route]
  rfl

/-- Whether the names of an element are exchanged before or after all else in it makes no difference. -/
theorem transform_ahead (place : Place) :
    (do
      let fields ← transformFields pass.transformer (place.inField element.node.kind element.node.fields true)
        element.node.fields
      pass.leave place (some (.text element.name))
        (.mk element.node.kind fields element.node.extra element.node.attached)) =
    (do
      let fields ← transformFields pass.transformer
        (Place.plain.inField element.routed.kind element.routed.fields false) element.routed.fields
      pass.leave place none (.mk element.routed.kind fields element.routed.extra element.routed.attached)) := by
  rw [element.transformFields_node, element.transformFields_routed]
  simp only [transform, bind_assoc, pure_bind]
  refine bind_congr fun attributes => bind_congr fun selfClosing => bind_congr fun children =>
    bind_congr fun explicit => ?_
  exact leave_node { element with attributes, selfClosing, children, explicit } pass place

theorem all_routedName (name : String) (extra : Value) (attached : Entries Value) :
    (routedName (.node (.mk .jsxIdentifier [(.name, .text name)] extra attached))).all
      Node.hasDeclaredNames = true :=
  rfl

/-- How deep an element is, told part by part. -/
theorem routedDepth_under_le_iff {opened : Node} {closed : Value → Value} {bound : Nat} :
    (element.under opened closed).routedDepth ≤ bound ↔
      4 ≤ bound ∧ opened.routedDepth + 2 ≤ bound ∧ element.attributes.routedDepth + 2 ≤ bound ∧
        element.selfClosing.routedDepth + 2 ≤ bound ∧ element.children.routedDepth + 1 ≤ bound ∧
        (∀ part ∈ element.closing, (closed part.name).routedDepth + 2 ≤ bound) ∧
        element.explicit.routedDepth + 1 ≤ bound := by
  obtain ⟨_, _, _, _, _, _, _, _, part, _, _, _⟩ := element
  cases part <;>
    simp only [under, routedDepthOfFields, Value.routedDepth, Node.routedDepth, if_true, if_false, reduceCtorEq,
      Nat.max_zero, Nat.zero_max, ← Nat.add_max_add_right, Nat.max_le, Option.mem_def, Option.some.injEq,
      forall_eq', false_implies, implies_true, true_and] <;>
    omega

/-- An element that is routed is no deeper for the walk. -/
theorem routedDepth_routed : element.routed.routedDepth ≤ element.node.routedDepth := by
  obtain ⟨four, _, attributes, selfClosing, children, _, explicit⟩ :=
    element.routedDepth_under_le_iff.mp (Nat.le_refl element.node.routedDepth)
  -- The new names are two nodes deep each.
  exact element.routedDepth_under_le_iff.mpr
    ⟨four, four, attributes, selfClosing, children, fun _ _ => four, explicit⟩

theorem all_routed (named : element.node.all Node.hasDeclaredNames = true) :
    element.routed.all Node.hasDeclaredNames = true := by
  have opening (name : Node) (attributes selfClosing extra : Value) (attached : Entries Value) :
      (Node.mk .jsxOpeningElement [(.name, .node name), (.attributes, attributes), (.selfClosing, selfClosing)]
        extra attached).hasDeclaredNames = true := rfl
  have closing (name extra : Value) (attached : Entries Value) :
      (Node.mk .jsxClosingElement [(.name, name)] extra attached).hasDeclaredNames = true := rfl
  have here : element.routed.hasDeclaredNames = true := by
    obtain ⟨_, _, _, _, _, _, _, _, part, _, _, _⟩ := element
    cases part <;> rfl
  refine Bool.and_eq_true_iff.mpr ⟨here, ?_⟩
  have named := Node.allInFields_of_all named
  obtain ⟨_, _, _, _, _, _, _, _, part, _, _, _⟩ := element
  cases part <;>
    simp_all [node, under, identifier, Node.fields, allInFields, Value.all, Node.all, all_routedName]

end NamedElement

end JsxRouting
