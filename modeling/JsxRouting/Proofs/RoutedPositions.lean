import JsxRouting.Proofs.FoundNames
import JsxRouting.Proofs.RoutingAlone

namespace JsxRouting

theorem Place.inField_part (place : Place) (fields : List (Field × Value)) {field : Field}
    (isPart : field = .openingElement ∨ field = .closingElement) :
    place.inField .jsxElement fields true field = some .routedPart := by
  obtain rfl | rfl := isPart <;> simp [inField]

namespace Node

/-- The node at a position, with its place, if the walk in a function comes to it. -/
def reach? (place : Place) (node : Node) : Position → Option (Place × Node)
  | [] => some (place, node)
  | branch :: rest =>
    match place.inField node.kind node.fields node.isRouted branch.field, node.child? branch with
    | some inner, some child => child.reach? (branch.place inner) rest
    | _, _ => none

theorem reach?_cons_eq_some {node target : Node} {place inner : Place} {branch : Branch} {rest : Position} :
    node.reach? place (branch :: rest) = some (inner, target) ↔
      ∃ field child, place.inField node.kind node.fields node.isRouted branch.field = some field ∧
        node.child? branch = some child ∧ child.reach? (branch.place field) rest = some (inner, target) := by
  rw [reach?]
  cases place.inField node.kind node.fields node.isRouted branch.field with
  | none => simp
  | some field => cases node.child? branch <;> simp

theorem at?_of_reach? {node target : Node} {place inner : Place} {position : Position}
    (reached : node.reach? place position = some (inner, target)) : node.at? position = some target := by
  induction position generalizing node place with
  | nil =>
    cases reached
    rfl
  | cons branch rest ih =>
    obtain ⟨field, child, _, isChild, reachedChild⟩ := reach?_cons_eq_some.mp reached
    exact at?_cons_eq_some.mpr ⟨child, isChild, ih reachedChild⟩

theorem mem_jsxElementsInItems {replaced : Node → Bool} {items : List Value} {child element : Node}
    (listed : Value.node child ∈ items) (member : element ∈ child.jsxElements replaced .plain) :
    element ∈ jsxElementsInItems replaced items := by
  induction items with
  | nil => cases listed
  | cons item rest ih =>
    obtain rfl | inRest := List.mem_cons.mp listed
    · rw [jsxElementsInItems]
      exact List.mem_append_left _ member
    · cases item with
      | node other =>
        rw [jsxElementsInItems]
        exact List.mem_append_right _ (ih inRest)
      | scalar | list | object => exact ih inRest

theorem mem_jsxElements_of_follow {replaced : Node → Bool} {value : Value} {child element : Node} {place : Place}
    {branch : Branch} (leads : branch.follow value = some child)
    (member : element ∈ child.jsxElements replaced (branch.place place)) :
    element ∈ value.jsxElements replaced place := by
  cases branch with
  | direct field =>
    cases value with
    | node other =>
      cases Option.some.inj leads
      exact member
    | scalar | list | object => cases leads
  | item field index =>
    cases value with
    | list items =>
      obtain ⟨item, there, isNode⟩ := Option.bind_eq_some_iff.mp leads
      cases item with
      | node other =>
        cases Option.some.inj isNode
        exact mem_jsxElementsInItems (List.mem_of_getElem? there) member
      | scalar | list | object => cases isNode
    | scalar | object | node => cases leads

theorem mem_jsxElementsInFields {replaced : Node → Bool} {placeOf : Field → Option Place}
    {fields : List (Field × Value)} {field : Field} {value : Value} {place : Place} {element : Node}
    (there : fields.lookup field = some value) (placed : placeOf field = some place)
    (member : element ∈ value.jsxElements replaced place) :
    element ∈ jsxElementsInFields replaced placeOf fields := by
  induction fields with
  | nil => cases there
  | cons entry rest ih =>
    obtain ⟨first, old⟩ := entry
    rw [jsxElementsInFields]
    rw [List.lookup_cons] at there
    cases here : field == first with
    | true =>
      rw [here] at there
      cases Option.some.inj there
      rw [← beq_iff_eq.mp here, placed]
      exact List.mem_append_left _ member
    | false =>
      rw [here] at there
      exact List.mem_append_right _ (ih there)

/-- An element to which the walk comes is among the elements of the function. -/
theorem mem_jsxElements_of_reach? {node element : Node} {place inner : Place} {position : Position}
    (reached : node.reach? place position = some (inner, element)) (isElement : element.kind = .jsxElement) :
    element ∈ node.jsxElements Node.isRouted place := by
  induction position generalizing node place with
  | nil =>
    cases reached
    obtain ⟨kind, fields, extra, attached⟩ := element
    cases isElement
    rw [jsxElements, if_pos rfl]
    exact List.mem_append_left _ (List.mem_singleton_self _)
  | cons branch rest ih =>
    obtain ⟨field, child, placed, isChild, reachedChild⟩ := reach?_cons_eq_some.mp reached
    obtain ⟨value, isValue, leads⟩ := child?_eq_some.mp isChild
    obtain ⟨kind, fields, extra, attached⟩ := node
    rw [jsxElements]
    exact List.mem_append_right _
      (mem_jsxElementsInFields isValue placed (mem_jsxElements_of_follow leads (ih reachedChild)))

/-- The name in the opening part of an element. -/
def elementName? (element : Node) : Option Value :=
  match element.get? .openingElement with
  | some (.node opening) => opening.get? .name
  | _ => none

/-- The opening name of an element that is a tag is classified as that tag. -/
theorem classify_of_tag? {element : Node} {tag : Scalar} (tagged : element.tag? = some tag) :
    ∃ opening name explicit, element.get? .openingElement = some (.node opening) ∧ opening.get? .name = some name ∧
      classify name explicit = .ok (.tag (.scalar tag)) :=
  exists_classify_of_nameUse (tag?_eq_some.mp tagged)

theorem elementName?_of_tag? {element : Node} {tag : Scalar} (tagged : element.tag? = some tag) :
    ∃ opening name, element.get? .openingElement = some (.node opening) ∧ opening.get? .name = some name := by
  obtain ⟨opening, name, _, isOpening, isName, _⟩ := classify_of_tag? tagged
  exact ⟨opening, name, isOpening, isName⟩

/-- Where another node is put in place of the one in a field, branches find it or what they found. -/
theorem child?_set_node {node old child : Node} {field : Field} {branch : Branch} (after : Node)
    (isOld : node.get? field = some (.node old)) (isChild : node.child? branch = some child) :
    (branch = .direct field ∧ child = old ∧ (node.set field (.node after)).child? branch = some after) ∨
      (branch.field ≠ field ∧ (node.set field (.node after)).child? branch = some child) := by
  obtain ⟨value, isValue, leads⟩ := child?_eq_some.mp isChild
  by_cases here : branch.field = field
  · subst here
    cases Option.some.inj ((get?_of_lookup isValue).symm.trans isOld)
    cases branch with
    | direct field =>
      cases Option.some.inj leads
      exact .inl ⟨rfl, rfl, child?_eq_some.mpr ⟨_, lookup_set_self _ isValue, rfl⟩⟩
    | item field index => cases leads
  · refine .inr ⟨here, child?_eq_some.mpr ⟨value, ?_, leads⟩⟩
    rwa [lookup_set_of_ne _ _ here]

/-- Routing an element exchanges at most the names of its parts. -/
theorem child?_route {element after child : Node} {tag : Value} {branch : Branch}
    (routed : element.route tag = .ok after) (isChild : element.child? branch = some child) :
    ∃ other, after.child? branch = some other ∧
      (other = child ∨ (branch = .direct .openingElement ∨ branch = .direct .closingElement) ∧
        ∃ name, other = child.set .name name) := by
  obtain ⟨opening, name, closing, isOpening, _, isClosing, routed⟩ := route_cases routed
  have opened : ∃ other,
      (element.set .openingElement (.node (opening.set .name (.node (routedName name))))).child?
        branch = some other ∧
        (other = child ∨ branch = .direct .openingElement ∧ ∃ name, other = child.set .name name) := by
    obtain ⟨rfl, rfl, there⟩ | ⟨_, there⟩ :=
      child?_set_node (opening.set .name (.node (routedName name))) isOpening isChild
    · exact ⟨_, there, .inr ⟨rfl, _, rfl⟩⟩
    · exact ⟨child, there, .inl rfl⟩
  obtain ⟨other, isOther, renames⟩ := opened
  obtain ⟨_, rfl⟩ | ⟨part, rfl, rfl⟩ := routed
  · exact ⟨other, isOther, renames.imp_right fun ⟨here, named⟩ => ⟨.inl here, named⟩⟩
  · have isPart := (get?_set_of_ne element (.node (opening.set .name (.node (routedName name))))
      (show Field.closingElement ≠ .openingElement by decide)).trans isClosing
    obtain ⟨rfl, rfl, there⟩ | ⟨_, there⟩ :=
      child?_set_node (part.set .name (.node (routedName (.node (.make .jsxIdentifier [(.name, tag)]))))) isPart
        isOther
    · obtain rfl | ⟨isOpening, _⟩ := renames
      · exact ⟨_, there, .inr ⟨.inr rfl, _, rfl⟩⟩
      · cases isOpening
    · exact ⟨other, there, renames.imp_right fun ⟨here, named⟩ => ⟨.inl here, named⟩⟩

/-- What routing makes of a node to which the walk comes is found at the position of the node, with another
name perhaps. -/
theorem at?_routing {node after target : Node} {place inner : Place} {position : Position}
    (run : node.transform routing place = .ok after) (reached : node.reach? place position = some (inner, target)) :
    ∃ routed found, target.transform routing inner = .ok routed ∧ after.at? position = some found ∧
      (found = routed ∨ ∃ name, found = routed.set .name name) := by
  induction position generalizing node place after with
  | nil =>
    cases reached
    exact ⟨after, after, run, rfl, .inl rfl⟩
  | cons branch rest ih =>
    obtain ⟨field, child, placed, isChild, reached⟩ := reach?_cons_eq_some.mp reached
    obtain ⟨fields, ran, outcome⟩ := routing_cases run
    rw [transformFields_eq] at ran
    obtain ⟨other, isOther, ranChild⟩ := (visitFields_relate ran).child isChild placed
    obtain ⟨_, rfl⟩ | ⟨tag, isRouted, _, routed⟩ := outcome
    · obtain ⟨routed, found, ranTarget, there, same⟩ := ih ranChild reached
      exact ⟨routed, found, ranTarget, at?_cons_eq_some.mpr ⟨other, isOther, there⟩, same⟩
    · obtain ⟨exchanged, isExchanged, rfl | ⟨isPart, name, rfl⟩⟩ := child?_route routed isOther
      · obtain ⟨routed, found, ranTarget, there, same⟩ := ih ranChild reached
        exact ⟨routed, found, ranTarget, at?_cons_eq_some.mpr ⟨_, isExchanged, there⟩, same⟩
      · cases rest with
        | nil =>
          cases reached
          exact ⟨other, _, ranChild, at?_cons_eq_some.mpr ⟨_, isExchanged, rfl⟩, .inr ⟨name, rfl⟩⟩
        | cons next below =>
          obtain ⟨routed, found, ranTarget, there, same⟩ := ih ranChild reached
          have isRoutedPart : branch.place field = .routedPart := by
            rw [kind_of_isRouted isRouted, isRouted] at placed
            obtain rfl | rfl := isPart
            · exact (Option.some.inj (placed.symm.trans (Place.inField_part place _ (.inl rfl))))
            · exact (Option.some.inj (placed.symm.trans (Place.inField_part place _ (.inr rfl))))
          have elsewhere : next.field ≠ .name := by
            rintro isName
            obtain ⟨_, _, placedNext, _, _⟩ := reach?_cons_eq_some.mp reached
            rw [isRoutedPart, isName] at placedNext
            cases placedNext
          rw [← at?_cons_set_of_ne other name below elsewhere] at there
          exact ⟨routed, found, ranTarget, at?_cons_eq_some.mpr ⟨_, isExchanged, there⟩, same⟩

/-- Where names are not entered, routing keeps them. -/
theorem get?_name_routing {node after : Node} (run : node.transform routing .routedPart = .ok after) :
    after.get? .name = node.get? .name := by
  obtain ⟨fields, ran, outcome⟩ := routing_cases run
  rw [transformFields_eq] at ran
  have same : (Node.mk node.kind fields node.extra node.attached).get? .name = node.get? .name := by
    obtain same | ⟨value, other, isValue, isOther, values⟩ := (visitFields_relate ran).get?_cases .name
    · exact same
    · have hidden : Place.routedPart.inField node.kind node.fields node.isRouted .name = none := rfl
      rw [hidden] at values
      cases values
      rw [isOther, isValue]
  obtain ⟨_, rfl⟩ | ⟨tag, _, _, routed⟩ := outcome
  · exact same
  · obtain ⟨_, _, _, _, _, _, ⟨_, rfl⟩ | ⟨_, _, rfl⟩⟩ := route_cases routed
    · rw [get?_set_of_ne _ _ (by decide), same]
    · rw [get?_set_of_ne _ _ (by decide), get?_set_of_ne _ _ (by decide), same]

/-- The parts of a routed element are routed, but for their names. -/
theorem part_routing {element part : Node} {place : Place} {fields : List (Field × Value)} {field : Field}
    (isRouted : element.isRouted = true)
    (ran : transformFields routing (place.inField element.kind element.fields element.isRouted)
      element.fields = .ok fields)
    (inElement : field = .openingElement ∨ field = .closingElement)
    (isPart : (mk element.kind fields element.extra element.attached).get? field = some (.node part)) :
    ∃ old, element.get? field = some (.node old) ∧ part.get? .name = old.get? .name ∧
      (part = old ∨ old.transform routing .routedPart = .ok part) := by
  rw [transformFields_eq] at ran
  obtain same | ⟨value, other, isValue, isOther, values⟩ := (visitFields_relate ran).get?_cases field
  · exact ⟨part, same.symm.trans isPart, rfl, .inl rfl⟩
  · cases isOther.symm.trans isPart
    rw [kind_of_isRouted isRouted, isRouted, Place.inField_part place _ inElement] at values
    cases values with
    | node ranPart => exact ⟨_, isValue, get?_name_routing ranPart, .inr ranPart⟩

/-- A routed tag has the member of the components object for its name. -/
theorem elementName?_routing {element after : Node} {place : Place} {tag : Scalar}
    (run : element.transform routing place = .ok after) (isElement : element.kind = .jsxElement)
    (tagged : element.tag? = some tag) :
    after.elementName? = element.elementName?.map fun name => .node (routedName name) := by
  have isRouted : element.isRouted = true := by simp [Node.isRouted, is, isElement, tagged]
  obtain ⟨fields, ran, ⟨notRouted, _⟩ | ⟨_, _, _, routed⟩⟩ := routing_cases run
  · rw [isRouted] at notRouted
    cases notRouted
  obtain ⟨part, name, _, isPart, isPartName, _, routed⟩ := route_cases routed
  obtain ⟨opening, isOpening, sameName, _⟩ := part_routing isRouted ran (.inl rfl) isPart
  have named : element.elementName? = some name := by simp only [elementName?, isOpening, ← sameName, isPartName]
  rw [named]
  obtain ⟨_, rfl⟩ | ⟨_, _, rfl⟩ := routed
  · simp [elementName?]
  · simp [elementName?, get?_set_of_ne]

/-- A tag to which the walk comes is found routed at its position. -/
theorem at?_routing_of_tag? {node after element : Node} {place inner : Place} {position : Position} {tag : Scalar}
    (run : node.transform routing place = .ok after) (reached : node.reach? place position = some (inner, element))
    (isElement : element.kind = .jsxElement) (tagged : element.tag? = some tag) :
    ∃ found, after.at? position = some found ∧ found.kind = .jsxElement ∧
      found.elementName? = element.elementName?.map fun name => .node (routedName name) := by
  obtain ⟨routed, found, ran, there, rfl | ⟨name, rfl⟩⟩ := at?_routing run reached
  · exact ⟨_, there, (kind_routing ran).trans isElement, elementName?_routing ran isElement tagged⟩
  · refine ⟨_, there, by rw [kind_set, kind_routing ran, isElement], ?_⟩
    rw [← elementName?_routing ran isElement tagged]
    simp only [elementName?, get?_set_of_ne routed name (show Field.openingElement ≠ .name by decide)]

end Node

end JsxRouting
