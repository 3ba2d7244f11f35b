import JsxRouting.Proofs.EqualTrees
import JsxRouting.Proofs.UntaggedElements

namespace JsxRouting

theorem Place.inField_name {place : Place} (visible : place.hidesName = false) (kind : Kind)
    (fields : List (Field × Value)) (routed : Bool) : place.inField kind fields routed .name = some .plain := by
  simp [inField, visible]

theorem Value.equals_iff {value other : Value} :
    value.equals other = true ↔ value ≠ .scalar (.real .nan) ∧ value.same other = true := by
  unfold equals
  split
  · simp
  · rename_i noNan
    exact (and_iff_right noNan).symm

namespace Node

/-- The name in a part of an element. -/
def partName? (element : Node) (field : Field) : Option Value :=
  match element.get? field with
  | some (.node part) => part.get? .name
  | _ => none

theorem partName?_eq_some {element : Node} {field : Field} {name : Value} :
    element.partName? field = some name ↔ ∃ part, element.get? field = some (.node part) ∧
      part.get? .name = some name := by
  unfold partName?
  constructor
  · intro isName
    split at isName
    · rename_i part isPart
      exact ⟨part, isPart, isName⟩
    · cases isName
  · rintro ⟨part, isPart, isName⟩
    rw [isPart]
    exact isName

/-- The opening and the closing name of an element are equal. -/
def HasEqualNames (element : Node) : Prop :=
  ∃ opening closing, element.elementName? = some opening ∧ element.closingName? = some closing ∧
    opening.equals closing = true

/-- How the names of a tag come out: the opening name is the member of the components object under the old name,
with all that was attached to it, and the closing name, if there is a closing part, the one under the name of the
tag. -/
structure NamesRouted (element after : Node) (tag : Scalar) : Prop where
  opening : ∃ name, element.elementName? = some (.node name) ∧ name.kind = .jsxIdentifier ∧
    name.get? .name = some (.scalar tag) ∧ after.elementName? = some (.node (routedName (.node name)))
  closing : ∀ part, element.get? .closingElement = some (.node part) →
    after.closingName? = some (.node (routedName (.node (.make .jsxIdentifier [(.name, .scalar tag)]))))
  unclosed : element.get? .closingElement = some .null → after.get? .closingElement = some .null

/-- Each name of an element is left as it was unless it is one of those that are `touched`. -/
structure NamesKept (touched : Value → Prop) (element after : Node) : Prop where
  opening : ∀ name, element.elementName? = some name → ¬ touched name → after.elementName? = some name
  closing : ∀ name, element.closingName? = some name → ¬ touched name → after.closingName? = some name
  unclosed : element.get? .closingElement = some .null → after.get? .closingElement = some .null

end Node

/-- A tag stands in the value, or is it. -/
def Value.HoldsTag (value : Value) : Prop := ∃ element ∈ value.jsxElements Node.isRouted .plain, element.tag? ≠ none

namespace Node

section Routing

variable {element after : Node} {place : Place}

/-- A node that has a name is no element and no function. -/
theorem kinds_of_name {node : Node} {name : Value} (ownFields : node.hasOwnFields = true)
    (isName : node.fields.lookup .name = some name) : node.kind ≠ .jsxElement ∧ ¬ node.isFunction = true := by
  have own : .name ∈ node.kind.fields := by
    rw [← beq_iff_eq.mp ownFields]
    exact List.mem_map_of_mem (mem_of_lookup isName)
  unfold isFunction
  generalize node.kind = kind at own
  revert own
  cases kind <;> decide

/-- What a field holds is routed where the field puts it, before any names are exchanged. -/
theorem get?_walked {node : Node} {place inner : Place} {field : Field} {value : Value}
    {fields : List (Field × Value)}
    (own : node.hasOnlyOwnFields = true)
    (placed : place.inField node.kind node.fields node.isRouted field = some inner)
    (ran : transformFields routing (place.inField node.kind node.fields node.isRouted) node.fields = .ok fields)
    (isValue : node.get? field = some value) :
    ∃ other, (mk node.kind fields node.extra node.attached).get? field = some other ∧
      value.transform routing inner = .ok other := by
  rw [get?_eq_lookup own] at isValue
  have visited := visited_transformFields ran field
  rw [isValue, placed] at visited
  generalize isOther : fields.lookup field = found at visited
  cases visited with
  | some ran => exact ⟨_, get?_of_lookup isOther, ran⟩

/-- The parts of an element that is no tag are routed like any other value. -/
theorem get?_part_routing {field : Field} {part : Value} (asRead : element.isAsRead = true)
    (isElement : element.kind = .jsxElement) (notRouted : element.isRouted = false)
    (inElement : field = .openingElement ∨ field = .closingElement)
    (run : element.transform routing place = .ok after)
    (isPart : element.get? field = some part) :
    ∃ other, after.get? field = some other ∧ part.transform routing .plain = .ok other := by
  obtain ⟨fields, ran, ⟨_, rfl⟩ | ⟨_, isRouted, _⟩⟩ := routing_cases run
  · refine get?_walked (check_of_all asRead) ?_ ran isPart
    rw [isElement, notRouted]
    obtain rfl | rfl := inElement <;> simp [Place.inField]
  · cases notRouted.symm.trans isRouted

theorem partName?_routing {field : Field} {name : Value} (asRead : element.isAsRead = true)
    (isElement : element.kind = .jsxElement) (notRouted : element.isRouted = false)
    (inElement : field = .openingElement ∨ field = .closingElement)
    (run : element.transform routing place = .ok after)
    (isName : element.partName? field = some name) :
    ∃ other, after.partName? field = some other ∧ name.transform routing .plain = .ok other := by
  obtain ⟨part, isPart, isName⟩ := partName?_eq_some.mp isName
  have partAsRead : part.isAsRead = true := asRead_of_get? asRead isPart
  have own := check_of_all partAsRead
  obtain ⟨_, isOther, ranPart⟩ := get?_part_routing asRead isElement notRouted inElement run isPart
  obtain ⟨child, ranChild, same⟩ := bind_eq_ok_iff.mp ranPart
  cases same
  have noElement := (kinds_of_name (check_of_all (isRegular_of_isAsRead partAsRead))
    ((get?_eq_lookup own .name).symm.trans isName)).1
  obtain ⟨fields, ran, ⟨_, rfl⟩ | ⟨_, isRouted, _⟩⟩ := routing_cases ranChild
  · obtain ⟨other, isOtherName, ranName⟩ := get?_walked own (Place.inField_name rfl ..) ran isName
    exact ⟨other, partName?_eq_some.mpr ⟨_, isOther, isOtherName⟩, ranName⟩
  · cases (isRouted_of_kind noElement).symm.trans isRouted

/-- A name in which no tag stands is left as it was. -/
theorem namesKept_routing (asRead : element.isAsRead = true) (isElement : element.kind = .jsxElement)
    (notRouted : element.isRouted = false) (run : element.transform routing place = .ok after) :
    element.NamesKept Value.HoldsTag after := by
  have kept {field : Field} (inElement : field = .openingElement ∨ field = .closingElement) (name : Value)
      (isName : element.partName? field = some name) (untouched : ¬ name.HoldsTag) :
      after.partName? field = some name := by
    obtain ⟨other, isOther, ran⟩ := partName?_routing asRead isElement notRouted inElement run isName
    rw [isOther, Value.routing_eq_self name .plain ran fun inner member => ?_]
    by_contra tagged
    exact untouched ⟨inner, member, tagged⟩
  refine ⟨kept (.inl rfl), kept (.inr rfl), fun unclosed => ?_⟩
  obtain ⟨_, isOther, ranPart⟩ := get?_part_routing asRead isElement notRouted (.inr rfl) run unclosed
  cases ranPart
  exact isOther

/-- The names of a tag become members of the components object. -/
theorem namesRouted_routing {tag : Scalar} (isElement : element.kind = .jsxElement)
    (tagged : element.tag? = some tag) (run : element.transform routing place = .ok after) :
    element.NamesRouted after tag := by
  obtain ⟨opening, name, _, isOpening, isName, isTag⟩ := classify_of_tag? tagged
  obtain ⟨identifier, rfl, isIdentifier, isTagName⟩ := identifier_of_classify isTag
  have named : element.elementName? = some (.node identifier) := partName?_eq_some.mpr ⟨opening, isOpening, isName⟩
  have isRouted : element.isRouted = true := by simp [Node.isRouted, is, isElement, tagged]
  obtain ⟨fields, ran, ⟨notRouted, _⟩ | ⟨chosen, _, isChosen, routed⟩⟩ := routing_cases run
  · cases notRouted.symm.trans isRouted
  cases isChosen.symm.trans tagged
  have closings := get?_routing ran .closingElement
  obtain ⟨_, _, closing, _, _, isClosing, outcome⟩ := route_cases routed
  rw [isClosing] at closings
  refine ⟨⟨identifier, named, isIdentifier, isTagName, ?_⟩, fun part isPart => ?_, fun unclosed => ?_⟩
  · rw [elementName?_routing run isElement tagged, named]
    rfl
  · rw [isPart] at closings
    cases closings with
    | some routes =>
    obtain ⟨other, rfl, _⟩ := routes.node
    obtain ⟨same, _⟩ | ⟨_, _, rfl⟩ := outcome
    · cases same
    · exact partName?_eq_some.mpr ⟨_, get?_set_self .., get?_set_self ..⟩
  · rw [unclosed] at closings
    cases closings with
    | some routes =>
    obtain rfl := routes.eq_of_data rfl
    obtain ⟨_, rfl⟩ | ⟨_, same, _⟩ := outcome
    · rw [get?_set_of_ne _ _ (by decide)]
      exact isClosing
    · cases same

theorem same_of_identifier {node : Node} {tag : Scalar} (own : node.hasOnlyOwnFields = true)
    (isIdentifier : node.kind = .jsxIdentifier) (isTag : node.get? .name = some (.scalar tag)) :
    node.same (make .jsxIdentifier [(.name, .scalar tag)]) = true := by
  rw [get?_eq_lookup own] at isTag
  have names := beq_iff_eq.mp (Bool.and_eq_true_iff.mp own).1
  rw [isIdentifier] at names
  obtain ⟨⟨field, value⟩, areFields, isField⟩ := List.map_eq_singleton_iff.mp names
  obtain rfl : field = .name := isField
  rw [areFields] at isTag
  cases isTag
  refine same_iff.mpr ⟨isIdentifier, ?_⟩
  rw [areFields]
  show sameFields [(.name, .scalar tag)] [(.name, .scalar tag)] = true
  rw [sameFields, sameFields, Value.same, Scalar.same_self]
  rfl

/-- The names of a tag that has a closing part are equal after routing, whatever they were. -/
theorem hasEqualNames_of_namesRouted {part : Node} {tag : Scalar} (asRead : element.isAsRead = true)
    (routes : element.NamesRouted after tag) (isPart : element.get? .closingElement = some (.node part)) :
    after.HasEqualNames := by
  obtain ⟨name, isName, isIdentifier, isTag, opened⟩ := routes.opening
  obtain ⟨opening, isOpening, isOpeningName⟩ := partName?_eq_some.mp isName
  have nameAsRead : name.isAsRead = true := asRead_of_get? (asRead_of_get? asRead isOpening) isOpeningName
  refine ⟨_, _, opened, routes.closing part isPart, ?_⟩
  show (Value.node (routedName (.node name))).same (.node (routedName _)) = true
  rw [Value.same_node]
  refine same_routedName ?_
  rw [Value.same_node]
  exact same_of_identifier (check_of_all nameAsRead) isIdentifier isTag

theorem hasEqualNames_routing (asRead : element.isAsRead = true) (isElement : element.kind = .jsxElement)
    (run : element.transform routing place = .ok after) (equal : element.HasEqualNames) : after.HasEqualNames := by
  obtain ⟨opening, closing, isOpening, isClosing, same⟩ := equal
  obtain ⟨closingPart, isClosingPart, isClosingName⟩ := partName?_eq_some.mp isClosing
  -- A tag gets equal names, whatever they were. The names of any other element are routed, which respects equality.
  by_cases isRouted : element.isRouted = true
  · obtain ⟨fields, _, ⟨notRouted, _⟩ | ⟨tag, _, tagged, _⟩⟩ := routing_cases run
    · cases notRouted.symm.trans isRouted
    · exact hasEqualNames_of_namesRouted asRead (namesRouted_routing isElement tagged run) isClosingPart
  · have notRouted := Bool.of_not_eq_true isRouted
    obtain ⟨openingPart, isOpeningPart, isOpeningName⟩ := partName?_eq_some.mp isOpening
    obtain ⟨opened, isOpened, ranOpening⟩ := partName?_routing asRead isElement notRouted (.inl rfl) run isOpening
    obtain ⟨closed, isClosed, ranClosing⟩ := partName?_routing asRead isElement notRouted (.inr rfl) run isClosing
    have openingAsRead := asRead_of_get? (asRead_of_get? asRead isOpeningPart) isOpeningName
    have closingAsRead := asRead_of_get? (asRead_of_get? asRead isClosingPart) isClosingName
    obtain ⟨number, same⟩ := Value.equals_iff.mp same
    -- What is no number equals nothing, not even itself, but routing does not make it.
    refine ⟨opened, closed, isOpened, isClosed, Value.equals_iff.mpr ⟨?_, ?_⟩⟩
    · rintro rfl
      cases opening with
      | scalar value =>
        cases ranOpening
        exact number rfl
      | object => cases ranOpening
      | node child =>
        obtain ⟨_, _, isNode⟩ := bind_eq_ok_iff.mp ranOpening
        cases isNode
      | list items =>
        obtain ⟨_, _, isList⟩ := bind_eq_ok_iff.mp ranOpening
        cases isList
    · exact Value.same_routing opening closing openingAsRead closingAsRead rfl same ranOpening ranClosing

/-- How the names of an element come out in a function. -/
structure NamesInFunction (element after : Node) : Prop where
  routed : ∀ tag, element.tag? = some tag → element.NamesRouted after tag
  kept : element.tag? = none → element.NamesKept Value.HoldsTag after
  equal : element.HasEqualNames → after.HasEqualNames

theorem namesInFunction_routing (asRead : element.isAsRead = true) (isElement : element.kind = .jsxElement)
    (run : element.transform routing place = .ok after) : element.NamesInFunction after where
  routed _ tagged := namesRouted_routing isElement tagged run
  kept untagged := namesKept_routing asRead isElement (by simp [isRouted, untagged]) run
  equal := hasEqualNames_routing asRead isElement run

theorem namesInFunction_self (untagged : element.tag? = none) : element.NamesInFunction element where
  routed _ tagged := nomatch untagged.symm.trans tagged
  kept _ := ⟨fun _ isName _ => isName, fun _ isName _ => isName, id⟩
  equal := id

/-- The names of an element are in its parts. -/
theorem NamesInFunction.congr {found : Node} (names : element.NamesInFunction after)
    (parts : ∀ field, field ≠ .name → found.get? field = after.get? field) : element.NamesInFunction found := by
  have opening : found.elementName? = after.elementName? := by
    unfold elementName?
    rw [parts .openingElement (by decide)]
  have closing : found.closingName? = after.closingName? := by
    unfold closingName?
    rw [parts .closingElement (by decide)]
  refine ⟨fun tag tagged => ⟨?_, fun part isPart => ?_, fun unclosed => ?_⟩, fun untagged => ⟨?_, ?_, ?_⟩,
    fun equal => ?_⟩
  · rw [opening]
    exact (names.routed tag tagged).opening
  · rw [closing]
    exact (names.routed tag tagged).closing part isPart
  · rw [parts .closingElement (by decide)]
    exact (names.routed tag tagged).unclosed unclosed
  · rw [opening]
    exact (names.kept untagged).opening
  · rw [closing]
    exact (names.kept untagged).closing
  · rw [parts .closingElement (by decide)]
    exact (names.kept untagged).unclosed
  · unfold HasEqualNames
    rw [opening, closing]
    exact names.equal equal

end Routing

section Outside

variable {change : Place → Node → Except Error Node}

/-- The node at a position, if it stands in no function. -/
def outsideAt? (node : Node) : Position → Option Node
  | [] => if node.isFunction then none else some node
  | branch :: rest => if node.isFunction then none else (node.child? branch).bind (·.outsideAt? rest)

theorem at?_of_outsideAt? {node found : Node} {position : Position}
    (there : node.outsideAt? position = some found) :
    node.at? position = some found := by
  induction position generalizing node with
  | nil =>
    rw [outsideAt?] at there
    split at there
    · cases there
    · exact there
  | cons branch rest ih =>
    rw [outsideAt?] at there
    split at there
    · cases there
    · obtain ⟨child, isChild, there⟩ := Option.bind_eq_some_iff.mp there
      exact at?_cons_eq_some.mpr ⟨child, isChild, ih there⟩

/-- What stands in no function is found at its position with the functions in it changed. -/
theorem at?_mapOutermost_outside {node after found : Node} {place : Place} {position : Position}
    (visible : place.hidesName = false) (mapped : node.mapOutermost change place = .ok after)
    (there : node.outsideAt? position = some found) :
    ∃ inner other, inner.hidesName = false ∧ ¬ found.isFunction = true ∧
      found.mapOutermost change inner = .ok other ∧
      after.at? position = some other := by
  induction position generalizing node after place with
  | nil =>
    rw [outsideAt?] at there
    split at there
    · cases there
    · rename_i noFunction
      cases there
      exact ⟨place, after, visible, noFunction, mapped, rfl⟩
  | cons branch rest ih =>
    rw [outsideAt?] at there
    split at there
    · cases there
    rename_i noFunction
    obtain ⟨child, isChild, there⟩ := Option.bind_eq_some_iff.mp there
    rw [mapOutermost_of_not_function noFunction] at mapped
    obtain ⟨others, mappedFields, rfl⟩ := map_eq_ok_iff.mp mapped
    rw [mapOutermostInFields_eq] at mappedFields
    cases placed : place.inField node.kind node.fields false branch.field with
    | none => cases visible.symm.trans (Place.inField_eq_none placed).1
    | some inner =>
      obtain ⟨other, isOther, mappedChild⟩ := (visitFields_relate mappedFields).child isChild placed
      obtain ⟨place, found, hides, noFunction, mappedFound, isFound⟩ :=
        ih (Place.visible_below placed) mappedChild there
      exact ⟨place, found, hides, noFunction, mappedFound, at?_cons_eq_some.mpr ⟨other, isOther, isFound⟩⟩

/-- In a node that is no function, what a field holds is changed where the field puts it. -/
theorem get?_mapOutermost {node after : Node} {place inner : Place} {field : Field} {value : Value}
    (own : node.hasOnlyOwnFields = true) (noFunction : ¬ node.isFunction = true)
    (placed : place.inField node.kind node.fields false field = some inner)
    (mapped : node.mapOutermost change place = .ok after) (isValue : node.get? field = some value) :
    ∃ other, after.get? field = some other ∧ value.mapOutermost change inner = .ok other := by
  rw [get?_eq_lookup own] at isValue
  rw [mapOutermost_of_not_function noFunction] at mapped
  obtain ⟨others, mappedFields, rfl⟩ := map_eq_ok_iff.mp mapped
  obtain ⟨other, isOther, mappedValue⟩ := lookup_mapOutermostInFields mappedFields isValue
  rw [placed] at mappedValue
  exact ⟨other, get?_of_lookup isOther, mappedValue⟩

theorem get?_part_mapOutermost {element after : Node} {place : Place} {field : Field} {part : Value}
    (asRead : element.isAsRead = true) (isElement : element.kind = .jsxElement)
    (inElement : field = .openingElement ∨ field = .closingElement)
    (mapped : element.mapOutermost change place = .ok after) (isPart : element.get? field = some part) :
    ∃ other, after.get? field = some other ∧ part.mapOutermost change .plain = .ok other := by
  refine get?_mapOutermost (check_of_all asRead) (ne_jsxElement_of_isFunction · isElement) ?_ mapped isPart
  rw [isElement]
  obtain rfl | rfl := inElement <;> simp [Place.inField]

theorem partName?_mapOutermost {element after : Node} {place : Place} {field : Field} {name : Value}
    (asRead : element.isAsRead = true) (isElement : element.kind = .jsxElement)
    (inElement : field = .openingElement ∨ field = .closingElement)
    (mapped : element.mapOutermost change place = .ok after) (isName : element.partName? field = some name) :
    ∃ other, after.partName? field = some other ∧ name.mapOutermost change .plain = .ok other := by
  obtain ⟨part, isPart, isName⟩ := partName?_eq_some.mp isName
  have partAsRead : part.isAsRead = true := asRead_of_get? asRead isPart
  have own := check_of_all partAsRead
  obtain ⟨_, isOther, mappedPart⟩ := get?_part_mapOutermost asRead isElement inElement mapped isPart
  obtain ⟨child, mappedChild, same⟩ := bind_eq_ok_iff.mp mappedPart
  cases same
  have noFunction := (kinds_of_name (check_of_all (isRegular_of_isAsRead partAsRead))
    ((get?_eq_lookup own .name).symm.trans isName)).2
  obtain ⟨other, isOtherName, mappedName⟩ :=
    get?_mapOutermost own noFunction (Place.inField_name rfl ..) mappedChild isName
  exact ⟨other, partName?_eq_some.mpr ⟨child, isOther, isOtherName⟩, mappedName⟩

end Outside

end Node

section Still

variable {change : Place → Node → Except Error Node}

/-- The change leaves these functions as they are. -/
def LeavesAlone (change : Place → Node → Except Error Node) (functions : List (Place × Node)) : Prop :=
  ∀ entry ∈ functions, ∀ changed, change entry.1 entry.2 = .ok changed → changed = entry.2

theorem leavesAlone_append {functions others : List (Place × Node)} :
    LeavesAlone change (functions ++ others) ↔ LeavesAlone change functions ∧ LeavesAlone change others := by
  simp only [LeavesAlone, List.mem_append, or_imp, forall_and]

mutual

/-- A node is left as it is if all functions in it are. -/
theorem Node.mapOutermost_eq_self : ∀ (node : Node) (place : Place) {after : Node},
    LeavesAlone change (node.functions place) → node.mapOutermost change place = .ok after → after = node
  | .mk kind fields extra attached, place, after, still, mapped => by
    rw [Node.functions] at still
    rw [Node.mapOutermost] at mapped
    split at mapped
    · rename_i isFunction
      rw [if_pos isFunction] at still
      exact still _ (List.mem_singleton_self _) after mapped
    · rename_i noFunction
      rw [if_neg noFunction] at still
      obtain ⟨others, mappedFields, mapped⟩ := bind_eq_ok_iff.mp mapped
      cases mapped
      rw [mapOutermostInFields_eq_self fields _ still mappedFields]

theorem mapOutermostInFields_eq_self : ∀ (fields : List (Field × Value)) (placeOf : Field → Option Place)
    {others : List (Field × Value)}, LeavesAlone change (functionsInFields placeOf fields) →
    mapOutermostInFields change placeOf fields = .ok others → others = fields
  | [], _, _, _, mapped => by
    cases mapped
    rfl
  | (field, value) :: rest, placeOf, others, still, mapped => by
    obtain ⟨other, tail, rfl, mappedRest, mappedValue⟩ := mapOutermostInFields_cons_eq_ok mapped
    rw [functionsInFields, leavesAlone_append] at still
    rw [mapOutermostInFields_eq_self rest placeOf still.2 mappedRest]
    cases placed : placeOf field with
    | none =>
      rw [placed] at mappedValue
      rw [mappedValue]
    | some place =>
      rw [placed] at mappedValue still
      rw [Value.mapOutermost_eq_self value place still.1 mappedValue]

theorem Value.mapOutermost_eq_self : ∀ (value : Value) (place : Place) {after : Value},
    LeavesAlone change (value.functions place) → value.mapOutermost change place = .ok after → after = value
  | .node child, place, _, still, mapped => by
    obtain ⟨other, mappedChild, mapped⟩ := bind_eq_ok_iff.mp mapped
    cases mapped
    rw [Node.mapOutermost_eq_self child place still mappedChild]
  | .list items, _, _, still, mapped => by
    obtain ⟨others, mappedItems, mapped⟩ := bind_eq_ok_iff.mp mapped
    cases mapped
    rw [mapOutermostInItems_eq_self items still mappedItems]
  | .scalar _, _, _, _, mapped | .object _, _, _, _, mapped => by
    cases mapped
    rfl

theorem mapOutermostInItems_eq_self : ∀ (items : List Value) {others : List Value},
    LeavesAlone change (functionsInItems items) → mapOutermostInItems change items = .ok others → others = items
  | [], _, _, mapped => by
    cases mapped
    rfl
  | .node child :: rest, _, still, mapped => by
    rw [mapOutermostInItems] at mapped
    rw [functionsInItems, leavesAlone_append] at still
    obtain ⟨other, mappedChild, mapped⟩ := bind_eq_ok_iff.mp mapped
    obtain ⟨tail, mappedRest, mapped⟩ := bind_eq_ok_iff.mp mapped
    cases mapped
    rw [Node.mapOutermost_eq_self child .plain still.1 mappedChild,
      mapOutermostInItems_eq_self rest still.2 mappedRest]
  | .scalar _ :: rest, _, still, mapped | .list _ :: rest, _, still, mapped | .object _ :: rest, _,
    still, mapped => by
    obtain ⟨tail, mappedRest, mapped⟩ := bind_eq_ok_iff.mp mapped
    cases mapped
    rw [mapOutermostInItems_eq_self rest still mappedRest]

end

end Still

namespace Node

/-- How the names of an element come out that stands in no function. -/
structure NamesOutside (touched : Value → Prop) (element after : Node) : Prop where
  kept : element.NamesKept touched after
  equal : element.HasEqualNames → (∀ name, element.elementName? = some name → ¬ touched name) →
    (∀ name, element.closingName? = some name → ¬ touched name) → after.HasEqualNames
  /-- Where one name stands in both places, one name stands in both afterwards. -/
  alike : ∀ name, element.elementName? = some name → element.closingName? = some name →
    ∃ other, after.elementName? = some other ∧ after.closingName? = some other

theorem namesOutside_mapOutermost {change : Place → Node → Except Error Node} {element after : Node} {place : Place}
    (asRead : element.isAsRead = true) (isElement : element.kind = .jsxElement)
    (mapped : element.mapOutermost change place = .ok after) :
    element.NamesOutside (fun name => ¬ LeavesAlone change (name.functions .plain)) after := by
  have kept {field : Field} (inElement : field = .openingElement ∨ field = .closingElement) (name : Value)
      (isName : element.partName? field = some name) (untouched : ¬ ¬ LeavesAlone change (name.functions .plain)) :
      after.partName? field = some name := by
    obtain ⟨other, isOther, mappedName⟩ := partName?_mapOutermost asRead isElement inElement mapped isName
    rw [isOther, Value.mapOutermost_eq_self name .plain (not_not.mp untouched) mappedName]
  refine ⟨⟨kept (.inl rfl), kept (.inr rfl), fun unclosed => ?_⟩, ?_, fun name isOpening isClosing => ?_⟩
  · obtain ⟨_, isOther, mappedPart⟩ := get?_part_mapOutermost asRead isElement (.inr rfl) mapped unclosed
    cases mappedPart
    exact isOther
  · rintro ⟨opening, closing, isOpening, isClosing, same⟩ untouchedOpening untouchedClosing
    exact ⟨opening, closing, kept (.inl rfl) opening isOpening (untouchedOpening opening isOpening),
      kept (.inr rfl) closing isClosing (untouchedClosing closing isClosing), same⟩
  · obtain ⟨opened, isOpened, mappedOpening⟩ := partName?_mapOutermost asRead isElement (.inl rfl) mapped isOpening
    obtain ⟨closed, isClosed, mappedClosing⟩ := partName?_mapOutermost asRead isElement (.inr rfl) mapped isClosing
    cases mappedOpening.symm.trans mappedClosing
    exact ⟨opened, isOpened, isClosed⟩

theorem NamesOutside.imp {touched other : Value → Prop} {element after : Node}
    (names : element.NamesOutside touched after) (implies : ∀ name, touched name → other name) :
    element.NamesOutside other after := by
  have untouched {name : Value} (free : ¬ other name) : ¬ touched name := mt (implies name) free
  refine ⟨⟨fun name isName free => ?_, fun name isName free => ?_, names.kept.unclosed⟩,
    fun equal opening closing => ?_, names.alike⟩
  · exact names.kept.opening name isName (untouched free)
  · exact names.kept.closing name isName (untouched free)
  · exact names.equal equal (fun name isName => untouched (opening name isName))
      fun name isName => untouched (closing name isName)

end Node

end JsxRouting
