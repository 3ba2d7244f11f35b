import JsxRouting.Proofs.EverywhereBelow
import JsxRouting.Proofs.ReachedElements
import JsxRouting.Proofs.RoutingEdits

namespace JsxRouting

theorem Value.RoutesTo.holds {value after : Value} (routes : value.RoutesTo after) : after.holds = value.holds := by
  cases value with
  | node child =>
    obtain ⟨_, rfl, _⟩ := routes.node
    rfl
  | list items =>
    obtain ⟨others, rfl, rfl | run⟩ := routes.list
    · rfl
    · have sameLength := length_transformItems_routing run
      cases items <;> cases others <;> first | rfl | cases sameLength
  | scalar | object =>
    obtain rfl := routes.eq_of_data rfl
    rfl

/-- Routing neither makes nor changes texts in a list. -/
theorem textsIn_routing {items others : List Value} {texts : List String}
    (run : transformItems routing items = .ok others) (areTexts : textsIn others = some texts) :
    textsIn items = some texts := by
  induction items generalizing others texts with
  | nil =>
    cases run
    exact areTexts
  | cons item rest ih =>
    obtain ⟨other, tail, rfl, ranRest, routes⟩ := transformItems_cons_eq_ok run
    unfold textsIn at areTexts
    split at areTexts
    · rename_i same
      cases same
    · rename_i piece _ same
      cases same
      obtain ⟨texts, areOthers, rfl⟩ := Option.map_eq_some_iff.mp areTexts
      cases item with
      | scalar value =>
        cases routes.eq_of_data rfl
        rw [textsIn, ih ranRest areOthers]
        rfl
      | node child => cases routes.node.choose_spec.1
      | list items => cases routes.list.choose_spec.1
      | object members => cases routes.eq_of_data rfl
    · cases areTexts

/-- A list that is routed reads as a name if it did so before. -/
theorem isIdentifierName_routing {items others : List Value} {answer : Bool}
    (run : transformItems routing items = .ok others) (named : (Value.list others).isIdentifierName = .ok answer) :
    (Value.list items).isIdentifierName = .ok answer := by
  cases items with
  | nil =>
    cases run
    exact named
  | cons item rest =>
    obtain ⟨other, tail, rfl, ranRest, routes⟩ := transformItems_cons_eq_ok run
    unfold Value.isIdentifierName at named
    split at named
    · rename_i same
      cases same
    · rename_i first _ same
      cases same
      cases item with
      | scalar value =>
        cases routes.eq_of_data rfl
        unfold Value.isIdentifierName
        dsimp only at named ⊢
        split at named
        · rename_i joined
          rw [if_pos joined]
          exact named
        · rename_i apart
          rw [if_neg apart]
          split at named
          · rename_i texts areTexts
            rw [textsIn_routing ranRest areTexts]
            exact named
          · cases named
      | node child => cases routes.node.choose_spec.1
      | list items => cases routes.list.choose_spec.1
      | object members => cases routes.eq_of_data rfl
    · cases named

/-- A name of any form that is no component after routing was none before. -/
theorem componentName?_routing {name after : Value} (routes : name.RoutesTo after)
    (noComponent : componentName? after = .ok none) : componentName? name = .ok none := by
  cases name with
  | scalar | object =>
    obtain rfl := routes.eq_of_data rfl
    exact noComponent
  | node child =>
    obtain ⟨_, rfl, _⟩ := routes.node
    cases noComponent
  | list items =>
    obtain ⟨others, rfl, rfl | run⟩ := routes.list
    · exact noComponent
    · obtain ⟨answer, named, decided⟩ := bind_eq_ok_iff.mp noComponent
      refine bind_eq_ok_iff.mpr ⟨answer, isIdentifierName_routing run named, ?_⟩
      cases answer with
      | true => cases decided
      | false => rfl

/-- A name that is a tag after routing was a tag before. -/
theorem classify_routing {name after : Value} {explicit : Bool} {tag : Value} (routes : name.RoutesTo after)
    (isTag : classify after explicit = .ok (.tag tag)) : ∃ old, classify name explicit = .ok (.tag old) := by
  obtain ⟨other, rfl, isIdentifier, _⟩ := Node.identifier_of_classify isTag
  cases name with
  | node child =>
    obtain ⟨_, same, routesChild⟩ := routes.node
    cases same
    have childKind : child.kind = .jsxIdentifier := routesChild.kind.symm.trans isIdentifier
    have names := routesChild.get? (Node.isRouted_of_kind (by rw [childKind]; decide)) .name
    simp only [classify, isIdentifier] at isTag
    simp only [classify, childKind]
    generalize child.get? .name = before at names ⊢
    generalize other.get? .name = after at names isTag
    cases names with
    | none => cases isTag
    | @some old new routesName =>
      obtain ⟨component, isComponent, isTag⟩ := bind_eq_ok_iff.mp isTag
      cases component with
      | some component => cases isTag
      | none =>
        cases explicit with
        | true => cases isTag
        | false => exact ⟨old, bind_eq_ok_iff.mpr ⟨none, componentName?_routing routesName isComponent, rfl⟩⟩
  | list items => cases routes.list.choose_spec.1
  | scalar | object => cases routes.eq_of_data rfl

namespace Node

/-- The node is no element whose name is a tag. -/
def Untagged (node : Node) : Prop := node.kind = .jsxElement → ∀ name, node.nameUse ≠ .ok (.tag name)

/-- A node as routing leaves it: it has the fields of its kind and is no element whose name is a tag. -/
structure Finished (node : Node) : Prop where
  ownFields : node.hasOwnFields = true
  untagged : node.Untagged

theorem finished_of_kind {node : Node} (ownFields : node.hasOwnFields = true)
    (noElement : node.kind ≠ .jsxElement) :
    node.Finished := ⟨ownFields, fun isElement => absurd isElement noElement⟩

theorem get?_name_route {element after : Node} {tag : Value} (routed : element.route tag = .ok after) :
    after.get? .name = element.get? .name := by
  obtain ⟨_, _, _, _, _, _, ⟨_, rfl⟩ | ⟨_, _, rfl⟩⟩ := route_cases routed
  · rw [get?_set_of_ne _ _ (by decide)]
  · rw [get?_set_of_ne _ _ (by decide), get?_set_of_ne _ _ (by decide)]

/-- The name in a part of an element stands routed in it. -/
theorem RoutesTo.get?_name {node after : Node} (routes : node.RoutesTo after) :
    Option.Rel Value.RoutesTo (node.get? .name) (after.get? .name) := by
  obtain rfl | ⟨_, run⟩ := routes
  · exact rel_routesTo_self _
  · obtain ⟨fields, ran, ⟨_, rfl⟩ | ⟨_, _, _, routed⟩⟩ := routing_cases run
    · exact get?_routing ran .name
    · rw [get?_name_route routed]
      exact get?_routing ran .name

/-- An element that routing left with its names is no tag. -/
theorem nameUse_of_not_routed {node after : Node} {place : Place} (run : node.transform routing place = .ok after)
    (isElement : node.kind = .jsxElement) (notRouted : node.isRouted = false) (name : Value) :
    node.nameUse ≠ .ok (.tag name) := by
  intro isTag
  obtain ⟨kind, fields, extra, attached⟩ := node
  cases isElement
  rw [Node.transform] at run
  obtain ⟨tag, entered, _⟩ := bind_eq_ok_iff.mp run
  have chosen := isSome_of_enter_routing entered
  rw [notRouted] at chosen
  have found : routingTag (.mk .jsxElement fields extra attached) = .ok tag := entered
  unfold routingTag at found
  rw [isTag] at found
  obtain ⟨_, same, found⟩ := bind_eq_ok_iff.mp found
  cases same
  obtain ⟨_, _, found⟩ := bind_eq_ok_iff.mp found
  obtain ⟨_, _, found⟩ := bind_eq_ok_iff.mp found
  cases found
  cases chosen

/-- Routing makes no tag of an element that is none. -/
theorem untagged_walked {node : Node} {placeOf : Field → Option Place} {fields : List (Field × Value)}
    (ran : transformFields routing placeOf node.fields = .ok fields) (untagged : node.Untagged) :
    (mk node.kind fields node.extra node.attached).Untagged := by
  intro isElement name isTag
  have openings := get?_routing ran .openingElement
  have flags := get?_routing ran .explicit
  unfold nameUse at isTag
  split at isTag
  · rename_i opening explicit isOpening isExplicit
    split at isTag
    · rename_i newName isName
      rw [isOpening] at openings
      rw [isExplicit] at flags
      generalize isOldOpening : node.get? .openingElement = oldOpening at openings
      generalize isOldExplicit : node.get? .explicit = oldExplicit at flags
      cases openings with
      | @some old _ routesOpening =>
      cases flags with
      | @some oldFlag _ routesFlag =>
      cases old with
      | node part =>
        obtain ⟨_, same, routesPart⟩ := routesOpening.node
        cases same
        have names := routesPart.get?_name
        rw [isName] at names
        generalize isOldName : part.get? .name = oldName at names
        cases names with
        | @some oldName _ routesName =>
        rw [routesFlag.holds] at isTag
        obtain ⟨oldTag, wasTag⟩ := classify_routing routesName isTag
        refine untagged isElement oldTag ?_
        simp only [nameUse, isOldOpening, isOldExplicit, isOldName]
        exact wasTag
      | list items => cases routesOpening.list.choose_spec.1
      | scalar | object => cases routesOpening.eq_of_data rfl
    · cases isTag
  · cases isTag

theorem nameUse_set_name (node : Node) (value : Value) : (node.set .name value).nameUse = node.nameUse := by
  unfold nameUse
  rw [get?_set_of_ne node value (by decide), get?_set_of_ne node value (by decide)]

theorem hasOwnFields_make (kind : Kind) (given : List (Field × Value)) (known : kind.knows given = true) :
    (make kind given known).hasOwnFields = true := by
  have names : (make kind given known).fields.map (·.1) = kind.schema.map (·.1) := by simp [make, Node.fields]
  exact beq_iff_eq.mpr names

/-- A node that was built is finished everywhere if it is no element and the given values are. -/
theorem everywhere_make {kind : Kind} {given : List (Field × Value)} {known : kind.knows given = true}
    (noElement : kind ≠ .jsxElement) (inGiven : ∀ entry ∈ given, entry.2.Everywhere Finished) :
    (make kind given known).Everywhere Finished :=
  .make (finished_of_kind (hasOwnFields_make kind given known) noElement) inGiven

theorem everywhere_identifierOf {name : Value} (inName : name.Everywhere Finished) :
    (identifierOf name).Everywhere Finished := everywhere_make nofun (by simpa using inName)

theorem everywhere_routedName {name : Value} (inName : name.Everywhere Finished) :
    (routedName name).Everywhere Finished := by
  have object : (make .jsxIdentifier [(.name, .text componentsObject)]).Everywhere Finished :=
    everywhere_make nofun (by simp)
  exact everywhere_make nofun (by simpa using ⟨object, inName⟩)

theorem everywhere_identifier {node : Node} {tag : Scalar} (ownFields : node.hasOwnFields = true)
    (isIdentifier : node.kind = .jsxIdentifier) (isTag : node.get? .name = some (.scalar tag)) :
    node.Everywhere Finished := by
  refine everywhere_iff.mpr ⟨finished_of_kind ownFields (by rw [isIdentifier]; decide),
    fun branch child isChild => ?_⟩
  obtain ⟨value, isValue, leads⟩ := child?_eq_some.mp isChild
  have own : branch.field ∈ node.kind.fields := by
    rw [← beq_iff_eq.mp ownFields]
    exact List.mem_map_of_mem (mem_of_lookup isValue)
  rw [isIdentifier] at own
  have isName : branch.field = .name := List.mem_singleton.mp own
  rw [isName] at isValue
  cases (get?_of_lookup isValue).symm.trans isTag
  cases branch <;> cases leads

/-- The element whose opening name is a member of the components object is no tag. -/
theorem untagged_of_routedName {element opening : Node} {property : Value}
    (isOpening : element.get? .openingElement = some (.node opening))
    (isName : opening.get? .name = some (.node (routedName property))) : element.Untagged := by
  intro _ name isTag
  unfold nameUse at isTag
  rw [isOpening] at isTag
  split at isTag
  · rename_i same _
    cases same
    rw [isName] at isTag
    obtain ⟨_, same, isIdentifier, _⟩ := identifier_of_classify isTag
    cases same
    cases isIdentifier
  · cases isTag

/-- In the opening name of a tag stands no element. -/
theorem everywhere_openingName {element opening : Node} {name : Value} {tag : Scalar}
    (regular : element.isRegular = true) (tagged : element.tag? = some tag)
    (isOpening : element.child? (.direct .openingElement) = some opening) (isName : opening.get? .name = some name)
    (own : .name ∈ opening.kind.fields) : name.Everywhere Finished := by
  obtain ⟨part, partName, explicit, isPart, isPartName, isTag⟩ := classify_of_tag? tagged
  cases isPart.symm.trans (get?_of_child?_direct isOpening)
  cases isPartName.symm.trans isName
  obtain ⟨identifier, rfl, isIdentifier, isTagName⟩ := identifier_of_classify isTag
  have openingRegular := all_of_mem_children regular (mem_children_of_child? isOpening)
  have isChild := child?_direct_of_get? (check_of_all openingRegular) own isName
  have identifierFields := check_of_all (all_of_mem_children openingRegular (mem_children_of_child? isChild))
  exact (Value.everywhere_node _).mpr (everywhere_identifier identifierFields isIdentifier isTagName)

/-- The node is finished, and so is everything in it but perhaps in a name that the place hides. -/
structure FinishedUnder (node : Node) (place : Place) : Prop where
  here : node.Finished
  below : ∀ branch child, (place.hidesName = true → branch.field ≠ .name) → node.child? branch = some child →
    child.Everywhere Finished

section Walk

variable {node : Node} {place : Place} {fields : List (Field × Value)}
  (ran : transformFields routing (place.inField node.kind node.fields node.isRouted) node.fields = .ok fields)

include ran

theorem hasOwnFields_walked (own : node.hasOwnFields = true) :
    (mk node.kind fields node.extra node.attached).hasOwnFields = true :=
  (congrArg (· == node.kind.fields) (visitFields_relate (transformFields_eq routing _ _ ▸ ran)).names).trans own

/-- What stands behind a branch after the walk was routed, as a part of an element perhaps. -/
theorem exists_child_of_walked (branch : Branch) {other : Node}
    (entered : place.hidesName = true → branch.field ≠ .name)
    (isOther : (mk node.kind fields node.extra node.attached).child? branch = some other) :
    ∃ child inner, node.child? branch = some child ∧
      place.inField node.kind node.fields node.isRouted branch.field = some inner ∧
      child.transform routing (branch.place inner) = .ok other := by
  obtain ⟨child, isChild, visited⟩ :=
    (visitFields_relate (transformFields_eq routing _ _ ▸ ran)).child_cases isOther
  split at visited
  · rename_i inner placed
    exact ⟨child, inner, isChild, placed, visited⟩
  · rename_i unplaced
    obtain ⟨hides, isName⟩ := Place.inField_eq_none unplaced
    exact absurd isName (entered hides)

variable (children : ∀ child ∈ node.children, ∀ {inner other}, child.transform routing inner = .ok other →
  other.FinishedUnder inner)

include children

/-- What was walked is finished, but for the parts of an element that is routed. -/
theorem everywhere_child_of_walked {branch : Branch} {other : Node}
    (entered : place.hidesName = true → branch.field ≠ .name)
    (isOther : (mk node.kind fields node.extra node.attached).child? branch = some other)
    (noPart : ¬ (node.isRouted = true ∧ (branch.field = .openingElement ∨ branch.field = .closingElement))) :
    other.Everywhere Finished := by
  obtain ⟨child, inner, isChild, placed, ranChild⟩ := exists_child_of_walked ran branch entered isOther
  have finished := children child (mem_children_of_child? isChild) ranChild
  refine everywhere_iff.mpr ⟨finished.here, fun next grandchild => finished.below next grandchild fun hides => ?_⟩
  -- Only the parts of a tag are walked with their names hidden.
  cases branch with
  | direct field => exact absurd (Place.part_of_inField placed hides).2 noPart
  | item field index => cases hides

/-- A part is finished when it gets a name that is. -/
theorem everywhere_renamed_part {field : Field} {part : Node} {name : Value} (noName : field ≠ .name)
    (isPart : (mk node.kind fields node.extra node.attached).child? (.direct field) = some part)
    (inName : (∃ old, part.fields.lookup .name = some old) → name.Everywhere Finished) :
    (part.set .name name).Everywhere Finished := by
  obtain ⟨child, inner, isChild, _, ranChild⟩ := exists_child_of_walked ran (.direct field) (fun _ => noName) isPart
  obtain ⟨here, below⟩ := children child (mem_children_of_child? isChild) ranChild
  refine .set ⟨(hasOwnFields_set ..).trans here.ownFields, fun isElement => ?_⟩
    (fun branch child elsewhere isChild => below branch child (fun _ => elsewhere) isChild) inName
  rw [nameUse_set_name]
  exact here.untagged ((kind_set ..).symm.trans isElement)

theorem everywhere_routed_opening {part : Node} {name : Value} {tag : Scalar} (regular : node.isRegular = true)
    (isRouted : node.isRouted = true) (tagged : node.tag? = some tag)
    (isPart : (mk node.kind fields node.extra node.attached).get? .openingElement = some (.node part))
    (isName : part.get? .name = some name) : (part.set .name (.node (routedName name))).Everywhere Finished := by
  have isElement := kind_of_isRouted isRouted
  have isWalked := child?_direct_of_get? (hasOwnFields_walked ran (check_of_all regular))
    (show .openingElement ∈ node.kind.fields by rw [isElement]; decide) isPart
  refine everywhere_renamed_part ran children (by decide) isWalked ?_
  rintro ⟨old, isOwn⟩
  obtain ⟨opening, inner, isOpening, placed, ranOpening⟩ :=
    exists_child_of_walked ran (.direct .openingElement) nofun isWalked
  obtain rfl : inner = .routedPart := by
    rw [isElement, isRouted, show (Branch.direct .openingElement).field = .openingElement from rfl,
      Place.inField_part place _ (.inl rfl)] at placed
    exact (Option.some.inj placed).symm
  have partFields := (hasOwnFields_routing ranOpening).trans
    (check_of_all (all_of_mem_children regular (mem_children_of_child? isOpening)))
  have own : .name ∈ opening.kind.fields := by
    rw [← kind_routing ranOpening, ← beq_iff_eq.mp partFields]
    exact List.mem_map_of_mem (mem_of_lookup isOwn)
  exact (Value.everywhere_node _).mpr (everywhere_routedName
    (everywhere_openingName regular tagged isOpening ((get?_name_routing ranOpening).symm.trans isName) own))

theorem everywhere_routed_closing {part : Node} {tag : Scalar} (regular : node.isRegular = true)
    (isRouted : node.isRouted = true)
    (isPart : (mk node.kind fields node.extra node.attached).get? .closingElement = some (.node part)) :
    (part.set .name (.node (routedName (.node (make .jsxIdentifier [(.name, .scalar tag)]))))).Everywhere
      Finished := by
  have isWalked := child?_direct_of_get? (hasOwnFields_walked ran (check_of_all regular))
    (show .closingElement ∈ node.kind.fields by rw [kind_of_isRouted isRouted]; decide) isPart
  refine everywhere_renamed_part ran children (by decide) isWalked fun _ => ?_
  refine (Value.everywhere_node _).mpr (everywhere_routedName ((Value.everywhere_node _).mpr ?_))
  exact everywhere_make nofun (by simp)

/-- An element is finished when its names were exchanged. -/
theorem finishedUnder_route {after : Node} {tag : Scalar} (regular : node.isRegular = true)
    (isRouted : node.isRouted = true) (tagged : node.tag? = some tag)
    (routed : (mk node.kind fields node.extra node.attached).route (.scalar tag) = .ok after) :
    after.FinishedUnder place := by
  have ownFields := hasOwnFields_walked ran (check_of_all regular)
  obtain ⟨part, name, closing, isPart, isName, isClosing, outcome⟩ := route_cases routed
  have opened := everywhere_routed_opening ran children regular isRouted tagged isPart isName
  have besideClosing {branch : Branch} {other : Node} (entered : place.hidesName = true → branch.field ≠ .name)
      (noClosing : branch.field ≠ .closingElement)
      (isOther : ((mk node.kind fields node.extra node.attached).set .openingElement
        (.node (part.set .name (.node (routedName name))))).child? branch = some other) :
      other.Everywhere Finished := by
    obtain ⟨_, _, member⟩ | ⟨noOpening, isOther⟩ := child?_set_cases isOther
    · obtain rfl := List.mem_singleton.mp member
      exact opened
    · exact everywhere_child_of_walked ran children entered isOther fun isPart => isPart.2.elim noOpening noClosing
  obtain ⟨rfl, rfl⟩ | ⟨closing, rfl, rfl⟩ := outcome
  · refine ⟨⟨(hasOwnFields_set ..).trans ownFields, untagged_of_routedName (get?_set_self ..) (get?_set_self ..)⟩,
      fun branch other entered isOther => besideClosing entered (fun isPart => ?_) isOther⟩
    obtain ⟨value, isValue, leads⟩ := child?_eq_some.mp isOther
    rw [isPart, lookup_set_of_ne _ _ (by decide)] at isValue
    cases (get?_of_lookup isValue).symm.trans isClosing
    cases branch <;> cases leads
  · refine ⟨⟨(hasOwnFields_set ..).trans ((hasOwnFields_set ..).trans ownFields),
      untagged_of_routedName (by rw [get?_set_of_ne _ _ (by decide), get?_set_self]) (get?_set_self ..)⟩,
      fun branch other entered isOther => ?_⟩
    obtain ⟨_, _, member⟩ | ⟨noClosing, isOther⟩ := child?_set_cases isOther
    · obtain rfl := List.mem_singleton.mp member
      exact everywhere_routed_closing ran children regular isRouted isClosing
    · exact besideClosing entered noClosing isOther

end Walk

/-- After routing no element is a tag, but perhaps in a name that was not entered. -/
theorem finishedUnder_routing {node after : Node} {place : Place} (regular : node.isRegular = true)
    (run : node.transform routing place = .ok after) : after.FinishedUnder place := by
  induction node using induction_children generalizing place after with
  | step node ih =>
    have children (child : Node) (isBelow : child ∈ node.children) {inner : Place} {other : Node}
        (ranChild : child.transform routing inner = .ok other) : other.FinishedUnder inner :=
      ih child isBelow (all_of_mem_children regular isBelow) ranChild
    obtain ⟨fields, ran, ⟨notRouted, rfl⟩ | ⟨tag, isRouted, tagged, routed⟩⟩ := routing_cases run
    · have untagged := untagged_walked ran fun isElement => nameUse_of_not_routed run isElement notRouted
      refine ⟨⟨hasOwnFields_walked ran (check_of_all regular), untagged⟩, fun branch other entered isOther => ?_⟩
      exact everywhere_child_of_walked ran children entered isOther (by simp [notRouted])
    · exact finishedUnder_route ran children regular isRouted tagged routed

/-- Nowhere in a routed function an element is a tag. -/
theorem everywhere_routing {node after : Node} {place : Place} (regular : node.isRegular = true)
    (visible : place.hidesName = false) (run : node.transform routing place = .ok after) :
    after.Everywhere Finished := by
  obtain ⟨here, below⟩ := finishedUnder_routing regular run
  refine everywhere_iff.mpr ⟨here, fun branch child isChild => below branch child (fun hides => ?_) isChild⟩
  rw [visible] at hides
  cases hides

end Node

end JsxRouting
