import JsxRouting.Proofs.ElementFaults
import JsxRouting.Proofs.RoutedPositions

namespace JsxRouting

/-- The name in the closing part of an element, if there is one. -/
def Node.closingName? (element : Node) : Option Value :=
  match element.get? .closingElement with
  | some (.node closing) => closing.get? .name
  | _ => none

def nothingReplaced (_ : Node) : Bool := false

namespace Place

theorem inField_eq_none {place : Place} {kind : Kind} {fields : List (Field × Value)}
    {routed : Bool} {field : Field}
    (unplaced : place.inField kind fields routed field = none) : place.hidesName = true ∧ field = .name := by
  unfold inField at unplaced
  split at unplaced
  · assumption
  · split at unplaced
    · cases unplaced
    · split at unplaced <;> cases unplaced

/-- A place that hides the name is that of a part of a routed element. -/
theorem part_of_inField {place inner : Place} {kind : Kind} {fields : List (Field × Value)} {routed : Bool}
    {field : Field} (placed : place.inField kind fields routed field = some inner)
    (hides : inner.hidesName = true) :
    inner = .routedPart ∧ routed = true ∧ (field = .openingElement ∨ field = .closingElement) := by
  unfold inField at placed
  split at placed
  · cases placed
  · split at placed
    · cases placed
      rw [hidesName_ofInit] at hides
      cases hides
    · split at placed
      · rename_i isPart
        cases placed
        exact ⟨rfl, isPart⟩
      · cases placed
        cases hides

end Place

theorem Value.mem_jsxElements_of_mem_placedNodes {replaced : Node → Bool} {value : Value} {place : Place}
    {entry : Place × Node} {element : Node} (placed : entry ∈ value.placedNodes place)
    (member : element ∈ entry.2.jsxElements replaced entry.1) : element ∈ value.jsxElements replaced place := by
  rw [Value.jsxElements_eq]
  exact List.mem_flatMap.mpr ⟨entry, placed, member⟩

/-- A node in a value stands at the place of the value, or at a plain place in its list. -/
theorem Value.mem_placedNodes_of {value : Value} {place : Place} {entry : Place × Node}
    (placed : entry ∈ value.placedNodes place) (other : Place) :
    (entry.1 = place ∧ (other, entry.2) ∈ value.placedNodes other ∧ value = .node entry.2) ∨
      (entry.1 = .plain ∧ (.plain, entry.2) ∈ value.placedNodes other) := by
  cases value with
  | node child =>
    obtain rfl := List.mem_singleton.mp placed
    exact .inl ⟨rfl, List.mem_singleton_self _, rfl⟩
  | list items =>
    obtain ⟨child, inItems, rfl⟩ := List.mem_map.mp placed
    exact .inr ⟨rfl, List.mem_map_of_mem inItems⟩
  | scalar | object => cases placed

namespace Node

/-- Only an identifier can be a tag, under its own name. -/
theorem identifier_of_classify {name : Value} {explicit : Bool} {tag : Value}
    (isTag : classify name explicit = .ok (.tag tag)) :
    ∃ node, name = .node node ∧ node.kind = .jsxIdentifier ∧ node.get? .name = some tag := by
  obtain ⟨_, same⟩ | same | ⟨node, plain, rfl, isIdentifier, isPlain, used⟩ := classify_plain_cases isTag
  · cases same
  · cases same
  · obtain ⟨_, _, same⟩ | ⟨_, same | same⟩ := useOfPlainName_cases used
    · cases same
    · cases same
    · cases same
      exact ⟨node, rfl, isIdentifier, isPlain⟩

/-- In a well-formed identifier stands no element. -/
theorem jsxElements_of_identifier {node : Node} (formed : node.all hasDeclaredForms = true)
    (isIdentifier : node.kind = .jsxIdentifier) (place : Place) : node.jsxElements nothingReplaced place = [] := by
  obtain ⟨value, isValue, admitted, _⟩ := exists_admitted formed .name (by rw [isIdentifier]; decide)
  rw [isIdentifier] at admitted
  obtain ⟨text, rfl⟩ := Value.exists_of_isText admitted
  have own := check_of_all formed
  rw [hasDeclaredForms, Bool.and_eq_true] at own
  rw [jsxElements_eq, if_neg (by rw [isIdentifier]; decide), List.nil_append, List.flatMap_eq_nil_iff]
  rintro ⟨inner, child⟩ placed
  obtain ⟨⟨field, other⟩, inFields, inValue⟩ := List.mem_flatMap.mp placed
  have isName : field = .name := by
    have inKind : field ∈ node.kind.fields := by
      rw [← beq_iff_eq.mp own.1]
      exact List.mem_map_of_mem inFields
    rw [isIdentifier] at inKind
    exact List.mem_singleton.mp inKind
  subst isName
  cases (lookup_of_mem (nodup_fields own.1) inFields).symm.trans isValue
  split at inValue <;> cases inValue

/-- In the opening name of an element that is a tag stands no other element. -/
theorem jsxElements_of_tag? {element opening : Node} {tag : Scalar} {name : Value}
    (formed : element.all hasDeclaredForms = true) (isElement : element.kind = .jsxElement)
    (tagged : element.tag? = some tag) (isOpening : element.get? .openingElement = some (.node opening))
    (isName : opening.get? .name = some name) (place : Place) : name.jsxElements nothingReplaced place = [] := by
  obtain ⟨part, isPart, admitted, partFormed⟩ :=
    exists_admitted formed .openingElement (by rw [isElement]; decide)
  rw [isElement] at admitted
  cases (get?_of_lookup isPart).symm.trans isOpening
  have openingKind : opening.kind = .jsxOpeningElement := by
    obtain ⟨found, isFound⟩ := Option.isSome_iff_exists.mp admitted
    obtain ⟨same, kind⟩ := Value.nodeOf?_eq_some.mp isFound
    cases same
    exact kind
  obtain ⟨found, isFound, _, nameFormed⟩ :=
    exists_admitted (show opening.all hasDeclaredForms = true from partFormed) .name (by rw [openingKind]; decide)
  cases (get?_of_lookup isFound).symm.trans isName
  obtain ⟨_, _, _, isPart, isPartName, isTag⟩ := classify_of_tag? tagged
  cases isPart.symm.trans isOpening
  cases isPartName.symm.trans isName
  obtain ⟨node, rfl, isIdentifier, _⟩ := identifier_of_classify isTag
  exact jsxElements_of_identifier nameFormed isIdentifier place

/-- The walk comes to the element, or it comes to an element that is routed and has it in its closing name. -/
def Reaches (node : Node) (place : Place) (element : Node) : Prop :=
  element ∈ node.jsxElements isRouted place ∨
    ∃ routed ∈ node.jsxElements isRouted place, routed.isRouted = true ∧
      ∃ name, routed.closingName? = some name ∧ element ∈ name.jsxElements nothingReplaced .plain

theorem Reaches.of_child {node element : Node} {place : Place} {entry : Place × Node}
    (placed : entry ∈ placedNodes (place.inField node.kind node.fields node.isRouted) node.fields)
    (reaches : entry.2.Reaches entry.1 element) : node.Reaches place element := by
  have below {other : Node} (member : other ∈ entry.2.jsxElements isRouted entry.1) :
      other ∈ node.jsxElements isRouted place := by
    rw [jsxElements_eq]
    exact List.mem_append_right _ (List.mem_flatMap.mpr ⟨entry, placed, member⟩)
  obtain here | ⟨routed, member, isRouted, inName⟩ := reaches
  · exact .inl (below here)
  · exact .inr ⟨routed, below member, isRouted, inName⟩

theorem jsxElements_of_visible {replaced : Node → Bool} {node : Node} {place : Place}
    (visible : place.hidesName = false) : node.jsxElements replaced place = node.jsxElements replaced .plain := by
  rw [jsxElements_eq, jsxElements_eq, Place.inField_of_visible visible]

theorem mem_placedNodes_fields {node child : Node} {placeOf : Field → Option Place} {field : Field} {value : Value}
    {place inner : Place} (inFields : (field, value) ∈ node.fields) (placed : placeOf field = some place)
    (inValue : (inner, child) ∈ value.placedNodes place) : (inner, child) ∈ placedNodes placeOf node.fields :=
  List.mem_flatMap.mpr ⟨(field, value), inFields, by simpa only [placed] using inValue⟩

/-- Where the walk enters a field, it comes to the elements in it, but for those in the closing name of a tag. -/
theorem reaches_of_entered {node child element : Node} {field : Field} {value : Value}
    {place other inner outer : Place}
    (formed : node.all hasDeclaredForms = true) (isValue : node.fields.lookup field = some value)
    (inValue : (inner, child) ∈ value.placedNodes outer)
    (visible : ∀ place : Place, place.hidesName = false → child.Reaches place element)
    (part : child.Reaches .routedPart element ∨
      ∃ name, child.get? .name = some name ∧ element ∈ name.jsxElements nothingReplaced .plain)
    (placed : place.inField node.kind node.fields node.isRouted field = some other) :
    node.Reaches place element := by
  have inFields := mem_of_lookup isValue
  obtain ⟨_, inOther, isNode⟩ | ⟨_, inOther⟩ := Value.mem_placedNodes_of inValue other
  · have placedOther := mem_placedNodes_fields inFields placed inOther
    cases hides : other.hidesName with
    | false => exact .of_child placedOther (visible other hides)
    | true =>
      obtain ⟨rfl, isRouted, isPart⟩ := Place.part_of_inField placed hides
      obtain reached | ⟨name, isName, inName⟩ := part
      · exact .of_child placedOther reached
      · cases isNode
        have isElement := kind_of_isRouted isRouted
        obtain ⟨tag, tagged⟩ : ∃ tag, node.tag? = some tag := by
          refine Option.isSome_iff_exists.mp ?_
          rw [Node.isRouted, Bool.and_eq_true] at isRouted
          exact isRouted.2
        -- The opening name of a tag is an identifier, in which nothing stands. In the closing name anything can
        -- stand.
        obtain rfl | rfl := isPart
        · rw [jsxElements_of_tag? formed isElement tagged (get?_of_lookup isValue) isName] at inName
          cases inName
        · refine .inr ⟨node, ?_, isRouted, name, ?_, inName⟩
          · rw [jsxElements_eq, if_pos isElement]
            exact List.mem_append_left _ (List.mem_singleton_self node)
          · simp only [closingName?, get?_of_lookup isValue, isName]
  · exact .of_child (mem_placedNodes_fields inFields placed inOther) (visible .plain rfl)

/-- Every element that stands in a tree is reached. At a place where the name of the node is not entered, it can
stand in that name instead. -/
theorem reaches_of_mem {node element : Node} (formed : node.all hasDeclaredForms = true)
    (member : element ∈ node.jsxElements nothingReplaced .plain) :
    (∀ place : Place, place.hidesName = false → node.Reaches place element) ∧
      (node.Reaches .routedPart element ∨
        ∃ name, node.get? .name = some name ∧ element ∈ name.jsxElements nothingReplaced .plain) := by
  induction node using induction_children with
  | step node ih =>
    rw [jsxElements_eq] at member
    obtain here | below := List.mem_append.mp member
    · have reached (place : Place) : node.Reaches place element := by
        refine .inl ?_
        rw [jsxElements_eq]
        exact List.mem_append_left _ here
      exact ⟨fun place _ => reached place, .inl (reached .routedPart)⟩
    obtain ⟨⟨inner, child⟩, placedChild, inChild⟩ := List.mem_flatMap.mp below
    have isChild := mem_children_of_mem_placedNodes placedChild
    obtain ⟨⟨field, value⟩, inFields, inEntry⟩ := List.mem_flatMap.mp placedChild
    have isValue : node.fields.lookup field = some value := by
      have own := check_of_all formed
      rw [hasDeclaredForms, Bool.and_eq_true] at own
      exact lookup_of_mem (nodup_fields own.1) inFields
    obtain ⟨field', plain, inValue⟩ : ∃ field', Place.plain.inField node.kind node.fields false
      field = some field' ∧
        (inner, child) ∈ value.placedNodes field' := by
      split at inEntry
      · rename_i field' placed
        exact ⟨field', placed, inEntry⟩
      · cases inEntry
    have visible : inner.hidesName = false := by
      obtain ⟨rfl, _⟩ | ⟨rfl, _⟩ := Value.mem_placedNodes_of inValue .plain
      · exact Place.visible_inField plain
      · rfl
    rw [jsxElements_of_visible visible] at inChild
    obtain ⟨reachesVisible, reachesPart⟩ := ih child isChild (all_of_mem_children formed isChild) inChild
    have entered (place other : Place)
      (placed : place.inField node.kind node.fields node.isRouted field = some other) :
        node.Reaches place element := reaches_of_entered formed isValue inValue reachesVisible reachesPart placed
    refine ⟨fun place visible => ?_, ?_⟩
    · cases placed : place.inField node.kind node.fields node.isRouted field with
      | some other => exact entered place other placed
      | none =>
        rw [(Place.inField_eq_none placed).1] at visible
        cases visible
    · cases placed : Place.routedPart.inField node.kind node.fields node.isRouted field with
      | some other => exact .inl (entered _ other placed)
      | none =>
        obtain rfl := (Place.inField_eq_none placed).2
        refine .inr ⟨value, get?_of_lookup isValue, ?_⟩
        obtain ⟨_, inOther, _⟩ | ⟨_, inOther⟩ := Value.mem_placedNodes_of inValue .plain <;>
          exact Value.mem_jsxElements_of_mem_placedNodes inOther inChild

end Node

end JsxRouting
