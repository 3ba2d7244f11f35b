import JsxRouting.Proofs.InnerWalk
import JsxRouting.Proofs.Positions

namespace JsxRouting

/-- The old opening name becomes the member of the components object, and so does the closing name if
there is a closing part. -/
theorem Node.route_cases {element after : Node} {tag : Value} (routed : element.route tag = .ok after) :
    ∃ opening name closing,
      element.get? .openingElement = some (.node opening) ∧ opening.get? .name = some name ∧
      element.get? .closingElement = some closing ∧
      ((closing = .scalar .null ∧
          after = element.set .openingElement (.node (opening.set .name (.node (routedName name))))) ∨
        ∃ part, closing = .node part ∧
          after = (element.set .openingElement (.node (opening.set .name (.node (routedName name))))).set
            .closingElement (.node (part.set .name
              (.node (routedName (.node (.make .jsxIdentifier [(.name, tag)]))))))) := by
  unfold route at routed
  split at routed
  · rename_i opening closing isOpening isClosing
    split at routed
    · rename_i name isName
      split at routed
      · cases routed
        exact ⟨opening, name, _, isOpening, isName, isClosing, .inl ⟨rfl, rfl⟩⟩
      · rename_i part
        cases routed
        exact ⟨opening, name, _, isOpening, isName, isClosing, .inr ⟨part, rfl, rfl⟩⟩
      · cases routed
    · cases routed
  · cases routed

theorem Node.kind_route {element after : Node} {tag : Value} (routed : element.route tag = .ok after) :
    after.kind = element.kind := by
  obtain ⟨_, _, _, _, _, _, ⟨_, rfl⟩ | ⟨_, _, rfl⟩⟩ := Node.route_cases routed <;> simp

theorem Node.isRouted_of_kind {node : Node} (noElement : node.kind ≠ .jsxElement) : node.isRouted = false := by
  simp [isRouted, is, noElement]

/-- A function is no element. -/
theorem Node.ne_jsxElement_of_isFunction {node : Node} (isFunction : node.isFunction = true) :
    node.kind ≠ .jsxElement := by
  intro element
  rw [Node.isFunction, element] at isFunction
  cases isFunction

theorem Node.isRouted_of_isFunction {node : Node} (isFunction : node.isFunction = true) : node.isRouted = false :=
  Node.isRouted_of_kind (Node.ne_jsxElement_of_isFunction isFunction)

theorem Node.kind_of_isRouted {node : Node} (routed : node.isRouted = true) : node.kind = .jsxElement := by
  by_contra noElement
  rw [Node.isRouted_of_kind noElement] at routed
  cases routed

/-- A node is routed field by field. If it is an element that is a tag, its names are exchanged then. -/
theorem Node.routing_cases {node after : Node} {place : Place} (run : node.transform routing place = .ok after) :
    ∃ fields,
      transformFields routing (place.inField node.kind node.fields node.isRouted) node.fields = .ok fields ∧
      ((node.isRouted = false ∧ after = .mk node.kind fields node.extra node.attached) ∨
        ∃ tag, node.isRouted = true ∧ node.tag? = some tag ∧
          (Node.mk node.kind fields node.extra node.attached).route (.scalar tag) = .ok after) := by
  obtain ⟨kind, fields, extra, attached⟩ := node
  rw [Node.transform] at run
  obtain ⟨tag, entered, run⟩ := bind_eq_ok_iff.mp run
  obtain ⟨others, ran, left⟩ := bind_eq_ok_iff.mp run
  rw [isSome_of_enter_routing entered] at ran
  refine ⟨others, ran, ?_⟩
  have isTagged := isSome_of_enter_routing entered
  cases tag with
  | none =>
    cases left
    exact .inl ⟨isTagged.symm, rfl⟩
  | some tag =>
    refine .inr ⟨tag, isTagged.symm, ?_, left⟩
    cases element : (Node.mk kind fields extra attached).is .jsxElement with
    | true =>
      simp only [routing, element, if_true] at entered
      exact Node.tag?_of_routingTag entered
    | false => simp [Node.isRouted, element] at isTagged

theorem Node.kind_routing {node after : Node} {place : Place} (run : node.transform routing place = .ok after) :
    after.kind = node.kind := by
  obtain ⟨fields, _, ⟨_, rfl⟩ | ⟨tag, _, _, routed⟩⟩ := Node.routing_cases run
  · rfl
  · have same := Node.kind_route routed
    exact same

theorem transformFields_cons_eq_ok {transformer : Transformer (Except Error)} {placeOf : Field → Option Place}
    {field : Field} {value : Value} {rest others : List (Field × Value)}
    (run : transformFields transformer placeOf ((field, value) :: rest) = .ok others) :
    ∃ other tail, others = (field, other) :: tail ∧ transformFields transformer placeOf rest = .ok tail ∧
      (match placeOf field with
        | some place => value.transform transformer place = .ok other
        | none => other = value) := by
  rw [transformFields] at run
  cases placed : placeOf field with
  | none =>
    rw [placed] at run
    obtain ⟨other, same, run⟩ := bind_eq_ok_iff.mp run
    obtain ⟨tail, ranRest, run⟩ := bind_eq_ok_iff.mp run
    cases same
    cases run
    exact ⟨value, tail, rfl, ranRest, rfl⟩
  | some place =>
    rw [placed] at run
    obtain ⟨other, ran, run⟩ := bind_eq_ok_iff.mp run
    obtain ⟨tail, ranRest, run⟩ := bind_eq_ok_iff.mp run
    cases run
    exact ⟨other, tail, rfl, ranRest, ran⟩

mutual

/-- A node in which no element is a tag is left as it is. -/
theorem Node.routing_eq_self : ∀ (node : Node) (place : Place) {after : Node},
    node.transform routing place = .ok after →
    (∀ element ∈ node.jsxElements Node.isRouted place, element.tag? = none) → after = node
  | .mk kind fields extra attached, place, after, run, untagged => by
    have notRouted : (Node.mk kind fields extra attached).isRouted = false := by
      by_cases element : kind = .jsxElement
      · have here := untagged (.mk kind fields extra attached) (by simp [Node.jsxElements, element])
        simp [Node.isRouted, here]
      · simp [Node.isRouted, Node.is, Node.kind, element]
    obtain ⟨others, ran, ⟨_, rfl⟩ | ⟨tag, isRouted, _⟩⟩ := Node.routing_cases run
    · rw [notRouted] at ran
      have same := routing_fields_eq_self fields _ ran fun element member =>
        untagged element (by rw [Node.jsxElements, notRouted]; exact List.mem_append_right _ member)
      rw [same]
      rfl
    · rw [notRouted] at isRouted
      cases isRouted

theorem routing_fields_eq_self : ∀ (fields : List (Field × Value)) (placeOf : Field → Option Place)
    {others : List (Field × Value)}, transformFields routing placeOf fields = .ok others →
    (∀ element ∈ jsxElementsInFields Node.isRouted placeOf fields, element.tag? = none) → others = fields
  | [], _, _, run, _ => by
    cases run
    rfl
  | (field, value) :: rest, placeOf, others, run, untagged => by
    obtain ⟨other, tail, rfl, ranRest, ran⟩ := transformFields_cons_eq_ok run
    rw [jsxElementsInFields] at untagged
    rw [routing_fields_eq_self rest placeOf ranRest fun element member =>
      untagged element (List.mem_append_right _ member)]
    cases placed : placeOf field with
    | none =>
      rw [placed] at ran
      rw [ran]
    | some place =>
      rw [placed] at ran
      simp only [placed] at untagged
      rw [Value.routing_eq_self value place ran fun element member =>
        untagged element (List.mem_append_left _ member)]

theorem Value.routing_eq_self : ∀ (value : Value) (place : Place) {after : Value},
    value.transform routing place = .ok after →
    (∀ element ∈ value.jsxElements Node.isRouted place, element.tag? = none) → after = value
  | .node child, place, _, run, untagged => by
    rw [Value.transform] at run
    obtain ⟨other, ran, run⟩ := bind_eq_ok_iff.mp run
    cases run
    rw [Node.routing_eq_self child place ran untagged]
  | .list items, _, _, run, untagged => by
    rw [Value.transform] at run
    obtain ⟨others, ran, run⟩ := bind_eq_ok_iff.mp run
    cases run
    rw [routing_items_eq_self items ran untagged]
  | .scalar _, _, _, run, _ | .object _, _, _, run, _ => by
    cases run
    rfl

theorem routing_items_eq_self : ∀ (items : List Value) {others : List Value},
    transformItems routing items = .ok others →
    (∀ element ∈ jsxElementsInItems Node.isRouted items, element.tag? = none) → others = items
  | [], _, run, _ => by
    cases run
    rfl
  | .node child :: rest, _, run, untagged => by
    rw [transformItems] at run
    rw [jsxElementsInItems] at untagged
    obtain ⟨other, ran, run⟩ := bind_eq_ok_iff.mp run
    obtain ⟨tail, ranRest, run⟩ := bind_eq_ok_iff.mp run
    cases run
    rw [Node.routing_eq_self child .plain ran fun element member =>
        untagged element (List.mem_append_left _ member),
      routing_items_eq_self rest ranRest fun element member =>
        untagged element (List.mem_append_right _ member)]
  | .scalar _ :: rest, _, run, untagged | .list _ :: rest, _, run, untagged
  | .object _ :: rest, _, run, untagged => by
    obtain ⟨tail, ranRest, run⟩ := bind_eq_ok_iff.mp run
    cases run
    rw [routing_items_eq_self rest ranRest untagged]

end

/-- A node that is itself, or routed at some place. -/
def Node.RoutesTo (node after : Node) : Prop :=
  after = node ∨ ∃ place, node.transform routing place = .ok after

def Value.RoutesTo (value after : Value) : Prop :=
  after = value ∨ ∃ place, value.transform routing place = .ok after

theorem rel_routesTo_self (found : Option Value) : Option.Rel Value.RoutesTo found found := by
  cases found with
  | none => exact .none
  | some value => exact .some (.inl rfl)

theorem Value.RoutesTo.node {child : Node} {after : Value} (routes : (Value.node child).RoutesTo after) :
    ∃ other, after = .node other ∧ child.RoutesTo other := by
  obtain rfl | ⟨place, run⟩ := routes
  · exact ⟨child, rfl, .inl rfl⟩
  · obtain ⟨other, ran, run⟩ := bind_eq_ok_iff.mp run
    cases run
    exact ⟨other, rfl, .inr ⟨place, ran⟩⟩

theorem Value.RoutesTo.list {items : List Value} {after : Value} (routes : (Value.list items).RoutesTo after) :
    ∃ others, after = .list others ∧ (others = items ∨ transformItems routing items = .ok others) := by
  obtain rfl | ⟨_, run⟩ := routes
  · exact ⟨items, rfl, .inl rfl⟩
  · obtain ⟨others, ran, run⟩ := bind_eq_ok_iff.mp run
    cases run
    exact ⟨others, rfl, .inr ran⟩

/-- Whether a value has no place for nodes. -/
def Value.isPlain : Value → Bool
  | .scalar _ | .object _ => true
  | .list _ | .node _ => false

/-- A value with no place for nodes is left as it is. -/
theorem Value.RoutesTo.eq_of_data {value after : Value} (routes : value.RoutesTo after)
    (isPlain : value.isPlain = true) :
    after = value := by
  obtain rfl | ⟨_, run⟩ := routes
  · rfl
  · cases value with
    | node child => cases isPlain
    | list items => cases isPlain
    | scalar | object =>
      cases run
      rfl

theorem Value.RoutesTo.node? {value after : Value} (routes : value.RoutesTo after) :
    Option.Rel Node.RoutesTo value.node? after.node? := by
  cases value with
  | node child =>
    obtain ⟨other, rfl, routesChild⟩ := routes.node
    exact .some routesChild
  | list items =>
    obtain ⟨_, rfl, _⟩ := routes.list
    exact .none
  | scalar | object =>
    obtain rfl := routes.eq_of_data rfl
    exact .none

theorem routesTo_of_visited {placed : Option Place} {value other : Value}
    (ran : match placed with
      | some place => value.transform routing place = .ok other
      | none => other = value) : value.RoutesTo other := by
  cases placed with
  | some place => exact .inr ⟨place, ran⟩
  | none => exact .inl ran

/-- A node in a list is routed, and anything else in it is left as it is. -/
theorem transformItems_cons_cases {item : Value} {rest walked : List Value}
    (run : transformItems routing (item :: rest) = .ok walked) :
    (∃ tail, item.node? = none ∧ walked = item :: tail ∧ transformItems routing rest = .ok tail) ∨
      ∃ child after tail, item = .node child ∧ walked = .node after :: tail ∧
        child.transform routing .plain = .ok after ∧ transformItems routing rest = .ok tail := by
  cases item with
  | node child =>
    rw [transformItems] at run
    obtain ⟨after, ranChild, run⟩ := bind_eq_ok_iff.mp run
    obtain ⟨tail, ranRest, run⟩ := bind_eq_ok_iff.mp run
    cases run
    exact .inr ⟨child, after, tail, rfl, rfl, ranChild, ranRest⟩
  | scalar | list | object =>
    obtain ⟨tail, ranRest, run⟩ := bind_eq_ok_iff.mp run
    cases run
    exact .inl ⟨tail, rfl, rfl, ranRest⟩

theorem transformItems_cons_eq_ok {item : Value} {rest others : List Value}
    (run : transformItems routing (item :: rest) = .ok others) :
    ∃ other tail, others = other :: tail ∧ transformItems routing rest = .ok tail ∧ item.RoutesTo other := by
  obtain ⟨tail, _, rfl, ranRest⟩ | ⟨child, after, tail, rfl, rfl, ranChild, ranRest⟩ :=
    transformItems_cons_cases run
  · exact ⟨item, tail, rfl, ranRest, .inl rfl⟩
  · exact ⟨.node after, tail, rfl, ranRest, .inr ⟨.plain, bind_eq_ok_iff.mpr ⟨after, ranChild, rfl⟩⟩⟩

theorem getElem?_transformItems {items others : List Value} (run : transformItems routing items = .ok others)
    (index : Nat) : Option.Rel Value.RoutesTo items[index]? others[index]? := by
  induction items generalizing others index with
  | nil =>
    cases run
    exact .none
  | cons item rest ih =>
    obtain ⟨other, tail, rfl, ranRest, routes⟩ := transformItems_cons_eq_ok run
    cases index with
    | zero => exact .some routes
    | succ index => exact ih ranRest index

theorem Value.RoutesTo.follow {value after : Value} (routes : value.RoutesTo after) (branch : Branch) :
    Option.Rel Node.RoutesTo (branch.follow value) (branch.follow after) := by
  cases branch with
  | direct field =>
    rw [Branch.follow_direct, Branch.follow_direct]
    exact routes.node?
  | item field index =>
    cases value with
    | list items =>
      obtain ⟨others, rfl, same⟩ := routes.list
      have found : Option.Rel Value.RoutesTo items[index]? others[index]? := by
        obtain rfl | run := same
        · exact rel_routesTo_self _
        · exact getElem?_transformItems run index
      rw [Branch.follow_item, Branch.follow_item]
      generalize items[index]? = item at found ⊢
      generalize others[index]? = other at found ⊢
      cases found with
      | none => exact .none
      | some relate => exact relate.node?
    | node child =>
      obtain ⟨_, rfl, _⟩ := routes.node
      exact .none
    | scalar | object =>
      obtain rfl := routes.eq_of_data rfl
      exact .none

theorem length_transformItems_routing {items others : List Value}
    (run : transformItems routing items = .ok others) :
    others.length = items.length := by
  rw [transformItems_eq] at run
  exact (forall₂_of_mapM run).length_eq.symm

/-- What stands in a field after its node was gone through is what stood there, gone through by itself. -/
theorem visited_transformFields {placeOf : Field → Option Place} {fields others : List (Field × Value)}
    (run : transformFields routing placeOf fields = .ok others) (field : Field) :
    Option.Rel (fun value other => match placeOf field with
      | some place => value.transform routing place = .ok other
      | none => other = value) (fields.lookup field) (others.lookup field) := by
  induction fields generalizing others with
  | nil =>
    cases run
    exact .none
  | cons entry rest ih =>
    obtain ⟨first, value⟩ := entry
    obtain ⟨other, tail, rfl, ranRest, ran⟩ := transformFields_cons_eq_ok run
    rw [List.lookup_cons, List.lookup_cons]
    cases here : field == first with
    | true =>
      obtain rfl := beq_iff_eq.mp here
      exact .some ran
    | false => exact ih ranRest

/-- What stands in a field after its node was gone through stands there routed. -/
theorem lookup_transformFields {placeOf : Field → Option Place} {fields others : List (Field × Value)}
    (run : transformFields routing placeOf fields = .ok others) (field : Field) :
    Option.Rel Value.RoutesTo (fields.lookup field) (others.lookup field) := by
  have visited := visited_transformFields run field
  generalize fields.lookup field = before at visited ⊢
  generalize others.lookup field = after at visited ⊢
  cases visited with
  | none => exact .none
  | some ran => exact .some (routesTo_of_visited ran)

theorem Node.RoutesTo.kind {node after : Node} (routes : node.RoutesTo after) : after.kind = node.kind := by
  obtain rfl | ⟨_, run⟩ := routes
  · rfl
  · exact Node.kind_routing run

theorem Node.RoutesTo.lookup {node after : Node} (routes : node.RoutesTo after) (notRouted : node.isRouted = false)
    (field : Field) : Option.Rel Value.RoutesTo (node.fields.lookup field) (after.fields.lookup field) := by
  obtain rfl | ⟨_, run⟩ := routes
  · exact rel_routesTo_self _
  · obtain ⟨others, ran, ⟨_, rfl⟩ | ⟨_, isRouted, _⟩⟩ := Node.routing_cases run
    · exact lookup_transformFields ran field
    · rw [notRouted] at isRouted
      cases isRouted

/-- The fields of a node stand routed in it before its own names are exchanged. -/
theorem Node.get?_routing {node : Node} {placeOf : Field → Option Place} {fields : List (Field × Value)}
    (ran : transformFields routing placeOf node.fields = .ok fields) (field : Field) :
    Option.Rel Value.RoutesTo (node.get? field)
      ((Node.mk node.kind fields node.extra node.attached).get? field) := by
  have found := lookup_transformFields ran field
  unfold Node.get?
  rw [show (Node.mk node.kind fields node.extra node.attached).fields = fields from rfl,
    show (Node.mk node.kind fields node.extra node.attached).attached = node.attached from rfl]
  generalize node.fields.lookup field = before at found ⊢
  generalize fields.lookup field = other at found ⊢
  cases found with
  | some relate => exact .some relate
  | none => exact rel_routesTo_self _

theorem Node.RoutesTo.get? {node after : Node} (routes : node.RoutesTo after)
    (notRouted : node.isRouted = false) (field : Field) :
    Option.Rel Value.RoutesTo (node.get? field) (after.get? field) := by
  obtain rfl | ⟨_, run⟩ := routes
  · exact rel_routesTo_self _
  · obtain ⟨others, ran, ⟨_, rfl⟩ | ⟨_, isRouted, _⟩⟩ := Node.routing_cases run
    · exact Node.get?_routing ran field
    · rw [notRouted] at isRouted
      cases isRouted

/-- What a branch finds, it finds routed. -/
theorem Node.RoutesTo.child? {node after : Node} (routes : node.RoutesTo after)
    (notRouted : node.isRouted = false) (branch : Branch) :
    Option.Rel Node.RoutesTo (node.child? branch) (after.child? branch) := by
  have found := routes.lookup notRouted branch.field
  unfold Node.child?
  generalize node.fields.lookup branch.field = before at found ⊢
  generalize after.fields.lookup branch.field = other at found ⊢
  cases found with
  | none => exact .none
  | @some value other relate => exact relate.follow branch

end JsxRouting
