import JsxRouting.Proofs.FunctionList
import JsxRouting.Proofs.OutermostFunctions
import JsxRouting.Proofs.RoutedPositions

namespace JsxRouting

/-- The computation fails with the first of these errors, and succeeds if there are none. -/
def FailsFirst {α : Type} (run : Except Error α) : List Error → Prop
  | [] => ∃ value, run = .ok value
  | error :: _ => run = .error error

namespace FailsFirst

variable {α β : Type}

theorem pure (value : α) : FailsFirst (Pure.pure value) [] := ⟨value, rfl⟩

theorem bind {first : Except Error α} {next : α → Except Error β} {errors others : List Error}
    (fails : FailsFirst first errors) (failsNext : ∀ value, first = .ok value → FailsFirst (next value) others) :
    FailsFirst (first >>= next) (errors ++ others) := by
  cases errors with
  | nil =>
    obtain ⟨value, rfl⟩ := fails
    exact failsNext value rfl
  | cons error rest =>
    obtain rfl : first = .error error := fails
    rfl

/-- What never fails behind a computation adds no error to it. -/
theorem bind_ok {first : Except Error α} {next : α → Except Error β} {errors : List Error}
    (fails : FailsFirst first errors) (succeeds : ∀ value, first = .ok value → ∃ result, next value = .ok result) :
    FailsFirst (first >>= next) errors := by
  rw [← List.append_nil errors]
  exact fails.bind succeeds

theorem mapM {step : α → Except Error β} {errors : α → List Error} {list : List α}
    (each : ∀ a ∈ list, FailsFirst (step a) (errors a)) : FailsFirst (list.mapM step) (list.flatMap errors) := by
  induction list with
  | nil => exact pure []
  | cons first rest ih =>
    rw [List.mapM_cons, List.flatMap_cons]
    refine (each first List.mem_cons_self).bind fun value _ => ?_
    exact (ih fun a member => each a (List.mem_cons_of_mem _ member)).bind_ok fun values _ => pure (value :: values)

theorem exists_error_iff {run : Except Error α} {errors : List Error} (fails : FailsFirst run errors) :
    (∃ error, run = .error error) ↔ errors ≠ [] := by
  cases errors with
  | nil =>
    obtain ⟨value, rfl⟩ := fails
    exact ⟨fun ⟨_, same⟩ => (nomatch same), fun nonempty => absurd rfl nonempty⟩
  | cons error rest => exact ⟨fun _ => List.cons_ne_nil error rest, fun _ => ⟨error, fails⟩⟩

theorem mem_of_error {run : Except Error α} {errors : List Error} {error : Error} (fails : FailsFirst run errors)
    (failed : run = .error error) : error ∈ errors := by
  cases errors with
  | nil =>
    obtain ⟨value, rfl⟩ := fails
    cases failed
  | cons first rest =>
    cases failed.symm.trans fails
    exact List.mem_cons_self

/-- The error is that of the first item that has one. -/
theorem error_of_first {β : Type} {run : Except Error α} {error? : β → Option Error}
    {before after : List β} {item : β}
    {error : Error} (fails : FailsFirst run ((before ++ item :: after).filterMap error?))
    (noneBefore : ∀ other ∈ before, error? other = none) (isError : error? item = some error) :
    run = .error error := by
  rw [List.filterMap_append, List.filterMap_eq_nil_iff.mpr noneBefore, List.nil_append,
    List.filterMap_cons_some isError] at fails
  exact fails

section Visit

variable {visit : Place → Node → Except Error Node} {errors : Place × Node → List Error}

theorem visitItems {items : List Value}
    (each : ∀ child ∈ items.filterMap Value.node?, FailsFirst (visit .plain child) (errors (.plain, child))) :
    FailsFirst (items.mapM (Value.visitItem visit))
      ((items.filterMap Value.node?).flatMap fun child => errors (.plain, child)) := by
  induction items with
  | nil => exact pure []
  | cons item rest ih =>
    rw [List.mapM_cons]
    cases item with
    | node child =>
      have here := (each child List.mem_cons_self).bind_ok fun after _ => pure (Value.node after)
      refine here.bind fun after _ => ?_
      exact (ih fun other member => each other (List.mem_cons_of_mem _ member)).bind_ok
        fun others _ => pure (after :: others)
    | scalar | list | object => exact (ih each).bind_ok fun others _ => pure (_ :: others)

theorem visitNodes {place : Place} {value : Value}
    (each : ∀ entry ∈ value.placedNodes place, FailsFirst (visit entry.1 entry.2) (errors entry)) :
    FailsFirst (value.visitNodes visit place) ((value.placedNodes place).flatMap errors) := by
  cases value with
  | node child =>
    rw [Value.placedNodes, List.flatMap_singleton]
    exact (each _ (List.mem_singleton_self _)).bind_ok fun after _ => pure (Value.node after)
  | list items =>
    rw [Value.placedNodes, List.flatMap_map]
    refine (visitItems fun child member => each (.plain, child) (List.mem_map_of_mem member)).bind_ok ?_
    exact fun others _ => pure (Value.list others)
  | scalar | object => exact pure _

/-- Visiting the nodes in the fields fails where visiting the first of them fails. -/
theorem visitFields {placeOf : Field → Option Place} {fields : List (Field × Value)}
    (each : ∀ entry ∈ placedNodes placeOf fields, FailsFirst (visit entry.1 entry.2) (errors entry)) :
    FailsFirst (fields.mapM (visitField visit placeOf)) ((placedNodes placeOf fields).flatMap errors) := by
  rw [placedNodes, List.flatMap_assoc]
  refine mapM fun entry member => ?_
  rw [visitField]
  cases placed : placeOf entry.1 with
  | none => exact pure entry
  | some place =>
    have inField := fun child (inEntry : child ∈ entry.2.placedNodes place) =>
      each child (List.mem_flatMap.mpr ⟨entry, member, by rwa [placed]⟩)
    exact (visitNodes inField).bind_ok fun value _ => pure (entry.1, value)

end Visit

end FailsFirst

namespace Node

/-- Changing the outermost functions of a tree fails where changing the first of them fails. -/
theorem mapOutermost_fails {change : Place → Node → Except Error Node} {errors : Place × Node → List Error}
    {node : Node} {place : Place}
    (each : ∀ entry ∈ node.functions place, FailsFirst (change entry.1 entry.2) (errors entry)) :
    FailsFirst (node.mapOutermost change place) ((node.functions place).flatMap errors) := by
  induction node using induction_children generalizing place with
  | step node ih =>
    by_cases isFunction : node.isFunction = true
    · rw [functions_of_function place isFunction] at each ⊢
      rw [mapOutermost_of_function isFunction, List.flatMap_singleton]
      exact each _ (List.mem_singleton_self _)
    · rw [functions_of_not_function place isFunction] at each ⊢
      rw [mapOutermost_of_not_function isFunction, mapOutermostInFields_eq, List.flatMap_assoc]
      have fields := FailsFirst.visitFields fun entry placed =>
        ih entry.2 (mem_children_of_mem_placedNodes placed) fun function below =>
          each function (List.mem_flatMap.mpr ⟨entry, placed, below⟩)
      exact fields.bind_ok fun others _ => FailsFirst.pure (Node.mk node.kind others node.extra node.attached)

def routingError? (element : Node) : Option Error :=
  match element.routingTag with
  | .ok _ => none
  | .error error => some error

theorem routingTag_fails (element : Node) : FailsFirst element.routingTag element.routingError?.toList := by
  unfold routingError?
  cases run : element.routingTag with
  | ok tag => exact ⟨tag, rfl⟩
  | error error => rfl

theorem route_of_parts {element opening : Node} {name closing : Value} (tag : Value)
    (isOpening : element.get? .openingElement = some (.node opening)) (isName : opening.get? .name = some name)
    (isClosing : element.get? .closingElement = some closing)
    (isPart : closing = .null ∨ ∃ part, closing = .node part) : ∃ after, element.route tag = .ok after := by
  unfold route
  obtain rfl | ⟨part, rfl⟩ := isPart
  · simp only [isOpening, isName, isClosing]
    exact ⟨_, rfl⟩
  · simp only [isOpening, isName, isClosing]
    exact ⟨_, rfl⟩

theorem route_of_routingTag {element : Node} {tag : Scalar} (tagged : element.routingTag = .ok (some tag)) :
    ∃ after, element.route (.scalar tag) = .ok after := by
  obtain ⟨use, _, tagged⟩ := bind_eq_ok_iff.mp tagged
  cases use with
  | tag name =>
    obtain ⟨scalar, _, tagged⟩ := bind_eq_ok_iff.mp tagged
    obtain ⟨after, routed, tagged⟩ := bind_eq_ok_iff.mp tagged
    cases tagged
    exact ⟨after, routed⟩
  | object name =>
    obtain ⟨_, _, tagged⟩ := bind_eq_ok_iff.mp tagged
    cases tagged
  | component | namespaced | explicit => cases tagged

/-- An element that can be routed when the walk comes to it can be routed when the walk leaves it: the parts that
hold its names are still there. -/
theorem route_walked {element : Node} {fields : List (Field × Value)} {place : Place} {tag : Scalar}
    (isElement : element.kind = .jsxElement) (tagged : element.routingTag = .ok (some tag))
    (ran : transformFields routing (place.inField element.kind element.fields true) element.fields = .ok fields) :
    ∃ after, (Node.mk element.kind fields element.extra element.attached).route (.scalar tag) = .ok after := by
  obtain ⟨after, routed⟩ := route_of_routingTag tagged
  obtain ⟨opening, name, closing, isOpening, isName, isClosing, parts⟩ := route_cases routed
  have isPart : closing = .null ∨ ∃ part, closing = .node part :=
    parts.imp (fun noPart => noPart.1) fun ⟨part, isPart, _⟩ => ⟨part, isPart⟩
  rw [transformFields_eq] at ran
  have relate := visitFields_relate ran
  obtain ⟨openingAfter, isOpeningAfter, isNameAfter⟩ : ∃ openingAfter,
      (Node.mk element.kind fields element.extra element.attached).get? .openingElement =
        some (.node openingAfter) ∧
        openingAfter.get? .name = some name := by
    obtain same | ⟨value, other, isValue, isOther, values⟩ := relate.get?_cases .openingElement
    · exact ⟨opening, same.trans isOpening, isName⟩
    · cases isValue.symm.trans isOpening
      rw [isElement, Place.inField_part place _ (.inl rfl)] at values
      cases values with
      | node ranOpening => exact ⟨_, isOther, by rw [get?_name_routing ranOpening, isName]⟩
  obtain same | ⟨value, other, isValue, isOther, values⟩ := relate.get?_cases .closingElement
  · exact route_of_parts _ isOpeningAfter isNameAfter (same.trans isClosing) isPart
  · cases isValue.symm.trans isClosing
    rw [isElement, Place.inField_part place _ (.inr rfl)] at values
    obtain rfl | ⟨part, rfl⟩ := isPart
    · cases values
      exact route_of_parts _ isOpeningAfter isNameAfter isOther (.inl rfl)
    · cases values with
      | node ranPart => exact route_of_parts _ isOpeningAfter isNameAfter isOther (.inr ⟨_, rfl⟩)

/-- Routing alone fails with the error of the first element that cannot be routed. -/
theorem routing_fails (node : Node) (place : Place) :
    FailsFirst (node.transform routing place) ((node.jsxElements isRouted place).filterMap routingError?) := by
  induction node using induction_children generalizing place with
  | step node ih =>
    have entered : FailsFirst (routing.enter place node)
        ((if node.kind = .jsxElement then [node] else []).filterMap routingError?) := by
      unfold routing
      by_cases isElement : node.kind = .jsxElement
      · simp only [is, isElement, beq_self_eq_true, if_true]
        exact node.routingTag_fails
      · have noElement : (node.kind == .jsxElement) = false := by simpa using isElement
        simp only [is, isElement, noElement, if_false, Bool.false_eq_true]
        exact FailsFirst.pure none
    have unfolded : node.transform routing place = (routing.enter place node >>= fun tag =>
        transformFields routing (place.inField node.kind node.fields tag.isSome) node.fields >>= fun fields =>
          routing.leave place tag (.mk node.kind fields node.extra node.attached)) := by
      obtain ⟨kind, fields, extra, attached⟩ := node
      rfl
    rw [unfolded, jsxElements_eq, List.filterMap_append, List.filterMap_flatMap]
    refine entered.bind fun tag isTag => ?_
    rw [← isSome_of_enter_routing isTag]
    refine FailsFirst.bind_ok ?_ fun fields ran => ?_
    · rw [transformFields_eq]
      exact FailsFirst.visitFields fun entry placed => ih entry.2 (mem_children_of_mem_placedNodes placed) entry.1
    · cases tag with
      | none => exact ⟨_, rfl⟩
      | some tag =>
        have isElement : node.kind = .jsxElement := kind_of_isRouted (isSome_of_enter_routing isTag).symm
        simp only [routing, is, isElement, beq_self_eq_true, if_true] at isTag
        exact route_walked isElement isTag ran

end Node

end JsxRouting
