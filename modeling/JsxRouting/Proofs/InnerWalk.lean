import JsxRouting.Proofs.Findings

namespace JsxRouting

namespace ScopeStack

theorem modifyLast_eq_self {change : Frame → Frame} {frames : List Frame}
    (same : ∀ frame, frames.getLast? = some frame → change frame = frame) :
    modifyLast change frames = frames := by
  fun_induction modifyLast change frames with
  | case1 => rfl
  | case2 frame => rw [same frame rfl]
  | case3 frame next rest ih => rw [ih (by simpa using same)]

theorem modifyRoot_eq_self {stack : ScopeStack} {root : Frame} {change : Frame → Frame}
    (isRoot : stack.root? = some root) (same : change root = root) : stack.modifyRoot change = stack := by
  have kept : modifyLast change stack.frames = stack.frames := by
    refine modifyLast_eq_self fun frame last => ?_
    cases Option.some.inj (isRoot.symm.trans last)
    exact same
  simp only [modifyRoot, kept]

theorem isEmpty_modifyRoot (stack : ScopeStack) (change : Frame → Frame) :
    (stack.modifyRoot change).isEmpty = stack.isEmpty := by
  obtain ⟨frames⟩ := stack
  unfold isEmpty modifyRoot
  fun_cases modifyLast change frames <;> rfl

theorem root?_push {stack : ScopeStack} (frame : Frame) (opened : stack.isEmpty = false) :
    (stack.push frame).root? = stack.root? := by
  obtain ⟨frames⟩ := stack
  cases frames with
  | nil => simp [isEmpty] at opened
  | cons => simp [root?, push]

theorem modifyRoot_push {stack : ScopeStack} (frame : Frame) (change : Frame → Frame)
    (opened : stack.isEmpty = false) :
    (stack.push frame).modifyRoot change = (stack.modifyRoot change).push frame := by
  obtain ⟨frames⟩ := stack
  cases frames with
  | nil => simp [isEmpty] at opened
  | cons => rfl

end ScopeStack

namespace Node

/-- The tag under which an element inside a function is routed, if it can be routed at all. -/
def routingTag (element : Node) : Except Error (Option Scalar) := do
  match ← element.nameUse with
  | .object name => do
    let _ ← name.asName
    return none
  | .tag name => do
    let name ← name.asName
    let _ ← element.route (.scalar name)
    return some name
  | .component _ | .namespaced | .explicit _ => return none

theorem tag?_of_routingTag {element : Node} {tag : Option Scalar} (found : element.routingTag = .ok tag) :
    element.tag? = tag := by
  unfold routingTag at found
  obtain ⟨use, isUse, found⟩ := bind_eq_ok_iff.mp found
  unfold tag?
  rw [isUse]
  cases use with
  | tag name =>
    obtain ⟨scalar, isName, found⟩ := bind_eq_ok_iff.mp found
    obtain ⟨_, _, found⟩ := bind_eq_ok_iff.mp found
    cases found
    cases name <;> cases isName
    rfl
  | object name =>
    obtain ⟨_, _, found⟩ := bind_eq_ok_iff.mp found
    cases found
    rfl
  | component | namespaced | explicit =>
    cases found
    rfl

end Node

/-- Routing alone: every element whose name is a tag is routed under it. -/
def routing : Transformer (Except Error) where
  enter _ node := if node.is .jsxElement then node.routingTag else return none
  leave _ tag node :=
    match tag with
    | some tag => node.route (.scalar tag)
    | none => return node

namespace Pass

/-- What the pass has done after it found an element inside a function. -/
def observe (pass : Pass) (progress : Progress) (element : Node) : Progress :=
  match progress.stack.root?, element.nameUse with
  | some root, .ok (.object (.scalar name)) =>
    if pass.topScope.contains name || root.objects.contains name then progress
    else (progress.record .objects name).note (.trackedObject name)
  | some root, .ok (.component name) =>
    if root.components.contains (.text name) || pass.topScope.contains (.text name) then progress
    else
      let progress := { progress with needsHelper := progress.needsHelper || name != layoutComponent }
      (progress.record .components (.text name)).note (.trackedComponent (.text name))
  | some root, .ok (.tag (.scalar name)) =>
    if root.tags.contains name then progress
    else (progress.record .tags name).note (.trackedTag name)
  | _, _ => progress

theorem trackElement_eq (pass : Pass) {progress : Progress} {root : Frame} (element : Node)
    (isRoot : progress.stack.root? = some root) :
    pass.trackElement root element progress =
      element.routingTag.map fun tag => (tag, pass.observe progress element) := by
  unfold trackElement Node.routingTag observe
  rw [isRoot]
  cases element.nameUse with
  | error error => rfl
  | ok use =>
    cases use with
    | object name =>
      cases name with
      | scalar name =>
        simp only [bind, Except.bind, Value.asName, Except.map, pure, Except.pure]
        split <;> rfl
      | list | object | node => rfl
    | tag name =>
      cases name with
      | scalar name =>
        simp only [bind, Except.bind, Value.asName]
        cases element.route (.scalar name) with
        | error error => rfl
        | ok routed =>
          simp only [Except.map, pure, Except.pure]
          split <;> rfl
      | list | object | node => rfl
    | component name =>
      simp only [bind, Except.bind, Except.map, pure, Except.pure]
      split <;> rfl
    | namespaced | explicit => rfl

/-- On the stack, finding an element changes the outermost frame only. -/
theorem stack_observe (pass : Pass) (progress : Progress) (element : Node) :
    (pass.observe progress element).stack =
      progress.stack.modifyRoot fun frame => frame.observe pass.topScope element := by
  unfold observe Frame.observe
  cases isRoot : progress.stack.root? with
  | none =>
    obtain ⟨⟨frames⟩, _, _, _⟩ := progress
    have nothing : frames = [] := List.getLast?_eq_none_iff.mp isRoot
    subst nothing
    rfl
  | some root =>
    have unchanged {change : Frame → Frame} (same : change root = root) :
        progress.stack = progress.stack.modifyRoot change := (ScopeStack.modifyRoot_eq_self isRoot same).symm
    have there {names : NameSet} {name : Scalar} (found : names.contains name = true) :
        names.insert name = names := NameSet.insert_of_contains found
    cases element.nameUse with
    | error error => exact unchanged rfl
    | ok use =>
      cases use with
      | object name =>
        cases name with
        | scalar name =>
          by_cases known : pass.topScope.contains name
          · simpa [known] using unchanged rfl
          · by_cases found : root.objects.contains name
            · simpa [known, found] using unchanged (by simp [Frame.insert, there found])
            · simp [known, found, Progress.record, Progress.note]
        | list | object | node => exact unchanged rfl
      | component name =>
        by_cases known : pass.topScope.contains (.text name)
        · simpa [known] using unchanged rfl
        · by_cases found : root.components.contains (.text name)
          · simpa [known, found] using unchanged (by simp [Frame.insert, there found])
          · simp [known, found, Progress.record, Progress.note]
      | tag name =>
        cases name with
        | scalar name =>
          by_cases found : root.tags.contains name
          · simpa [found] using unchanged (by simp [Frame.insert, there found])
          · simp [found, Progress.record, Progress.note]
        | list | object | node => exact unchanged rfl
      | namespaced | explicit => exact unchanged rfl

theorem observe_push (pass : Pass) {progress : Progress} (isEntryPoint : Bool) (element : Node)
    (opened : progress.stack.isEmpty = false) :
    pass.observe (progress.push isEntryPoint) element = (pass.observe progress element).push isEntryPoint := by
  have sameRoot : (progress.push isEntryPoint).stack.root? = progress.stack.root? :=
    ScopeStack.root?_push _ opened
  have under (change : Frame → Frame) := ScopeStack.modifyRoot_push { isEntryPoint } change opened
  unfold observe
  rw [sameRoot]
  -- In each case either nothing is recorded, or the record is made below the new frame.
  split <;> (try split) <;> simp only [Progress.note, Progress.record, Progress.push, under]

/-- After all elements of a list were found. -/
def observeAll (pass : Pass) (progress : Progress) (elements : List Node) : Progress :=
  elements.foldl pass.observe progress

theorem isEmpty_observeAll (pass : Pass) (progress : Progress) (elements : List Node) :
    (pass.observeAll progress elements).stack.isEmpty = progress.stack.isEmpty := by
  induction elements generalizing progress with
  | nil => rfl
  | cons element rest ih =>
    exact (ih _).trans (by rw [stack_observe, ScopeStack.isEmpty_modifyRoot])

theorem observeAll_push (pass : Pass) {progress : Progress} (isEntryPoint : Bool) (elements : List Node)
    (opened : progress.stack.isEmpty = false) :
    pass.observeAll (progress.push isEntryPoint) elements =
      (pass.observeAll progress elements).push isEntryPoint := by
  induction elements generalizing progress with
  | nil => rfl
  | cons element rest ih =>
    have still : (pass.observe progress element).stack.isEmpty = false := by
      rw [stack_observe, ScopeStack.isEmpty_modifyRoot, opened]
    exact (congrArg (pass.observeAll · rest) (pass.observe_push isEntryPoint element opened)).trans (ih still)

end Pass

/-- While a function is open, the action does what the plain computation does and finds the elements. -/
def Records (pass : Pass) {α : Type} (action : PassM α) (plain : Except Error α) (elements : List Node) : Prop :=
  Acts (fun progress => progress.stack.isEmpty = false) action plain (pass.observeAll · elements)

namespace Records

variable {pass : Pass} {α β : Type}

theorem pure (value : α) : Records pass (Pure.pure value) (Pure.pure value) [] := Acts.pure value

theorem bind {action : PassM α} {plain : Except Error α} {elements others : List Node}
    {next : α → PassM β} {plainNext : α → Except Error β} (first : Records pass action plain elements)
    (second : ∀ value, plain = .ok value → Records pass (next value) (plainNext value) others) :
    Records pass (action >>= next) (plain >>= plainNext) (elements ++ others) := by
  have both := Acts.bind first (fun progress opened => by rw [Pass.isEmpty_observeAll, opened]) second
  intro progress opened
  rw [both progress opened]
  simp only [Function.comp_apply, Pass.observeAll, List.foldl_append]

end Records

theorem Pass.records_enter (pass : Pass) (place : Place) {node : Node} (noFunction : node.isFunction = false) :
    Records pass (pass.enter place node) (routing.enter place node)
      (if node.kind = .jsxElement then [node] else []) := by
  intro progress opened
  obtain ⟨root, isRoot⟩ : ∃ root, progress.stack.root? = some root := by
    refine Option.isSome_iff_exists.mp (List.getLast?_isSome.mpr ?_)
    simpa [ScopeStack.isEmpty] using opened
  unfold Pass.enter routing
  by_cases element : node.kind = .jsxElement
  · simp only [noFunction, Node.is, element, beq_self_eq_true, if_true, isRoot]
    exact pass.trackElement_eq node isRoot
  · simp [noFunction, Node.is, element]
    rfl

theorem Pass.records_leave (pass : Pass) (place : Place) (tag : Option Scalar) {node : Node}
    (noFunction : node.isFunction = false) :
    Records pass (pass.leave place tag node) (routing.leave place tag node) [] := by
  intro progress _
  unfold Pass.leave routing
  cases tag with
  | none => simp only [noFunction]; rfl
  | some tag => cases node.route (.scalar tag) <;> rfl

theorem isSome_of_enter_routing {place : Place} {node : Node} {tag : Option Scalar}
    (entered : routing.enter place node = .ok tag) : tag.isSome = node.isRouted := by
  unfold Node.isRouted
  cases element : node.is .jsxElement with
  | true =>
    simp only [routing, element, if_true] at entered
    rw [Node.tag?_of_routingTag entered, Bool.true_and]
  | false =>
    simp only [routing, element] at entered
    cases entered
    rfl

/-- The pass on a node: entering it, going through its fields and leaving it, one after the other. -/
theorem Pass.transform_mk (pass : Pass) (place : Place) (kind : Kind) (fields : List (Field × Value))
    (extra : Value) (attached : List (String × Value)) (progress : Progress) :
    (Node.mk kind fields extra attached).transform pass.transformer place progress =
      pass.enter place (.mk kind fields extra attached) progress >>= fun entered =>
        transformFields pass.transformer (place.inField kind fields entered.1.isSome) fields entered.2 >>=
          fun walked => pass.leave place entered.1 (.mk kind walked.1 extra attached) walked.2 := rfl

/-- Routing alone neither chooses a function nor changes it when it is left. -/
theorem routing_function {kind : Kind} (place : Place) (fields : List (Field × Value)) (extra : Value)
    (attached : List (String × Value)) (function : kind.isFunction = true) :
    (Node.mk kind fields extra attached).transform routing place =
      (transformFields routing (place.inField kind fields false) fields).map (.mk kind · extra attached) := by
  have noElement : (Node.mk kind fields extra attached).is .jsxElement = false := by
    cases kind <;> first | rfl | cases function
  have entered : routing.enter place (.mk kind fields extra attached) = .ok none := by
    simp only [routing, noElement]
    rfl
  rw [Node.transform, entered]
  simp only [bind, Except.bind, Option.isSome_none]
  cases transformFields routing (place.inField kind fields false) fields <;> rfl

/-- A function inside a function opens and closes a frame of its own, in which nothing is recorded. -/
theorem Pass.records_function (pass : Pass) (place : Place) {kind : Kind} {fields : List (Field × Value)}
    (extra : Value) (attached : List (String × Value)) {elements : List Node}
    (function : kind.isFunction = true)
    (inner : Records pass (transformFields pass.transformer (place.inField kind fields false) fields)
      (transformFields routing (place.inField kind fields false) fields) elements) :
    Records pass ((Node.mk kind fields extra attached).transform pass.transformer place)
      ((Node.mk kind fields extra attached).transform routing place) elements := by
  intro progress opened
  have entered : pass.enter place (.mk kind fields extra attached) progress = .ok (none, progress.push false) := by
    simp only [enter, Node.isFunction, Node.kind, function, if_true, opened, Bool.false_and]
    rfl
  have ran := inner (progress.push false) rfl
  simp only [pass.observeAll_push false elements opened] at ran
  have left (after : List (Field × Value)) :
      pass.leave place none (.mk kind after extra attached) ((pass.observeAll progress elements).push false) =
        .ok (.mk kind after extra attached, pass.observeAll progress elements) := by
    have still : (pass.observeAll progress elements).stack.isEmpty = false := by
      rw [isEmpty_observeAll, opened]
    simp only [leave, Node.isFunction, Node.kind, function, if_true, leaveFunction, Progress.push,
      ScopeStack.push, ScopeStack.pop?]
    rw [if_neg (by simpa [ScopeStack.isEmpty] using still)]
    rfl
  rw [pass.transform_mk, entered, routing_function place fields extra attached function]
  simp only [bind, Except.bind, Option.isSome_none, ran]
  cases transformFields routing (place.inField kind fields false) fields with
  | error error => rfl
  | ok after => exact left after

mutual

theorem Node.records (pass : Pass) : ∀ (node : Node) (place : Place),
    Records pass (node.transform pass.transformer place) (node.transform routing place)
      (node.jsxElements Node.isRouted place)
  | .mk kind fields extra attached, place => by
    cases function : kind.isFunction with
    | true =>
      have noElement : ¬ kind = .jsxElement := by
        rintro rfl
        cases function
      have notRouted : (Node.mk kind fields extra attached).isRouted = false := by
        simp [Node.isRouted, Node.is, Node.kind, noElement]
      rw [Node.jsxElements, if_neg noElement, notRouted]
      exact pass.records_function place extra attached function (records_fields pass fields _)
    | false =>
      have noFunction : (Node.mk kind fields extra attached).isFunction = false := function
      rw [Node.transform, Node.transform, Node.jsxElements]
      refine (pass.records_enter place noFunction).bind fun tag entered => ?_
      rw [← isSome_of_enter_routing entered, ← List.append_nil (jsxElementsInFields _ _ _)]
      exact (records_fields pass fields _).bind fun after _ => pass.records_leave place tag function

theorem records_fields (pass : Pass) : ∀ (fields : List (Field × Value)) (placeOf : Field → Option Place),
    Records pass (transformFields pass.transformer placeOf fields) (transformFields routing placeOf fields)
      (jsxElementsInFields Node.isRouted placeOf fields)
  | [], _ => Records.pure []
  | (field, value) :: rest, placeOf => by
    rw [transformFields, transformFields, jsxElementsInFields]
    have tail (after : Value) := (records_fields pass rest placeOf).bind fun others _ =>
      Records.pure ((field, after) :: others)
    simp only [List.append_nil] at tail
    cases placeOf field with
    | some place => exact (Value.records pass value place).bind fun after _ => tail after
    | none => exact (Records.pure value).bind fun after _ => tail after

theorem Value.records (pass : Pass) : ∀ (value : Value) (place : Place),
    Records pass (value.transform pass.transformer place) (value.transform routing place)
      (value.jsxElements Node.isRouted place)
  | .node child, place => by
    rw [Value.transform, Value.transform, Value.jsxElements, ← List.append_nil (child.jsxElements _ _)]
    exact (Node.records pass child place).bind fun after _ => Records.pure _
  | .list items, place => by
    rw [Value.transform, Value.transform, Value.jsxElements, ← List.append_nil (jsxElementsInItems _ _)]
    exact (records_items pass items).bind fun others _ => Records.pure _
  | .scalar value, _ => Records.pure _
  | .object members, _ => Records.pure _

theorem records_items (pass : Pass) : ∀ items : List Value,
    Records pass (transformItems pass.transformer items) (transformItems routing items)
      (jsxElementsInItems Node.isRouted items)
  | [] => Records.pure []
  | .node child :: rest => by
    rw [transformItems, transformItems, jsxElementsInItems]
    refine (Node.records pass child .plain).bind fun after _ => ?_
    rw [← List.append_nil (jsxElementsInItems _ _)]
    exact (records_items pass rest).bind fun others _ => Records.pure _
  | .scalar value :: rest | .list items :: rest | .object members :: rest => by
    rw [← List.append_nil (jsxElementsInItems _ _)]
    exact (records_items pass rest).bind fun others _ => Records.pure _

end

end JsxRouting
