import JsxRouting.Pass.Run
import JsxRouting.Proofs.FunctionList
import JsxRouting.Proofs.InnerWalk

namespace JsxRouting

mutual

/-- Changes the functions of a node that stand in no other function. -/
def Node.mapOutermost (change : Place → Node → Except Error Node) (place : Place) : Node → Except Error Node
  | .mk kind fields extra attached =>
    if kind.isFunction then change place (.mk kind fields extra attached)
    else do
      let fields ← mapOutermostInFields change (place.inField kind fields false) fields
      return .mk kind fields extra attached

def mapOutermostInFields (change : Place → Node → Except Error Node) (placeOf : Field → Option Place) :
    List (Field × Value) → Except Error (List (Field × Value))
  | [] => return []
  | (field, value) :: rest => do
    let value ← match placeOf field with
      | some place => value.mapOutermost change place
      | none => pure value
    let rest ← mapOutermostInFields change placeOf rest
    return (field, value) :: rest

def Value.mapOutermost (change : Place → Node → Except Error Node) (place : Place) : Value → Except Error Value
  | .node child => do return .node (← child.mapOutermost change place)
  | .list items => do return .list (← mapOutermostInItems change items)
  | .scalar value => return .scalar value
  | .object members => return .object members

def mapOutermostInItems (change : Place → Node → Except Error Node) : List Value → Except Error (List Value)
  | [] => return []
  | .node child :: rest => do
    let child ← child.mapOutermost change .plain
    let rest ← mapOutermostInItems change rest
    return .node child :: rest
  | item :: rest => do
    let rest ← mapOutermostInItems change rest
    return item :: rest

end

namespace Node

/-- A program is no function. -/
theorem not_isFunction_of_program {node : Node} (program : node.kind = .program) : ¬ node.isFunction = true := by
  rw [isFunction, program]
  decide

theorem mapOutermost_of_function {change : Place → Node → Except Error Node} {place : Place} {node : Node}
    (function : node.isFunction = true) : node.mapOutermost change place = change place node := by
  obtain ⟨kind, fields, extra, attached⟩ := node
  rw [mapOutermost]
  exact if_pos function

theorem mapOutermost_of_not_function {change : Place → Node → Except Error Node} {place : Place} {node : Node}
    (noFunction : ¬ node.isFunction = true) :
    node.mapOutermost change place =
      (mapOutermostInFields change (place.inField node.kind node.fields false) node.fields).map
        (.mk node.kind · node.extra node.attached) := by
  obtain ⟨kind, fields, extra, attached⟩ := node
  rw [mapOutermost, if_neg (show ¬ kind.isFunction = true from noFunction)]
  simp only [Node.kind, Node.fields, Node.extra, Node.attached]
  cases mapOutermostInFields change (place.inField kind fields false) fields <;> rfl

theorem kind_mapOutermost {change : Place → Node → Except Error Node} {node after : Node} {place : Place}
    (noFunction : ¬ node.isFunction = true) (mapped : node.mapOutermost change place = .ok after) :
    after.kind = node.kind := by
  rw [mapOutermost_of_not_function noFunction] at mapped
  obtain ⟨_, _, rfl⟩ := map_eq_ok_iff.mp mapped
  rfl

end Node

namespace Pass

/-- The frame of an outermost function when it is left. -/
def frameOf (pass : Pass) (place : Place) (function : Node) : Frame :=
  (function.jsxElements Node.isRouted .plain).foldl (Frame.observe pass.topScope)
    { isEntryPoint := function.isEntryPoint place }

/-- What the pass makes of an outermost function. -/
def declare (pass : Pass) (place : Place) (function : Node) : Except Error Node := do
  let routed ← function.transform routing .plain
  let injected ← routed.injectDeclarations (pass.frameOf place function) pass.options.usesProvider
  return injected.getD routed

end Pass

namespace Pass

/-- Whether what is found in a function needs the helper: a component other than the layout. -/
def needsHelperFor (pass : Pass) (function : Node) : Bool :=
  (Findings.within pass.topScope function).components.any (· != .text layoutComponent)

/-- Whether a function receives declarations that use the provider. -/
def needsProviderFor (pass : Pass) (function : Node) : Bool :=
  pass.options.usesProvider && !(Findings.within pass.topScope function).isEmpty

/-- No function is open after these functions were left, and what they need has been added to what was needed
before. -/
structure Settled (pass : Pass) (functions : List (Place × Node)) (before after : Progress) : Prop where
  closed : after.stack.isEmpty = true
  helper : after.needsHelper = (before.needsHelper || functions.any fun entry => pass.needsHelperFor entry.2)
  provider : after.needsProvider =
    (before.needsProvider || functions.any fun entry => pass.needsProviderFor entry.2)

theorem exists_settled (pass : Pass) (functions : List (Place × Node)) (before : Progress) :
    ∃ after, pass.Settled functions before after :=
  ⟨⟨.empty, _, _, []⟩, rfl, rfl, rfl⟩

theorem Settled.trans {pass : Pass} {functions others : List (Place × Node)} {before middle after : Progress}
    (first : pass.Settled functions before middle) (second : pass.Settled others middle after) :
    pass.Settled (functions ++ others) before after where
  closed := second.closed
  helper := by rw [second.helper, first.helper, List.any_append, Bool.or_assoc]
  provider := by rw [second.provider, first.provider, List.any_append, Bool.or_assoc]

end Pass

/-- While no function is open, the action does what the plain computation does, and leaves these functions. -/
def Rests (pass : Pass) {α : Type} (action : PassM α) (plain : Except Error α) (functions : List (Place × Node)) :
    Prop :=
  ∀ progress : Progress, progress.stack.isEmpty = true →
    ∃ after : Progress, pass.Settled functions progress after ∧
      action progress = plain.map fun value => (value, after)

namespace Rests

variable {pass : Pass} {α β : Type}

theorem pure (value : α) : Rests pass (Pure.pure value) (Pure.pure value) [] :=
  fun progress closed => ⟨progress, ⟨closed, by simp, by simp⟩, rfl⟩

theorem bind {action : PassM α} {plain : Except Error α} {next : α → PassM β} {plainNext : α → Except Error β}
    {functions others : List (Place × Node)} (first : Rests pass action plain functions)
    (second : ∀ value, Rests pass (next value) (plainNext value) others) :
    Rests pass (action >>= next) (plain >>= plainNext) (functions ++ others) := by
  intro progress closed
  obtain ⟨middle, settled, ran⟩ := first progress closed
  have run : (action >>= next) progress = action progress >>= fun (value, progress) => next value progress := rfl
  rw [run, ran]
  cases plain with
  | error error =>
    obtain ⟨after, settled⟩ := pass.exists_settled (functions ++ others) progress
    exact ⟨after, settled, rfl⟩
  | ok value =>
    obtain ⟨after, settledAfter, ranNext⟩ := second value middle settled.closed
    exact ⟨after, settled.trans settledAfter, ranNext⟩

end Rests

namespace Place

theorem inField_of_visible {place : Place} (visible : place.hidesName = false) (kind : Kind)
    (fields : List (Field × Value)) (routed : Bool) :
    place.inField kind fields routed = Place.plain.inField kind fields routed := by
  cases place with
  | plain | initOf => rfl
  | routedPart => cases visible

/-- The initial value of a variable keeps no name out of reach. -/
theorem hidesName_ofInit (fields : List (Field × Value)) : (ofInit fields).hidesName = false := by
  unfold ofInit
  split
  · split <;> rfl
  · rfl

theorem visible_inField {kind : Kind} {fields : List (Field × Value)} {field : Field} {place inner : Place}
    (placed : place.inField kind fields false field = some inner) : inner.hidesName = false := by
  unfold inField at placed
  split at placed
  · cases placed
  · split at placed
    · cases placed
      exact hidesName_ofInit fields
    · simp only [Bool.false_eq_true, false_and, if_false, Option.some.injEq] at placed
      subst placed
      rfl

end Place

namespace Pass

theorem stack_observeAll (pass : Pass) {progress : Progress} {frame : Frame} (elements : List Node)
    (single : progress.stack = ⟨[frame]⟩) :
    (pass.observeAll progress elements).stack = ⟨[elements.foldl (Frame.observe pass.topScope) frame]⟩ := by
  induction elements generalizing progress frame with
  | nil => exact single
  | cons element rest ih =>
    refine ih ?_
    rw [stack_observe, single]
    rfl

/-- While elements are found, what the helper is needed for is the components in the frame. -/
theorem needsHelper_observeAll (pass : Pass) {progress : Progress} {frame : Frame}
    (elements : List Node) (before : Bool) (single : progress.stack = ⟨[frame]⟩)
    (counted : progress.needsHelper = (before || frame.components.toList.any (· != .text layoutComponent))) :
    (pass.observeAll progress elements).needsHelper =
      (before || (elements.foldl (Frame.observe pass.topScope) frame).components.toList.any
        (· != .text layoutComponent)) := by
  induction elements generalizing progress frame with
  | nil => exact counted
  | cons element rest ih =>
    refine ih (by rw [stack_observe, single]; rfl) ?_
    have isRoot : progress.stack.root? = some frame := by rw [single]; rfl
    unfold observe Frame.observe
    rw [isRoot]
    cases element.nameUse with
    | error error => exact counted
    | ok use =>
      cases use with
      | object name =>
        cases name with
        | scalar name => by_cases known : pass.topScope.contains name <;>
            by_cases found : frame.objects.contains name <;>
            simp [known, found, counted, Progress.record, Progress.note, Frame.insert]
        | list | object | node => exact counted
      | component name =>
        by_cases known : pass.topScope.contains (.text name)
        · simp [known, counted]
        · by_cases found : frame.components.contains (.text name)
          · simp [known, found, counted, Frame.insert, NameSet.insert_of_contains found]
          · have differs : (Scalar.text name != .text layoutComponent) = (name != layoutComponent) := by
              simp [bne, BEq.beq]
            simp [known, found, counted, Progress.record, Progress.note, Frame.insert, NameSet.toList_insert,
              differs, Bool.or_assoc]
      | tag name =>
        cases name with
        | scalar name => by_cases found : frame.tags.contains name <;>
            simp [found, counted, Progress.record, Progress.note, Frame.insert]
        | list | object | node => exact counted
      | namespaced | explicit => exact counted

theorem needsProvider_observeAll (pass : Pass) (progress : Progress) (elements : List Node) :
    (pass.observeAll progress elements).needsProvider = progress.needsProvider := by
  induction elements generalizing progress with
  | nil => rfl
  | cons element rest ih =>
    refine (ih _).trans ?_
    unfold observe
    split <;> (try split) <;> rfl

/-- A function receives nothing exactly if its frame is empty. -/
theorem isEmpty_of_injectDeclarations {function : Node} {frame : Frame} {usesProvider : Bool}
    {injected : Option Node} (injects : function.injectDeclarations frame usesProvider = .ok injected) :
    frame.isEmpty = injected.isNone := by
  unfold Node.injectDeclarations at injects
  cases nothing : frame.isEmpty with
  | true =>
    rw [nothing] at injects
    cases injects
    rfl
  | false =>
    rw [nothing] at injects
    split at injects
    · cases ‹false = true›
    split at injects
    · obtain ⟨reading, _, injects⟩ := bind_eq_ok_iff.mp injects
      obtain ⟨declarations, _, injects⟩ := bind_eq_ok_iff.mp injects
      obtain ⟨after, _, injects⟩ := bind_eq_ok_iff.mp injects
      cases injects
      rfl
    · obtain ⟨declarations, _, injects⟩ := bind_eq_ok_iff.mp injects
      obtain ⟨after, _, injects⟩ := bind_eq_ok_iff.mp injects
      cases injects
      rfl

/-- Leaving the outermost function declares what its frame holds. -/
theorem leave_outermost (pass : Pass) (place : Place) {progress : Progress} {frame : Frame} {function : Node}
    (single : progress.stack = ⟨[frame]⟩) (isFunction : function.isFunction = true) :
    ∃ after : Progress, after.stack.isEmpty = true ∧ after.needsHelper = progress.needsHelper ∧
      after.needsProvider = (progress.needsProvider || pass.options.usesProvider && !frame.isEmpty) ∧
      pass.leave place none function progress =
        (function.injectDeclarations frame pass.options.usesProvider).map fun injected =>
          (injected.getD function, after) := by
  have leaves : pass.leave place none function progress = pass.leaveFunction place function progress := by
    simp only [leave, isFunction, if_true]
  rw [leaves]
  unfold leaveFunction
  rw [single]
  simp only [ScopeStack.pop?]
  cases injects : function.injectDeclarations frame pass.options.usesProvider with
  | error error =>
    exact ⟨{ progress with
      stack := ⟨[]⟩
      needsProvider := progress.needsProvider || pass.options.usesProvider && !frame.isEmpty }, rfl, rfl, rfl, rfl⟩
  | ok injected =>
    cases injected with
    | none =>
      have nothing : frame.isEmpty = true := isEmpty_of_injectDeclarations injects
      exact ⟨{ progress with stack := ⟨[]⟩ }, rfl, rfl, by simp [nothing], rfl⟩
    | some injected =>
      have something : frame.isEmpty = false := isEmpty_of_injectDeclarations injects
      refine ⟨{ progress with
        stack := ⟨[]⟩
        needsProvider := progress.needsProvider || pass.options.usesProvider
        notices := progress.notices ++ [.injected (function.functionName place) frame] }, rfl, rfl, ?_, rfl⟩
      simp [something]

/-- The pass does to an outermost function what it declares for that function alone. -/
theorem rests_function (pass : Pass) {place : Place} {kind : Kind} {fields : List (Field × Value)}
    (extra : Value) (attached : List (String × Value)) (visible : place.hidesName = false)
    (function : kind.isFunction = true) :
    Rests pass ((Node.mk kind fields extra attached).transform pass.transformer place)
      (pass.declare place (.mk kind fields extra attached)) [(place, .mk kind fields extra attached)] := by
  intro progress closed
  have noFrames : progress.stack.frames = [] := by simpa [ScopeStack.isEmpty] using closed
  have entered : pass.enter place (.mk kind fields extra attached) progress =
      .ok (none, progress.push ((Node.mk kind fields extra attached).isEntryPoint place)) := by
    simp only [enter, Node.isFunction, Node.kind, function, if_true, closed, Bool.true_and]
    rfl
  have ran := records_fields pass fields (Place.plain.inField kind fields false)
    (progress.push ((Node.mk kind fields extra attached).isEntryPoint place)) rfl
  have noElement : ¬ kind = .jsxElement := by
    rintro rfl
    cases function
  have within : (Node.mk kind fields extra attached).jsxElements Node.isRouted .plain =
      jsxElementsInFields Node.isRouted (Place.plain.inField kind fields false) fields := by
    have notRouted : (Node.mk kind fields extra attached).isRouted = false := by
      simp [Node.isRouted, Node.is, Node.kind, noElement]
    rw [Node.jsxElements, if_neg noElement, notRouted, List.nil_append]
  rw [pass.transform_mk, entered, declare, routing_function .plain fields extra attached function]
  simp only [bind, Except.bind, Option.isSome_none, Place.inField_of_visible visible, ran]
  cases transformFields routing (Place.plain.inField kind fields false) fields with
  | error error =>
    obtain ⟨after, settled⟩ := pass.exists_settled [(place, .mk kind fields extra attached)] progress
    exact ⟨after, settled, rfl⟩
  | ok routed =>
    have opens : (progress.push ((Node.mk kind fields extra attached).isEntryPoint place)).stack =
        ⟨[{ isEntryPoint := (Node.mk kind fields extra attached).isEntryPoint place }]⟩ := by
      simp only [Progress.push, ScopeStack.push, noFrames]
    have single := pass.stack_observeAll
      (jsxElementsInFields Node.isRouted (Place.plain.inField kind fields false) fields)
      opens
    have helper := pass.needsHelper_observeAll
      (jsxElementsInFields Node.isRouted (Place.plain.inField kind fields false) fields)
      progress.needsHelper opens (by simp [Progress.push])
    have found := Frame.findings_foldl_observe pass.topScope
      ((Node.mk kind fields extra attached).isEntryPoint place)
      (jsxElementsInFields Node.isRouted (Place.plain.inField kind fields false) fields)
    obtain ⟨after, closedAfter, helperAfter, providerAfter, left⟩ := pass.leave_outermost place single
      (show (Node.mk kind routed extra attached).isFunction = true from function)
    refine ⟨after, ⟨closedAfter, ?_, ?_⟩, ?_⟩
    · rw [helperAfter, helper]
      simp [needsHelperFor, Findings.within, within, ← found, Frame.findings]
    · rw [providerAfter, needsProvider_observeAll]
      simp [needsProviderFor, Findings.within, within, ← found, Frame.isEmpty_findings, Progress.push]
    · simp only [Except.map] at left ⊢
      rw [left, frameOf, within]
      cases Node.injectDeclarations _ _ _ <;> rfl

end Pass

mutual

theorem Node.rests (pass : Pass) : ∀ (node : Node) (place : Place), place.hidesName = false →
    Rests pass (node.transform pass.transformer place) (node.mapOutermost pass.declare place) (node.functions place)
  | .mk kind fields extra attached, place, visible => by
    rw [Node.mapOutermost, Node.functions]
    cases function : kind.isFunction with
    | true => exact pass.rests_function extra attached visible function
    | false =>
      intro progress closed
      have noRoot : progress.stack.root? = none := by
        have noFrames : progress.stack.frames = [] := by simpa [ScopeStack.isEmpty] using closed
        simp [ScopeStack.root?, noFrames]
      have entered : pass.enter place (.mk kind fields extra attached) progress = .ok (none, progress) := by
        simp only [Pass.enter, Node.isFunction, Node.kind, function, noRoot, Bool.false_eq_true, if_false]
        split <;> rfl
      have left (after : List (Field × Value)) (progress : Progress) :
          pass.leave place none (.mk kind after extra attached) progress =
            .ok (.mk kind after extra attached, progress) := by
        simp only [Pass.leave, Node.isFunction, Node.kind, function]
        rfl
      obtain ⟨after, settled, ran⟩ := rests_fields pass fields (place.inField kind fields false)
        (fun _ _ placed => Place.visible_inField placed) progress closed
      refine ⟨after, settled, ?_⟩
      rw [pass.transform_mk, entered]
      simp only [bind, Except.bind, Option.isSome_none, ran, left, Bool.false_eq_true, if_false]
      cases mapOutermostInFields pass.declare (place.inField kind fields false) fields <;> rfl

theorem rests_fields (pass : Pass) : ∀ (fields : List (Field × Value)) (placeOf : Field → Option Place),
    (∀ field place, placeOf field = some place → place.hidesName = false) →
    Rests pass (transformFields pass.transformer placeOf fields) (mapOutermostInFields pass.declare placeOf fields)
      (functionsInFields placeOf fields)
  | [], _, _ => Rests.pure []
  | (field, value) :: rest, placeOf, visible => by
    rw [transformFields, mapOutermostInFields, functionsInFields]
    have tail (after : Value) := (rests_fields pass rest placeOf visible).bind fun others =>
      Rests.pure ((field, after) :: others)
    simp only [List.append_nil] at tail
    cases placed : placeOf field with
    | some place => exact (Value.rests pass value place (visible field place placed)).bind tail
    | none => exact (Rests.pure value).bind tail

theorem Value.rests (pass : Pass) : ∀ (value : Value) (place : Place), place.hidesName = false →
    Rests pass (value.transform pass.transformer place) (value.mapOutermost pass.declare place)
      (value.functions place)
  | .node child, place, visible => by
    rw [Value.transform, Value.mapOutermost, Value.functions, ← List.append_nil (child.functions _)]
    exact (Node.rests pass child place visible).bind fun after => Rests.pure (Value.node after)
  | .list items, _, _ => by
    rw [Value.transform, Value.mapOutermost, Value.functions, ← List.append_nil (functionsInItems _)]
    exact (rests_items pass items).bind fun others => Rests.pure (Value.list others)
  | .scalar value, _, _ => Rests.pure (Value.scalar value)
  | .object members, _, _ => Rests.pure (Value.object members)

theorem rests_items (pass : Pass) : ∀ items : List Value,
    Rests pass (transformItems pass.transformer items) (mapOutermostInItems pass.declare items)
      (functionsInItems items)
  | [] => Rests.pure []
  | .node child :: rest => by
    rw [transformItems, mapOutermostInItems, functionsInItems]
    refine (Node.rests pass child .plain rfl).bind fun after => ?_
    rw [← List.append_nil (functionsInItems _)]
    exact (rests_items pass rest).bind fun others => Rests.pure (Value.node after :: others)
  | .scalar value :: rest => by
    rw [← List.append_nil (functionsInItems _)]
    exact (rests_items pass rest).bind fun others => Rests.pure (Value.scalar value :: others)
  | .list items :: rest => by
    rw [← List.append_nil (functionsInItems _)]
    exact (rests_items pass rest).bind fun others => Rests.pure (Value.list items :: others)
  | .object members :: rest => by
    rw [← List.append_nil (functionsInItems _)]
    exact (rests_items pass rest).bind fun others => Rests.pure (Value.object members :: others)

end

namespace Pass

/-- The pass over a program does what it declares for each of the outermost functions alone, and then puts in
front what they need. -/
theorem run_eq (pass : Pass) (tree : Node) :
    ∃ progress, pass.Settled (tree.functions .plain) {} progress ∧
      pass.run tree = (tree.mapOutermost pass.declare .plain >>= fun walked =>
        addHelper progress walked >>= addProvider pass.options progress) := by
  obtain ⟨progress, settled, ran⟩ := Node.rests pass tree .plain rfl {} rfl
  refine ⟨progress, settled, ?_⟩
  have unfolded : pass.run tree = (tree.transform pass.transformer .plain {} >>= fun result =>
      addHelper result.2 result.1 >>= addProvider pass.options result.2) := rfl
  rw [unfolded, ran]
  cases tree.mapOutermost pass.declare .plain <;> rfl

theorem addHelper_eq_ok {progress : Progress} {tree : Node} {routed : Routed}
    (added : addHelper progress tree = .ok routed) :
    List.foldlM Node.prependStatement tree (if progress.needsHelper then [missingComponentFunction] else []) =
      .ok routed.tree := by
  unfold addHelper at added
  split at added
  · rename_i needed
    obtain ⟨after, prepended, added⟩ := bind_eq_ok_iff.mp added
    cases added
    rw [if_pos needed]
    exact bind_eq_ok_iff.mpr ⟨after, prepended, rfl⟩
  · rename_i free
    cases added
    rw [if_neg free]
    rfl

theorem addProvider_eq_ok {options : Options} {progress : Progress} {routed result : Routed}
    (added : addProvider options progress routed = .ok result) :
    ∃ provider, provider.map Except.ok =
        (if progress.needsProvider then [providerBinding options.source options.format] else []) ∧
      List.foldlM Node.prependStatement routed.tree provider = .ok result.tree := by
  unfold addProvider at added
  split at added
  · rename_i needed
    obtain ⟨binding, bound, added⟩ := bind_eq_ok_iff.mp added
    obtain ⟨after, prepended, added⟩ := bind_eq_ok_iff.mp added
    cases added
    exact ⟨[binding], by simp [needed, bound], bind_eq_ok_iff.mpr ⟨after, prepended, rfl⟩⟩
  · rename_i free
    cases added
    exact ⟨[], by simp [free], rfl⟩

/-- After the pass over a program, the helper stands in front of it if a function needs it, and the provider in
front of both if a function uses it. -/
theorem run_eq_ok {pass : Pass} {tree : Node} {routed : Routed} (run : pass.run tree = .ok routed) :
    ∃ walked helper provider, tree.mapOutermost pass.declare .plain = .ok walked ∧
      List.foldlM Node.prependStatement walked (helper ++ provider) = .ok routed.tree ∧
      helper = (if (tree.functions .plain).any fun entry => pass.needsHelperFor entry.2
        then [missingComponentFunction] else []) ∧
      provider.map Except.ok = (if (tree.functions .plain).any fun entry => pass.needsProviderFor entry.2
        then [providerBinding pass.options.source pass.options.format] else []) := by
  obtain ⟨progress, settled, same⟩ := pass.run_eq tree
  rw [same] at run
  obtain ⟨walked, mapped, run⟩ := bind_eq_ok_iff.mp run
  obtain ⟨helped, addedHelper, addedProvider⟩ := bind_eq_ok_iff.mp run
  obtain ⟨provider, isProvider, prependedProvider⟩ := addProvider_eq_ok addedProvider
  have needsHelper : progress.needsHelper = _ := settled.helper
  have needsProvider : progress.needsProvider = _ := settled.provider
  simp only [Bool.false_or] at needsHelper needsProvider
  rw [needsProvider] at isProvider
  refine ⟨walked, _, provider, mapped, ?_, rfl, isProvider⟩
  rw [← needsHelper, List.foldlM_append]
  exact bind_eq_ok_iff.mpr ⟨helped.tree, addHelper_eq_ok addedHelper, prependedProvider⟩

/-- What the pass puts in front of a program: the helper if it is needed, and before it the provider if that is. -/
theorem front_cases {options : Options} {helps provides : Bool} {helper provider : List Node}
    (isHelper : helper = if helps then [missingComponentFunction] else [])
    (isProvider : provider.map Except.ok =
      if provides then [providerBinding options.source options.format] else []) :
    (helper = [missingComponentFunction] ∧ helps = true ∨ helper = [] ∧ helps = false) ∧
      ((∃ binding, providerBinding options.source options.format = .ok binding ∧ provider = [binding]) ∧
        provides = true ∨ provider = [] ∧ provides = false) ∧
      (helper ++ provider).reverse = provider ++ helper := by
  have helperCases : helper = [missingComponentFunction] ∧ helps = true ∨ helper = [] ∧ helps = false := by
    cases helps with
    | true => exact .inl ⟨isHelper, rfl⟩
    | false => exact .inr ⟨isHelper, rfl⟩
  have providerCases : (∃ binding, providerBinding options.source options.format = .ok binding ∧
      provider = [binding]) ∧ provides = true ∨ provider = [] ∧ provides = false := by
    cases provides with
    | true =>
      obtain ⟨binding, rfl, bound⟩ := List.map_eq_singleton_iff.mp isProvider
      exact .inl ⟨⟨binding, bound.symm, rfl⟩, rfl⟩
    | false => exact .inr ⟨List.map_eq_nil_iff.mp isProvider, rfl⟩
  refine ⟨helperCases, providerCases, ?_⟩
  obtain ⟨rfl, _⟩ | ⟨rfl, _⟩ := helperCases <;> obtain ⟨⟨_, _, rfl⟩, _⟩ | ⟨rfl, _⟩ := providerCases <;> rfl

end Pass

end JsxRouting
