import JsxRouting.Proofs.InnerWalk
import JsxRouting.Walk

namespace JsxRouting

/-- A call on entering or leaving a node, with the stack as it is after the call. -/
structure Call where
  moment : Moment
  place : Place
  node : Node
  stack : ScopeStack

/-- A function that was entered and not left, with the elements that were entered since. -/
structure OpenFunction where
  place : Place
  function : Node
  elements : List Node := []

namespace OpenFunction

/-- The function with one more element in it. -/
def see (element : Node) (opened : OpenFunction) : OpenFunction :=
  { opened with elements := opened.elements ++ [element] }

/-- The place and the function, whatever is in it. -/
def entered (opened : OpenFunction) : Place × Node := (opened.place, opened.function)

/-- The open functions after one more call, the innermost first. -/
def track (opened : List OpenFunction) (call : Call) : List OpenFunction :=
  match call.moment with
  | .enter =>
    if call.node.isFunction then ⟨call.place, call.node, []⟩ :: opened
    else if call.node.is .jsxElement then opened.map (see call.node)
    else opened
  | .leave => if call.node.isFunction then opened.tail else opened

/-- The functions that are open after these calls, the innermost first. -/
def after (calls : List Call) : List OpenFunction := calls.foldl track []

theorem map_entered_see (element : Node) (opened : List OpenFunction) :
    (opened.map (see element)).map entered = opened.map entered := by
  rw [List.map_map]
  rfl

end OpenFunction

namespace Pass

/-- The frame of a function that stands in no other, after the elements in it were entered. -/
def frameAfter (pass : Pass) (opened : OpenFunction) : Frame :=
  opened.elements.foldl (Frame.observe pass.topScope) { isEntryPoint := opened.function.isEntryPoint opened.place }

/-- The frames of open functions. -/
def framesFor (pass : Pass) : List OpenFunction → List Frame
  | [] => []
  | [outermost] => [pass.frameAfter outermost]
  | _ :: next :: rest => {} :: pass.framesFor (next :: rest)

/-- What holds of the stack while these functions are open. -/
structure StackInvariant (pass : Pass) (opened : List OpenFunction) (stack : ScopeStack) : Prop where
  size : stack.size = opened.length
  /-- The frames are nested as the functions are. -/
  nested : ∀ (index : Nat) (function : OpenFunction), opened[index]? = some function →
    stack.frames[index]? = some (if index + 1 = opened.length then pass.frameAfter function else {})
  root : stack.root? = opened.getLast?.map pass.frameAfter
  root_none : stack.root? = none ↔ opened = []
  inner : ∀ frame ∈ stack.frames.dropLast, frame.isEmpty = true ∧ frame.isEntryPoint = false
  known : ∀ frame ∈ stack.frames, ∀ name, pass.topScope.contains name = true →
    frame.components.contains name = false ∧ frame.objects.contains name = false

section Frames

variable (pass : Pass)

theorem length_framesFor (opened : List OpenFunction) : (pass.framesFor opened).length = opened.length := by
  induction opened with
  | nil => rfl
  | cons first rest ih =>
    cases rest with
    | nil => rfl
    | cons => rw [framesFor, List.length_cons, ih, ← List.length_cons]

theorem framesFor_eq_nil {opened : List OpenFunction} : pass.framesFor opened = [] ↔ opened = [] := by
  rw [← List.length_eq_zero_iff, length_framesFor, List.length_eq_zero_iff]

theorem getLast?_framesFor (opened : List OpenFunction) :
    (pass.framesFor opened).getLast? = opened.getLast?.map pass.frameAfter := by
  induction opened with
  | nil => rfl
  | cons first rest ih =>
    cases rest with
    | nil => rfl
    | cons next rest =>
      have something : pass.framesFor (next :: rest) ≠ [] := fun none => nomatch (pass.framesFor_eq_nil.mp none)
      rw [framesFor, List.getLast?_cons_of_ne_nil something, ih, List.getLast?_cons_cons]

theorem getElem?_framesFor {opened : List OpenFunction} {index : Nat} {function : OpenFunction}
    (there : opened[index]? = some function) :
    (pass.framesFor opened)[index]? =
      some (if index + 1 = opened.length then pass.frameAfter function else {}) := by
  induction opened generalizing index with
  | nil => cases there
  | cons first rest ih =>
    cases rest with
    | nil =>
      cases index with
      | zero =>
        cases there
        rfl
      | succ => cases there
    | cons next rest =>
      cases index with
      | zero =>
        rw [if_neg (by simp)]
        rfl
      | succ index =>
        rw [framesFor, List.getElem?_cons_succ, ih there]
        simp only [List.length_cons, Nat.add_right_cancel_iff]

/-- All frames but that of the outermost function are as they were opened. -/
theorem eq_of_mem_dropLast {opened : List OpenFunction} {frame : Frame}
    (member : frame ∈ (pass.framesFor opened).dropLast) :
    frame = {} := by
  induction opened with
  | nil => cases member
  | cons first rest ih =>
    cases rest with
    | nil => cases member
    | cons next rest =>
      have something : pass.framesFor (next :: rest) ≠ [] := fun none => nomatch (pass.framesFor_eq_nil.mp none)
      rw [framesFor, List.dropLast_cons_of_ne_nil something] at member
      obtain same | inRest := List.mem_cons.mp member
      · exact same
      · exact ih inRest

/-- A frame that observes elements takes up no component and no object of the top scope. -/
theorem known_frameAfter (opened : OpenFunction) {name : Scalar} (isKnown : pass.topScope.contains name = true) :
    (pass.frameAfter opened).components.contains name = false ∧
      (pass.frameAfter opened).objects.contains name = false := by
  have none (found : List Scalar) :
      (Findings.firstOccurrences (found.filter fun other => !pass.topScope.contains other)).any
        (·.same name) = false := by
    rw [Findings.any_same_firstOccurrences, List.any_eq_false]
    intro other member same
    have isOther := (List.mem_filter.mp member).2
    rw [pass.topScope.contains_congr same, isKnown] at isOther
    cases isOther
  have found := Frame.findings_foldl_observe pass.topScope
    (opened.function.isEntryPoint opened.place) opened.elements
  exact ⟨(congrArg (fun found => found.components.any (·.same name)) found).trans (none _),
    (congrArg (fun found => found.objects.any (·.same name)) found).trans (none _)⟩

theorem known_of_mem_framesFor {opened : List OpenFunction} {frame : Frame} (member : frame ∈ pass.framesFor opened)
    {name : Scalar} (isKnown : pass.topScope.contains name = true) :
    frame.components.contains name = false ∧ frame.objects.contains name = false := by
  induction opened with
  | nil => cases member
  | cons first rest ih =>
    cases rest with
    | nil =>
      obtain rfl := List.mem_singleton.mp member
      exact pass.known_frameAfter first isKnown
    | cons next rest =>
      obtain rfl | inRest := List.mem_cons.mp member
      · exact ⟨rfl, rfl⟩
      · exact ih inRest

theorem stackInvariant_of_frames {opened : List OpenFunction} {stack : ScopeStack}
    (frames : stack.frames = pass.framesFor opened) : pass.StackInvariant opened stack := by
  obtain ⟨_⟩ := stack
  obtain rfl := frames
  have root := pass.getLast?_framesFor opened
  refine ⟨pass.length_framesFor opened, fun _ _ => pass.getElem?_framesFor, root, ?_, fun frame member => ?_,
    fun frame member name => pass.known_of_mem_framesFor member⟩
  · rw [ScopeStack.root?, root, Option.map_eq_none_iff, List.getLast?_eq_none_iff]
  · rw [pass.eq_of_mem_dropLast member]
    exact ⟨rfl, rfl⟩

theorem framesFor_enter (place : Place) (function : Node) (opened : List OpenFunction) :
    pass.framesFor (⟨place, function, []⟩ :: opened) =
      { isEntryPoint := opened.isEmpty && function.isEntryPoint place } :: pass.framesFor opened := by
  cases opened <;> rfl

theorem framesFor_see (element : Node) (opened : List OpenFunction) :
    pass.framesFor (opened.map (OpenFunction.see element)) =
      ScopeStack.modifyLast (fun frame => frame.observe pass.topScope element) (pass.framesFor opened) := by
  induction opened with
  | nil => rfl
  | cons first rest ih =>
    cases rest with
    | nil =>
      have seen : (OpenFunction.see element first).elements = first.elements ++ [element] := rfl
      simp only [List.map_cons, List.map_nil, framesFor, ScopeStack.modifyLast, frameAfter, seen, List.foldl_append,
        List.foldl_cons, List.foldl_nil]
      rfl
    | cons next rest =>
      have frames : pass.framesFor (next :: rest) ≠ [] := fun none => nomatch (pass.framesFor_eq_nil.mp none)
      obtain ⟨frame, others, areFrames⟩ := List.exists_cons_of_ne_nil frames
      rw [List.map_cons, List.map_cons, framesFor, framesFor, areFrames, ScopeStack.modifyLast, ← areFrames, ← ih,
        List.map_cons]

theorem framesFor_tail (opened : List OpenFunction) :
    pass.framesFor opened.tail = (pass.framesFor opened).tail := by
  match opened with
  | [] => rfl
  | [_] => rfl
  | _ :: _ :: _ => rfl

end Frames

section Calls

variable {pass : Pass} {opened : List OpenFunction} {progress after : Progress} {place : Place} {node : Node}

/-- Entering a node keeps a frame for each open function. -/
theorem frames_enter (frames : progress.stack.frames = pass.framesFor opened) {tag : Option Scalar}
    (entered : pass.enter place node progress = .ok (tag, after)) :
    after.stack.frames = pass.framesFor (OpenFunction.track opened ⟨.enter, place, node, after.stack⟩) := by
  unfold enter at entered
  unfold OpenFunction.track
  cases function : node.isFunction with
  | true =>
    simp only [function, if_true] at entered ⊢
    cases entered
    have outermost : progress.stack.isEmpty = opened.isEmpty := by
      rw [ScopeStack.isEmpty, frames]
      match opened with
      | [] => rfl
      | [_] => rfl
      | _ :: _ :: _ => rfl
    rw [pass.framesFor_enter, ← outermost, ← frames]
    rfl
  | false =>
    simp only [function, Bool.false_eq_true, if_false] at entered ⊢
    cases element : node.is .jsxElement with
    | false =>
      simp only [element, Bool.false_eq_true, if_false] at entered ⊢
      cases entered
      exact frames
    | true =>
      simp only [element, if_true] at entered ⊢
      cases isRoot : progress.stack.root? with
      | none =>
        rw [isRoot] at entered
        cases entered
        have nothing := List.getLast?_eq_none_iff.mp isRoot
        rw [nothing] at frames
        rw [nothing, pass.framesFor_eq_nil.mp frames.symm]
        rfl
      | some root =>
        rw [isRoot] at entered
        simp only [pass.trackElement_eq node isRoot] at entered
        obtain ⟨_, _, same⟩ := map_eq_ok_iff.mp entered
        cases same
        rw [stack_observe, pass.framesFor_see, ← frames]
        rfl

/-- Leaving a function takes off the innermost frame. -/
theorem frames_leaveFunction {left : Node} (ran : pass.leaveFunction place node progress = .ok (left, after)) :
    after.stack.frames = progress.stack.frames.tail := by
  unfold leaveFunction at ran
  obtain ⟨⟨frames⟩, _, _, _⟩ := progress
  cases frames with
  | nil => cases ran
  | cons frame rest =>
    simp only [ScopeStack.pop?] at ran
    split at ran
    · obtain ⟨injected, _, ran⟩ := bind_eq_ok_iff.mp ran
      cases injected <;> cases ran <;> rfl
    · cases ran
      rfl

/-- Leaving a node keeps a frame for each open function. No function is left with a tag. -/
theorem frames_leave (frames : progress.stack.frames = pass.framesFor opened) {tag : Option Scalar} {left : Node}
    (noTag : node.isFunction = true → tag = none) (ran : pass.leave place tag node progress = .ok (left, after)) :
    after.stack.frames = pass.framesFor (OpenFunction.track opened ⟨.leave, place, node, after.stack⟩) := by
  unfold leave at ran
  unfold OpenFunction.track
  cases function : node.isFunction with
  | true =>
    obtain rfl := noTag function
    simp only [function, if_true] at ran ⊢
    rw [frames_leaveFunction ran, frames, pass.framesFor_tail]
  | false =>
    simp only [function, Bool.false_eq_true, if_false] at ran ⊢
    cases tag with
    | none =>
      cases ran
      exact frames
    | some tag =>
      obtain ⟨routed, _, same⟩ := bind_eq_ok_iff.mp ran
      cases same
      exact frames

end Calls

end Pass

end JsxRouting
