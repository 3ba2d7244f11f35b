import JsxRouting.Proofs.OpenFrames

namespace JsxRouting

/-- Frames, the outermost first, and which of them is recorded as the root. A frame is referred to by the number of
frames under it. -/
structure RecordedStack where
  frames : List Frame := []
  root : Option Nat := none

namespace RecordedStack

/-- Opens a frame, which becomes the root if none is recorded. -/
def push (stack : RecordedStack) (frame : Frame) : RecordedStack :=
  { frames := stack.frames ++ [frame], root := stack.root.or (some stack.frames.length) }

/-- Closes the innermost frame. If it was the last one, no root is recorded any more. -/
def pop? (stack : RecordedStack) : Option (Frame × RecordedStack) :=
  match stack.frames.getLast? with
  | none => none
  | some frame =>
    let rest := stack.frames.dropLast
    some (frame, { frames := rest, root := if rest.isEmpty then none else stack.root })

/-- The frame that is recorded as the root. -/
def root? (stack : RecordedStack) : Option Frame := stack.root.bind fun position => stack.frames[position]?

/-- Changes the frame that is recorded as the root. -/
def modifyRoot (stack : RecordedStack) (change : Frame → Frame) : RecordedStack :=
  match stack.root with
  | none => stack
  | some position => { stack with frames := stack.frames.modify position change }

/-- The same frames, and a reference to the outermost of them, if there is any. -/
structure StandsFor (recorded : RecordedStack) (stack : ScopeStack) : Prop where
  frames : recorded.frames = stack.frames.reverse
  root : recorded.root = if stack.isEmpty then none else some 0

namespace StandsFor

variable {recorded : RecordedStack} {stack : ScopeStack}

theorem empty : StandsFor {} .empty := ⟨rfl, rfl⟩

theorem push (stands : recorded.StandsFor stack) (frame : Frame) :
    (recorded.push frame).StandsFor (stack.push frame) := by
  refine ⟨?_, ?_⟩
  · rw [RecordedStack.push, stands.frames]
    exact List.reverse_cons.symm
  · rw [RecordedStack.push, stands.root, stands.frames]
    obtain ⟨frames⟩ := stack
    cases frames <;> rfl

theorem pop? (stands : recorded.StandsFor stack) {frame : Frame} {rest : ScopeStack}
    (popped : stack.pop? = some (frame, rest)) :
    ∃ others, recorded.pop? = some (frame, others) ∧ others.StandsFor rest := by
  obtain ⟨frames⟩ := stack
  cases frames with
  | nil => cases popped
  | cons first frames =>
    cases popped
    have reversed : recorded.frames = frames.reverse ++ [frame] := stands.frames.trans List.reverse_cons
    refine ⟨{ frames := frames.reverse, root := if frames.reverse.isEmpty then none
      else recorded.root }, ?_, rfl, ?_⟩
    · rw [RecordedStack.pop?, reversed, List.getLast?_concat, List.dropLast_concat]
    · have root := stands.root
      rw [ScopeStack.isEmpty, List.isEmpty_cons, if_neg Bool.false_ne_true] at root
      rw [root, List.isEmpty_reverse]
      rfl

theorem root? (stands : recorded.StandsFor stack) : recorded.root? = stack.root? := by
  rw [RecordedStack.root?, stands.root, stands.frames, ScopeStack.root?, ← List.head?_reverse,
    List.head?_eq_getElem?]
  obtain ⟨frames⟩ := stack
  cases frames <;> rfl

theorem modify_reverse (change : Frame → Frame) (frames : List Frame) :
    frames.reverse.modify 0 change = (ScopeStack.modifyLast change frames).reverse := by
  induction frames with
  | nil => rfl
  | cons first rest ih =>
    cases rest with
    | nil => rfl
    | cons next rest =>
      have modified : (ScopeStack.modifyLast change (first :: next :: rest)).reverse =
          (ScopeStack.modifyLast change (next :: rest)).reverse ++ [first] := List.reverse_cons
      rw [modified, ← ih, List.reverse_cons]
      cases reversed : (next :: rest).reverse with
      | nil => cases List.reverse_eq_nil_iff.mp reversed
      | cons => rfl

theorem modifyRoot (stands : recorded.StandsFor stack) (change : Frame → Frame) :
    (recorded.modifyRoot change).StandsFor (stack.modifyRoot change) := by
  have root := stands.root
  cases isEmpty : stack.isEmpty with
  | true =>
    have none : stack.frames = [] := List.isEmpty_iff.mp isEmpty
    have same : stack.modifyRoot change = stack := by
      obtain ⟨_⟩ := stack
      cases none
      rfl
    rw [isEmpty, if_pos rfl] at root
    rw [RecordedStack.modifyRoot, root, same]
    exact stands
  | false =>
    rw [isEmpty, if_neg Bool.false_ne_true] at root
    have modified : recorded.modifyRoot change = { recorded with frames := recorded.frames.modify 0 change } := by
      rw [RecordedStack.modifyRoot, root]
    rw [modified]
    refine ⟨?_, ?_⟩
    · exact (congrArg (·.modify 0 change) stands.frames).trans (modify_reverse change stack.frames)
    · rw [ScopeStack.isEmpty_modifyRoot, isEmpty]
      exact root

end StandsFor

/-- What the pass does to the stack in a call. -/
def track (pass : Pass) (stack : RecordedStack) (call : Call) : RecordedStack :=
  match call.moment with
  | .enter =>
    if call.node.isFunction then
      stack.push { isEntryPoint := stack.frames.isEmpty && call.node.isEntryPoint call.place }
    else if call.node.is .jsxElement then stack.modifyRoot fun frame => frame.observe pass.topScope call.node
    else stack
  | .leave =>
    if call.node.isFunction then
      match stack.pop? with
      | some (_, rest) => rest
      | none => stack
    else stack

theorem StandsFor.track {pass : Pass} {recorded : RecordedStack} {opened : List OpenFunction}
    (stands : recorded.StandsFor ⟨pass.framesFor opened⟩) (call : Call) :
    (recorded.track pass call).StandsFor ⟨pass.framesFor (OpenFunction.track opened call)⟩ := by
  unfold RecordedStack.track OpenFunction.track
  cases call.moment with
  | enter =>
    cases call.node.isFunction with
    | true =>
      have outermost : recorded.frames.isEmpty = opened.isEmpty := by
        rw [stands.frames, List.isEmpty_reverse, Bool.eq_iff_iff, List.isEmpty_iff, List.isEmpty_iff,
          pass.framesFor_eq_nil]
      simp only [if_true]
      rw [pass.framesFor_enter, outermost]
      exact stands.push _
    | false =>
      cases call.node.is .jsxElement with
      | true =>
        simp only [Bool.false_eq_true, if_false, if_true]
        rw [pass.framesFor_see]
        exact stands.modifyRoot _
      | false => exact stands
  | leave =>
    cases call.node.isFunction with
    | true =>
      simp only [if_true]
      rw [pass.framesFor_tail]
      cases frames : pass.framesFor opened with
      | nil =>
        rw [frames] at stands
        rw [RecordedStack.pop?, stands.frames]
        exact stands
      | cons frame rest =>
        rw [frames] at stands
        obtain ⟨others, popped, stands⟩ := stands.pop? rfl
        rw [popped]
        exact stands
    | false => exact stands

/-- The stack after these calls. -/
def after (pass : Pass) (calls : List Call) : RecordedStack := calls.foldl (track pass) {}

theorem standsFor_after (pass : Pass) (calls : List Call) :
    (after pass calls).StandsFor ⟨pass.framesFor (OpenFunction.after calls)⟩ := by
  suffices general : ∀ (recorded : RecordedStack) (opened : List OpenFunction),
      recorded.StandsFor ⟨pass.framesFor opened⟩ →
      (calls.foldl (track pass) recorded).StandsFor ⟨pass.framesFor (calls.foldl OpenFunction.track opened)⟩ from
    general {} [] .empty
  induction calls with
  | nil => exact fun _ _ stands => stands
  | cons call rest ih => exact fun _ _ stands => ih _ _ (stands.track call)

end RecordedStack

end JsxRouting
