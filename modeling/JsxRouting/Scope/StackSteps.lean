import JsxRouting.Scope.Frame

namespace JsxRouting

/-- The two frames of a stack that names are added to. -/
inductive ScopeStack.End
  | outermost | innermost
  deriving DecidableEq

inductive StackStep
  /-- Opens a frame in which nothing is recorded. -/
  | push (isEntryPoint : Bool)
  /-- Closes the innermost frame. -/
  | pop
  /-- Adds a name to one of the sets of an open frame. -/
  | add (target : ScopeStack.End) (part : Frame.Part) (name : Scalar)

namespace StackStep

def isPush : StackStep → Bool
  | .push _ => true
  | .pop | .add .. => false

def isPop : StackStep → Bool
  | .pop => true
  | .push _ | .add .. => false

end StackStep

/-- What a step answers, where a frame is given as an `α`. -/
inductive StackAnswer (α : Type)
  | pushed
  | popped (frame : α)
  /-- Whether the name was not there before. -/
  | added (isNew : Bool)
  | noFrame

/-- The answer with its frame given in another way. -/
def StackAnswer.map {α β : Type} (give : α → β) : StackAnswer α → StackAnswer β
  | .pushed => .pushed
  | .popped frame => .popped (give frame)
  | .added isNew => .added isNew
  | .noFrame => .noFrame

namespace ScopeStack

/-- The frame at an end of the stack. -/
def frame? (stack : ScopeStack) : End → Option Frame
  | .outermost => stack.root?
  | .innermost => stack.top?

/-- Changes the frame at an end of the stack. -/
def change (stack : ScopeStack) (target : End) (change : Frame → Frame) : ScopeStack :=
  match target with
  | .outermost => stack.modifyRoot change
  | .innermost => stack.modifyTop change

/-- Takes a step: what it answers, and the stack behind it. -/
def step (stack : ScopeStack) : StackStep → StackAnswer Frame × ScopeStack
  | .push isEntryPoint => (.pushed, stack.push { isEntryPoint })
  | .pop =>
    match stack.pop? with
    | some (frame, rest) => (.popped frame, rest)
    | none => (.noFrame, stack)
  | .add target part name =>
    match stack.frame? target with
    | some frame => (.added (!(frame.get part).contains name), stack.change target (·.insert part name))
    | none => (.noFrame, stack)

/-- The stack after steps that begin with no frame. -/
def after (steps : List StackStep) : ScopeStack := steps.foldl (fun stack step => (stack.step step).2) .empty

/-- Whether what stands between two parts of a stack is at an end of it. -/
def AtEnd {α : Type} (above below : List α) : End → Prop
  | .outermost => below = []
  | .innermost => above = []

/-- A change at an end of the stack leaves all other frames. -/
theorem change_of_frames {stack : ScopeStack} {target : End} {above below : List Frame} {frame : Frame}
    (frames : stack.frames = above ++ frame :: below) (atEnd : AtEnd above below target) (change : Frame → Frame) :
    stack.change target change = ⟨above ++ change frame :: below⟩ := by
  obtain ⟨_⟩ := stack
  cases frames
  cases target with
  | outermost =>
    obtain rfl : below = [] := atEnd
    exact congrArg ScopeStack.mk (modifyLast_concat change above frame)
  | innermost =>
    obtain rfl : above = [] := atEnd
    rfl

/-- The frame at an end of the stack stands there. -/
theorem exists_frames {stack : ScopeStack} {target : End} {frame : Frame}
    (isFrame : stack.frame? target = some frame) :
    ∃ above below, stack.frames = above ++ frame :: below ∧ AtEnd above below target := by
  cases target with
  | outermost =>
    obtain ⟨above, frames⟩ := List.getLast?_eq_some_iff.mp isFrame
    exact ⟨above, [], frames, rfl⟩
  | innermost =>
    obtain ⟨below, frames⟩ := List.head?_eq_some_iff.mp isFrame
    exact ⟨[], below, frames, rfl⟩

theorem step_pop {stack : ScopeStack} {frame : Frame} {rest : List Frame} (frames : stack.frames = frame :: rest) :
    stack.step .pop = (.popped frame, ⟨rest⟩) := by
  obtain ⟨_⟩ := stack
  cases frames
  rfl

/-- Where no frame is open, nothing but a push does anything. -/
theorem step_of_nil {stack : ScopeStack} (none : stack.frames = []) {step : StackStep}
    (noPush : step.isPush = false) :
    stack.step step = (.noFrame, stack) := by
  obtain ⟨_⟩ := stack
  cases none
  cases step with
  | push isEntryPoint => cases noPush
  | pop => rfl
  | add target part name => cases target <;> rfl

/-- Every step but a push needs an open frame, and none needs more. -/
theorem step_noFrame_iff (stack : ScopeStack) (step : StackStep) :
    (stack.step step).1 = .noFrame ↔ step.isPush = false ∧ stack.frames = [] := by
  refine ⟨fun failed => ?_, fun ⟨noPush, empty⟩ => congrArg Prod.fst (step_of_nil empty noPush)⟩
  obtain ⟨frames⟩ := stack
  cases frames with
  | nil =>
    cases step with
    | push isEntryPoint => cases failed
    | pop | add => exact ⟨rfl, rfl⟩
  | cons first rest =>
    cases step with
    | push isEntryPoint => cases failed
    | pop => cases failed
    | add target part name =>
      cases target with
      | outermost =>
        rw [step, frame?, root?, List.getLast?_eq_some_getLast (List.cons_ne_nil first rest)] at failed
        cases failed
      | innermost => cases failed

/-- The stack after steps and more steps. -/
theorem after_append (first second : List StackStep) :
    after (first ++ second) = second.foldl (fun stack step => (stack.step step).2) (after first) :=
      List.foldl_append

end ScopeStack

end JsxRouting
