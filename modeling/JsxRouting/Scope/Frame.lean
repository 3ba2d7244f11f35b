import JsxRouting.Scope.NameSet

namespace JsxRouting

/-- The names found in one function: the objects of dotted names, components, and tags. There is a frame for every
open function; what is found is recorded in that of the outermost one, because only functions that stand in no other
function receive declarations. -/
structure Frame where
  isEntryPoint : Bool := false
  objects : NameSet := .empty
  components : NameSet := .empty
  tags : NameSet := .empty

/-- The sets of a frame. -/
inductive Frame.Part
  | objects | components | tags
  deriving DecidableEq

namespace Frame

def get (frame : Frame) : Part → NameSet
  | .objects => frame.objects
  | .components => frame.components
  | .tags => frame.tags

/-- Records a name in one of the sets. -/
def insert (frame : Frame) (part : Part) (name : Scalar) : Frame :=
  match part with
  | .objects => { frame with objects := frame.objects.insert name }
  | .components => { frame with components := frame.components.insert name }
  | .tags => { frame with tags := frame.tags.insert name }

/-- Whether nothing was found. -/
def isEmpty (frame : Frame) : Bool :=
  frame.objects.isEmpty && frame.components.isEmpty && frame.tags.isEmpty

theorem get_insert (frame : Frame) (part other : Part) (name : Scalar) :
    (frame.insert part name).get other = if part = other then (frame.get other).insert name
      else frame.get other := by
  cases part <;> cases other <;> rfl

theorem isEntryPoint_insert (frame : Frame) (part : Part) (name : Scalar) :
    (frame.insert part name).isEntryPoint = frame.isEntryPoint := by
  cases part <;> rfl

end Frame

/-- The frames of the open functions, the innermost first. -/
structure ScopeStack where
  frames : List Frame := []

namespace ScopeStack

def empty : ScopeStack := ⟨[]⟩

def size (stack : ScopeStack) : Nat := stack.frames.length

def isEmpty (stack : ScopeStack) : Bool := stack.frames.isEmpty

/-- The frame of the innermost open function. -/
def top? (stack : ScopeStack) : Option Frame := stack.frames.head?

/-- The frame of the outermost open function. -/
def root? (stack : ScopeStack) : Option Frame := stack.frames.getLast?

def push (stack : ScopeStack) (frame : Frame) : ScopeStack := ⟨frame :: stack.frames⟩

/-- Takes off the innermost frame. There is none to take off an empty stack. -/
def pop? (stack : ScopeStack) : Option (Frame × ScopeStack) :=
  match stack.frames with
  | [] => none
  | frame :: rest => some (frame, ⟨rest⟩)

/-- Changes the innermost frame. -/
def modifyTop (stack : ScopeStack) (change : Frame → Frame) : ScopeStack :=
  match stack.frames with
  | [] => stack
  | frame :: rest => ⟨change frame :: rest⟩

/-- Changes the last of a list. -/
def modifyLast (change : Frame → Frame) : List Frame → List Frame
  | [] => []
  | [frame] => [change frame]
  | frame :: next :: rest => frame :: modifyLast change (next :: rest)

/-- Changing the last of a list leaves those before it. -/
theorem modifyLast_concat (change : Frame → Frame) (frames : List Frame) (last : Frame) :
    modifyLast change (frames ++ [last]) = frames ++ [change last] := by
  induction frames with
  | nil => rfl
  | cons first rest ih =>
    cases rest with
    | nil => rfl
    | cons next rest => exact congrArg (first :: ·) ih

/-- Changes the outermost frame. -/
def modifyRoot (stack : ScopeStack) (change : Frame → Frame) : ScopeStack :=
  ⟨modifyLast change stack.frames⟩

end ScopeStack

end JsxRouting
