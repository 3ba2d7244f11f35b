import JsxRouting.Declarations.Injection
import JsxRouting.Element.Name
import JsxRouting.Pass.Notice
import JsxRouting.Pass.Transform

namespace JsxRouting

/-- The name of functions that take components as props. -/
def entryPoint : String := "MDXContent"

/-- What the pass is run with. Names of the top scope refer to what is declared there. -/
structure Pass where
  options : Options
  topScope : NameSet

/-- What the pass has done so far: which functions are open, what was found in them, and what the program needs in
the end. -/
structure Progress where
  stack : ScopeStack := .empty
  needsHelper : Bool := false
  needsProvider : Bool := false
  notices : List Notice := []

abbrev PassM := StateT Progress (Except Error)

namespace Progress

def note (progress : Progress) (notice : Notice) : Progress :=
  { progress with notices := progress.notices ++ [notice] }

/-- Records a name in the frame of the outermost open function. -/
def record (progress : Progress) (part : Frame.Part) (name : Scalar) : Progress :=
  { progress with stack := progress.stack.modifyRoot fun frame => frame.insert part name }

/-- Opens a frame. -/
def push (progress : Progress) (isEntryPoint : Bool) : Progress :=
  { progress with stack := progress.stack.push { isEntryPoint := isEntryPoint } }

end Progress

namespace Node

/-- The name by which a function is known: its own, or that of the variable which it initialises. -/
def functionName (node : Node) (place : Place) : Option Value :=
  let ofPlace := match place with
    | .initOf name => some name
    | _ => none
  match node.is .functionDeclaration, node.get? .id with
  | true, some id => if (id.nodeOf? .identifier).isSome then id.givenName? else ofPlace
  | _, _ => ofPlace

/-- Whether a function is known by the name of entry points. -/
def isEntryPoint (node : Node) (place : Place) : Bool :=
  match node.functionName place with
  | some (.scalar (.text name)) => name == entryPoint
  | _ => false

end Node

namespace Pass

/-- Records the name of an element inside a function, and tells the tag under which the element is to
be routed. An element that cannot be routed is an error at once. -/
def trackElement (pass : Pass) (root : Frame) (element : Node) (progress : Progress) :
    Except Error (Option Scalar × Progress) := do
  match ← element.nameUse with
  | .object name =>
    let name ← name.asName
    if pass.topScope.contains name || root.objects.contains name then return (none, progress)
    else return (none, (progress.record .objects name).note (.trackedObject name))
  | .component name =>
    if root.components.contains (.text name) || pass.topScope.contains (.text name) then
      return (none, progress)
    else
      let progress := { progress with needsHelper := progress.needsHelper || name != layoutComponent }
      return (none, (progress.record .components (.text name)).note (.trackedComponent (.text name)))
  | .tag name =>
    let name ← name.asName
    let _ ← element.route (.scalar name)
    if root.tags.contains name then return (some name, progress)
    else return (some name, (progress.record .tags name).note (.trackedTag name))
  | .namespaced | .explicit _ => return (none, progress)

/-- Before the children of a node: a function opens a frame, an element in a function is recorded. -/
def enter (pass : Pass) (place : Place) (node : Node) : PassM (Option Scalar) := fun progress => do
  if node.isFunction then
    let outermost := progress.stack.isEmpty
    return (none, progress.push (outermost && node.isEntryPoint place))
  else if node.is .jsxElement then
    match progress.stack.root? with
    | some root => pass.trackElement root node progress
    | none => return (none, progress)
  else return (none, progress)

/-- Closes the frame of a function. The outermost function receives declarations for what its frame
holds. -/
def leaveFunction (pass : Pass) (place : Place) (function : Node) : PassM Node := fun progress => do
  match progress.stack.pop? with
  | none => .error .wrongShape
  | some (frame, stack) =>
    let progress := { progress with stack := stack }
    if stack.isEmpty then
      match ← function.injectDeclarations frame pass.options.usesProvider with
      | some injected =>
        let progress := progress.note (.injected (function.functionName place) frame)
        return (injected,
          { progress with needsProvider := progress.needsProvider || pass.options.usesProvider })
      | none => return (function, progress)
    else return (function, progress)

/-- After the children of a node: an element that was chosen is routed, a function is closed. -/
def leave (pass : Pass) (place : Place) (tag : Option Scalar) (node : Node) : PassM Node :=
  match tag with
  | some tag => do return ← (node.route (.scalar tag) : Except Error Node)
  | none => if node.isFunction then pass.leaveFunction place node else pure node

def transformer (pass : Pass) : Transformer PassM := ⟨pass.enter, pass.leave⟩

end Pass

end JsxRouting
