import JsxRouting.Pass.Run
import JsxRouting.Tree.Editing
import JsxRouting.Tree.Equality
import JsxRouting.Tree.Text
import JsxRouting.Walk

namespace JsxRouting

/-- A step on the current tree. -/
inductive Step
  /-- Makes the read data the current tree. -/
  | load (data : Json)
  /-- Routes the elements of the current tree. -/
  | route
  /-- Writes the current tree. -/
  | dump
  /-- Writes the current tree as text and reads it again. -/
  | reload
  | scope
  | walk
  | equal (data : Json)
  | get (path : List PathStep)
  | set (path : List PathStep) (data : Json)
  | insert (path : List PathStep) (index : Int) (data : Json)
  /-- Tells the use of the name of the element at the path. -/
  | classify (path : List PathStep)

/-- What a step answers. -/
inductive Outcome
  | kind (kind : Kind)
  | tree (data : Json)
  | names (names : List Scalar)
  | visits (visits : List Visit)
  | equal (equal : Bool)
  | value (data : Json)
  | done
  | use (use : NameUse)

/-- What a session works with. Before a tree is loaded there is nothing in its place. -/
structure Session where
  options : Options
  known : Option NameSet
  current : Value := .null

namespace Session

/-- The current tree. -/
def tree (session : Session) : Except Error Node :=
  match session.current with
  | .node tree => .ok tree
  | _ => .error .wrongShape

def withTree (session : Session) (tree : Node) : Session := { session with current := .node tree }

/-- Changes the part of the tree to which a path leads. -/
def change (session : Session) (path : List PathStep) (change : Value → Except Error Value) :
    Except Error Session := do
  return { session with current := ← session.current.modify change path }

def step (session : Session) : Step → Except Error (Outcome × Session)
  | .load data => do
    let tree ← Node.read data
    return (.kind tree.kind, session.withTree tree)
  | .route => do
    let routed ← routeProgram session.options session.known (← session.tree)
    return (.tree (← routed.tree.toJson), session.withTree routed.tree)
  | .dump => do return (.tree (← (← session.tree).toJson), session)
  | .reload => do
    let tree ← Node.parse (← (← session.tree).print none)
    return (.kind tree.kind, session.withTree tree)
  | .scope => do return (.names (← (← session.tree).topScopeNames), session)
  | .walk => do return (.visits (← (← session.tree).visits), session)
  | .equal data => do
    let other ← Node.read data
    return (.equal (session.current.same (.node other)), session)
  | .get path => do return (.value (← (← session.current.follow path).toJson), session)
  | .set path data => do
    let value ← Value.read data
    match path.getLast? with
    | some last => return (.done, ← session.change path.dropLast fun parent => parent.setPart last value)
    | none => .error .wrongShape
  | .insert path index data => do
    let value ← Value.read data
    return (.done, ← session.change path fun list => list.insertItem index value)
  | .classify path => do
    match ← session.current.follow path with
    | .node element => return (.use (← element.nameUse), session)
    | _ => .error .wrongShape

/-- Takes steps until one fails: the outcomes, and the error of the last step if there is one. -/
def run (session : Session) : List Step → List Outcome × Option Error
  | [] => ([], none)
  | step :: rest =>
    match session.step step with
    | .error error => ([], some error)
    | .ok (outcome, session) =>
      let (outcomes, error) := session.run rest
      (outcome :: outcomes, error)

end Session

end JsxRouting
