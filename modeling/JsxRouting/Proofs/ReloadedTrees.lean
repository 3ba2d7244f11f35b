import JsxRouting.Proofs.AlikeRouting
import JsxRouting.Proofs.WrittenNodes

namespace JsxRouting

/-- Trees that are read from data, and trees that the pass makes of such trees. -/
inductive Node.FromData : Node → Prop
  | read {data : Json} {tree : Node} : data.hasDistinctKeys = true → Node.read data = .ok tree → FromData tree
  | routed {options : Options} {known : Option NameSet} {tree : Node} {routed : Routed} :
      FromData tree → routeProgram options known tree = .ok routed → FromData routed.tree

/-- The pass keeps the form of a tree. -/
theorem Node.FromData.alike {tree : Node} (fromData : tree.FromData) : tree.Alike .reloading false tree := by
  induction fromData with
  | read distinct read => exact Node.alike_read false distinct read
  | @routed options known tree routed _ run ih =>
    obtain ⟨after, ran, alike⟩ := (routeProgram_alike options known ih).of_ok run
    rw [run] at ran
    cases ran
    exact alike

/-- Trees from data can be written, and they are read again as they were, but for older marks that do not hold in
elements that are not explicit. -/
theorem Node.FromData.reload {tree : Node} (fromData : tree.FromData) :
    ∃ data, tree.toJson = .ok data ∧ Node.read data = .ok tree.settled :=
  ⟨tree.write, if_pos fromData.alike.isWritable, fromData.alike.read_write⟩

/-- `function F() { return <b />; }`, and in the `data` of the element an older mark that does not hold. -/
def falseMarkPage : Json :=
  let node := fun (type : String) (members : Entries Json) => Json.object (("type", .text type) :: members)
  let name := fun (type name : String) => node type [("name", .text name)]
  let element := node "JSXElement"
    [("openingElement", node "JSXOpeningElement" [("name", name "JSXIdentifier" "b")]),
    ("data", .object [(olderExplicitMark, .bool false)])]
  let body := node "BlockStatement" [("body", .array [node "ReturnStatement" [("argument", element)]])]
  node "Program" [("body", .array [node "FunctionDeclaration" [("id", name "Identifier" "F"), ("body", body)]])]

theorem Node.FromData.reload_falseMark :
    ∃ tree routed data, Node.read falseMarkPage = .ok tree ∧ routeProgram {} none tree = .ok routed ∧
      routed.tree.toJson = .ok data ∧ Node.read data = .ok routed.tree.settled := by
  obtain ⟨tree, read, routed, run⟩ : ∃ tree, Node.read falseMarkPage = .ok tree ∧
      ∃ routed, routeProgram {} none tree = .ok routed := ⟨_, rfl, _, rfl⟩
  obtain ⟨data, written, again⟩ := Node.FromData.reload (.routed (.read rfl read) run)
  exact ⟨tree, routed, data, read, run, written, again⟩

end JsxRouting
