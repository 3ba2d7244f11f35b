import JsxRouting.Proofs.CarriedPositions
import JsxRouting.Proofs.ElementNames
import JsxRouting.Proofs.FinishedFunctions

namespace JsxRouting

/-- A node stands in a changed function where what stood at a position was carried. -/
inductive Node.CarriedTo (function changed : Node) (position : Position) (after : Node) : Prop
  | kept : changed = function → function.at? position = some after → CarriedTo function changed position after
  /-- The components object is declared in the first statement, or in the second behind a pattern. -/
  | moved {index : Nat} {components : Value} {target : Spot} : index ≤ 1 →
      (changed.bodyStatements.bind (·[index]?)) =
        some (.node (.constDeclaration (.node (.identifier componentsObject)) components)) →
      function.carry (index == 1) (function.addedStatements changed).length
        (function.spotOf position) = some target →
      changed.spot? target = some after → CarriedTo function changed position after

/-- What stood at a position was overwritten: it stood in the flag of an arrow function whose body has become a
block. -/
def Node.Overwrites (function changed : Node) (position : Position) : Prop :=
  function.is .arrowFunctionExpression ∧ ¬ function.hasBlock ∧ changed.get? .expression = some (.bool false) ∧
    ∃ branch rest, position = branch :: rest ∧ branch.field = .expression

namespace Node

/-- The flag of an arrow function says that its body is a block when it has become one. -/
theorem get?_expression_prependToBody {function after : Node} {front : List Node}
    (prepended : function.prependToBody front = .ok after) (isArrow : function.is .arrowFunctionExpression)
    (noBlock : ¬ function.hasBlock) : after.get? .expression = some (.bool false) := by
  obtain ⟨block, _, isBody, isBlock, _⟩ | ⟨_, _, _, rfl⟩ := prependToBody_cases prepended
  · exact absurd (by simp [hasBlock, isBody, Value.nodeOf?_node isBlock]) noBlock
  · unfold blocked
    dsimp only
    rw [if_pos isArrow, get?_set_self]

/-- An element to which the walk comes in a function has its names exchanged or kept where it stands after
routing. -/
theorem exists_routed {function inner element : Node} {place : Place} {position : Position}
    (asRead : function.isAsRead = true) (run : function.transform routing .plain = .ok inner)
    (reached : function.reach? .plain position = some (place, element)) (isElement : element.kind = .jsxElement) :
    ∃ found, inner.at? position = some found ∧ found.kind = .jsxElement ∧ element.NamesInFunction found := by
  obtain ⟨routed, found, ran, there, same⟩ := at?_routing run reached
  have elementAsRead : element.isAsRead = true := all_of_at? asRead (at?_of_reach? reached)
  have names := namesInFunction_routing elementAsRead isElement ran
  have stillElement : routed.kind = .jsxElement := (kind_routing ran).trans isElement
  refine ⟨found, there, ?_⟩
  -- An element that stands in the place of a part gets the name of the part, which is none of its own names.
  obtain rfl | ⟨name, rfl⟩ := same
  · exact ⟨stillElement, names⟩
  · exact ⟨(kind_set ..).trans stillElement, names.congr fun field noName => get?_set_of_ne routed name noName⟩

end Node

/-- Every element to which the walk comes in an outermost function is found in it after the pass, unless it was
overwritten. -/
theorem Pass.declare_names {pass : Pass} {place inner : Place} {function changed element : Node}
    {position : Position}
    (asRead : function.isAsRead = true) (isFunction : function.isFunction = true)
    (declared : pass.declare place function = .ok changed)
    (reached : function.reach? .plain position = some (inner, element)) (isElement : element.kind = .jsxElement) :
    function.Overwrites changed position ∨ ∃ after, function.CarriedTo changed position after ∧
      after.kind = .jsxElement ∧ element.NamesInFunction after := by
  obtain ⟨nothing, rfl⟩ | ⟨_, routed, prepared, ran, ready, prepended⟩ := declare_cases declared
  · have untagged := Findings.tag?_of_isEmpty nothing (Node.mem_jsxElements_of_reach? reached isElement)
    exact .inr ⟨element, .kept rfl (Node.at?_of_reach? reached), isElement, Node.namesInFunction_self untagged⟩
  · obtain ⟨found, isFound, foundKind, names⟩ := Node.exists_routed asRead ran reached isElement
    obtain ⟨props, read⟩ := Node.prepare_from ready
    have added := addedStatements_prependToBody isFunction ran ready prepended
    obtain ⟨_, _, changedBody⟩ := Node.bodyStatements_prependToBody prepended
    -- At most one statement stands in front of the declaration of the components object.
    have short : prepared.prelude.length ≤ 1 := read.length_prelude
    have moves : (prepared.prelude.length == 1) = !prepared.prelude.isEmpty := by
      cases prelude : prepared.prelude with
      | nil => rfl
      | cons statement rest =>
        rw [prelude] at short
        simpa using short
    cases carried : function.carry (prepared.prelude.length == 1) (function.addedStatements changed).length
        (function.spotOf position) with
    | some target =>
      have stands : changed.spot? target = some found := by
        rw [added, List.length_map, moves, ← Node.carry_routing ran isFunction] at carried
        exact Node.spot?_carry read prepended isFound foundKind carried
      exact .inr ⟨found, .moved short (by rw [changedBody, Findings.declarations]; simp; rfl) carried stands,
        foundKind, names⟩
    | none =>
      obtain ⟨isArrow, noBlock, inFlag⟩ :=
        Node.carry_eq_none isFunction (Node.at?_of_reach? reached) isElement carried
      refine .inl ⟨isArrow, noBlock, Node.get?_expression_prependToBody prepended ?_ ?_, inFlag⟩
      · rw [Node.is, read.kind, Node.kind_routing ran]
        exact isArrow
      · rw [Node.hasBlock_reading read, Node.hasBlock_routing (.inr ⟨.plain, ran⟩) isFunction]
        exact noBlock

theorem Pass.leavesAlone_declare {pass : Pass} {functions : List (Place × Node)}
    (nothing : ∀ entry ∈ functions, (Findings.within pass.topScope entry.2).isEmpty = true) :
    LeavesAlone pass.declare functions := by
  intro entry member changed declared
  obtain ⟨_, same⟩ | ⟨something, _⟩ := declare_cases declared
  · exact same
  · cases (nothing entry member).symm.trans something

/-- A function in which something is found stands in the value, or is it. -/
def Value.HoldsFindings (topScope : NameSet) (value : Value) : Prop :=
  ∃ entry ∈ value.functions .plain, (Findings.within topScope entry.2).isEmpty = false

/-- An element that stands in no function is found behind what was put in front of the program. -/
theorem exists_outside {pass : Pass} {tree walked after element : Node} {front : List Node} {position : Position}
    (program : tree.kind = .program) (asRead : tree.isAsRead = true)
    (mapped : tree.mapOutermost pass.declare .plain = .ok walked)
    (prepended : List.foldlM Node.prependStatement walked front = .ok after)
    (there : tree.outsideAt? position = some element) (isElement : element.kind = .jsxElement) :
    ∃ found, after.at? (Position.behind front.length position) = some found ∧ found.kind = .jsxElement ∧
      element.NamesOutside (Value.HoldsFindings pass.topScope) found := by
  obtain ⟨inner, found, _, noFunction, mappedElement, isFound⟩ := Node.at?_mapOutermost_outside rfl mapped there
  -- The program is no element, so the position leads through its statements.
  have below : position ≠ [] := by
    rintro rfl
    rw [Node.outsideAt?, if_neg (Node.not_isFunction_of_program program)] at there
    cases there
    cases program.symm.trans isElement
  have elementAsRead : element.isAsRead = true := Node.all_of_at? asRead (Node.at?_of_outsideAt? there)
  refine ⟨found, Node.at?_prependStatements prepended below isFound,
    (Node.kind_mapOutermost noFunction mappedElement).trans isElement,
    (Node.namesOutside_mapOutermost elementAsRead isElement mappedElement).imp fun name touched => ?_⟩
  by_contra free
  refine touched (Pass.leavesAlone_declare fun entry member => ?_)
  by_contra something
  exact free ⟨entry, member, Bool.eq_false_iff.mpr something⟩

/-- What stands in a tree stands in one of its outermost functions, or in none. -/
theorem Node.at?_cases {node found : Node} {place : Place} {position : Position} (visible : place.hidesName = false)
    (there : node.at? position = some found) :
    node.outsideAt? position = some found ∨ ∃ front inside inner function, position = front ++ inside ∧
      node.outermostAt? place front = some (inner, function) ∧ function.at? inside = some found := by
  induction position generalizing node place with
  | nil =>
    by_cases isFunction : node.isFunction = true
    · exact .inr ⟨[], [], place, node, rfl, by rw [outermostAt?, if_pos isFunction], there⟩
    · exact .inl (by rwa [outsideAt?, if_neg isFunction])
  | cons branch rest ih =>
    by_cases isFunction : node.isFunction = true
    · exact .inr ⟨[], branch :: rest, place, node, rfl, by rw [outermostAt?, if_pos isFunction], there⟩
    obtain ⟨child, isChild, below⟩ := at?_cons_eq_some.mp there
    cases placed : place.inField node.kind node.fields false branch.field with
    | none => cases visible.symm.trans (Place.inField_eq_none placed).1
    | some inner =>
      obtain outside | ⟨front, inside, functionPlace, function, rfl, isOutermost, isInside⟩ :=
        ih (Place.visible_below placed) below
      · exact .inl (by rw [outsideAt?, if_neg isFunction, isChild]; exact outside)
      · refine .inr ⟨branch :: front, inside, functionPlace, function, rfl, ?_, isInside⟩
        rw [outermostAt?, if_neg isFunction, placed, isChild]
        exact isOutermost

/-- In a routed program, every element to which the walk comes in a function is found in what has become of the
function, unless it was overwritten with the flag of an arrow function; if it is a tag, its names have become
members of the components object, and if not, they are left as they were unless a tag stands in them. The names of
an element that stands in no function are left as they were unless a function stands in them in which something is
found. Names that were equal are equal. In no function an element is a tag any more, if no list stood for a first
parameter. -/
theorem routeProgram_names {options : Options} {known : Option NameSet} {tree : Node} {routed : Routed}
    (program : tree.kind = .program) (asRead : tree.isAsRead = true)
    (run : routeProgram options known tree = .ok routed) :
    ∃ topScope, tree.knownNames known = .ok topScope ∧
      (∀ position element, tree.at? position = some element → element.kind = .jsxElement →
        (tree.outsideAt? position = some element ∧ ∃ after,
            routed.tree.at? (Position.behind (routed.frontCount tree) position) = some after ∧
            after.kind = .jsxElement ∧ element.NamesOutside (Value.HoldsFindings topScope) after) ∨
          ∃ front inside place function changed, position = front ++ inside ∧
            tree.outermostAt? .plain front = some (place, function) ∧
            routed.tree.at? (Position.behind (routed.frontCount tree) front) = some changed ∧
            ∀ inner, function.reach? .plain inside = some (inner, element) →
              function.Overwrites changed inside ∨ ∃ after, function.CarriedTo changed inside after ∧
                after.kind = .jsxElement ∧ element.NamesInFunction after) ∧
      (tree.all Node.hasPlainParameter = true → ∀ position function inside element,
        routed.tree.at? position = some function → function.isFunction = true →
          function.at? inside = some element → element.kind = .jsxElement →
            ∀ name, element.nameUse ≠ .ok (.tag name)) := by
  have regular := Node.isRegular_of_isAsRead asRead
  obtain ⟨topScope, isScope, outermost⟩ := routeProgram_outermost program run
  obtain ⟨_, walked, statements, isKnown, mapped, prepended, sameCount⟩ := routeProgram_walked program run
  cases isKnown.symm.trans isScope
  refine ⟨topScope, isScope, fun position element there isElement => ?_,
    fun plain position function inside element isThere isFunction there isElement => ?_⟩
  · obtain outside | ⟨front, inside, place, function, rfl, found, _⟩ :=
      Node.at?_cases (show Place.plain.hidesName = false from rfl) there
    · refine .inl ⟨outside, ?_⟩
      rw [sameCount]
      exact exists_outside program asRead mapped prepended outside isElement
    · obtain ⟨changed, declared, isChanged⟩ := outermost front place function found
      have functionAsRead := (Node.of_mem_functions ((Node.mem_functions_iff regular).mpr ⟨front, found⟩)).2 asRead
      exact .inr ⟨front, inside, place, function, changed, rfl, found, isChanged, fun inner reached =>
        Pass.declare_names functionAsRead (Node.isFunction_of_outermostAt? found) declared reached isElement⟩
  · have finished := routeProgram_finished program regular plain run
    exact ((finished position function isThere isFunction) inside element there).untagged isElement

namespace Node

/-- `function () { return value; }` -/
def functionReturning (value : Node) : Node :=
  .make .functionExpression [(.body, .node (.block [.node (.returnStatement (.node value))]))]

/-- `space:name` as the name of an element. -/
def jsxNamespaced (space : String) (name : Node) : Node :=
  .make .jsxNamespacedName [(.namespaceName, .node (.jsxName space)), (.name, .node name)]

end Node

/-- In `function F() { return <b></b>; }` both names are exchanged, and no tag is left. -/
theorem routeProgram_names_closed :
    let bold := Node.closedElement (.jsxName "b") (.jsxName "b")
    let function := Node.functionNamed "F" [] [.returnStatement (.node bold)]
    let page := Node.programOf [function]
    let inside : Position := [.direct .body, .item .body 0, .direct .argument]
    page.kind = .program ∧ page.isAsRead = true ∧ page.all Node.hasPlainParameter = true ∧
      ∃ routed, routeProgram {} none page = .ok routed ∧
        (∃ changed after, routed.tree.at? [.item .body 0] = some changed ∧ function.CarriedTo changed inside after ∧
          after.elementName? = some (.node (routedName (.node (.jsxName "b")))) ∧
          after.closingName? = some (.node (routedName (.node (.jsxName "b"))))) ∧
        ∀ position function below element, routed.tree.at? position = some function → function.isFunction = true →
          function.at? below = some element → element.kind = .jsxElement →
            ∀ name, element.nameUse ≠ .ok (.tag name) := by
  intro bold function page inside
  have program : page.kind = .program := rfl
  have asRead : page.isAsRead = true := rfl
  have plain : page.all Node.hasPlainParameter = true := rfl
  obtain ⟨routed, run⟩ : ∃ routed, routeProgram {} none page = .ok routed := ⟨_, rfl⟩
  obtain ⟨topScope, _, elements, untagged⟩ := routeProgram_names program asRead run
  refine ⟨program, asRead, plain, routed, run, ?_, untagged plain⟩
  obtain ⟨outside, _⟩ | ⟨front, rest, place, found, changed, split, isOutermost, there, carried⟩ :=
    elements (.item .body 0 :: inside) bold rfl rfl
  · cases outside
  have split : [.item .body 0, .direct .body, .item .body 0, .direct .argument] = front ++ rest := split
  match front with
  | [] => cases isOutermost
  | _ :: _ :: _ =>
    obtain ⟨rfl, rest⟩ := List.cons.inj split
    obtain ⟨rfl, _⟩ := List.cons.inj rest
    cases isOutermost
  | [_] =>
    obtain ⟨rfl, rfl⟩ := List.cons.inj split
    cases isOutermost
    obtain ⟨isArrow, _⟩ | ⟨after, isCarried, _, names⟩ := carried .plain rfl
    · cases isArrow
    · obtain ⟨⟨name, isName, _, _, opened⟩, closed, _⟩ := names.routed (.text "b") rfl
      cases isName
      cases run
      exact ⟨changed, after, there, isCarried, opened, closed _ rfl⟩

/-- A name changes with what stands in it: with the function in `<ns:{function () { return <a.b />; }} />`, which
receives declarations, and in a function with the tag in `<ns:{<b />} />`. Two such names that are equal come out
different if what stands in one function stands in the raw text of a literal. An element in the flag of
`() => <c />` is overwritten. In `const MDXContent = ([[<b />]]) => <c />` the list in the list of parameters is no
place to which the walk comes, but the pattern of a declaration is. -/
theorem routeProgram_changes_names :
    let inStatement : Position := [.item .body 0, .direct .expression]
    let inInit : Position := [.item .body 0, .item .declarations 0, .direct .init]
    let chained := Node.emptyElement (.jsxMember "a" "b")
    let bold := Node.emptyElement (.jsxName "b")
    let named := Node.jsxNamespaced "ns" (.functionReturning chained)
    let boldNamed := Node.jsxNamespaced "ns" bold
    let shown (raw : Value) := Node.jsxNamespaced "ns" (.functionReturning (.make .literal [(.raw, raw)]))
    let twice := Node.closedElement (shown (.node chained)) (shown .null)
    let arrow (params flag : Value) := Node.make .arrowFunctionExpression [(.params, params),
      (.body, .node (.emptyElement (.jsxName "c"))), (.expression, flag)]
    let flagged := arrow (.list []) (.node bold)
    let nested := arrow (.list [.list [.node bold]]) (.bool true)
    (∃ routed after, routeProgram {} none (.programOf [.expressionStatement (.emptyElement named)]) = .ok routed ∧
      (Node.programOf [.expressionStatement (.emptyElement named)]).outsideAt? inStatement =
        some (.emptyElement named) ∧
      (Node.emptyElement named).nameUse = .ok .namespaced ∧
      routed.tree.at? inStatement = some after ∧ after.elementName? ≠ some (.node named)) ∧
    (∃ routed after, routeProgram {} none (.programOf [.functionNamed "F" []
        [.returnStatement (.node (.emptyElement boldNamed))]]) = .ok routed ∧
      (Node.emptyElement boldNamed).nameUse = .ok .namespaced ∧
      routed.tree.at? [.item .body 0, .direct .body, .item .body 1, .direct .argument] = some after ∧
      after.kind = .jsxElement ∧ after.elementName? ≠ some (.node boldNamed)) ∧
    (∃ routed after, routeProgram {} none (.programOf [.expressionStatement twice]) = .ok routed ∧
      (Node.programOf [.expressionStatement twice]).outsideAt? inStatement = some twice ∧ twice.HasEqualNames ∧
      routed.tree.at? inStatement = some after ∧ ¬ after.HasEqualNames) ∧
    (∃ routed function, routeProgram {} none (.programOf
        [.constDeclaration (.node (.identifier "f")) (.node flagged)]) = .ok routed ∧
      flagged.reach? .plain [.direct .expression] = some (.plain, bold) ∧ bold.nameUse = .ok (.tag (.text "b")) ∧
      routed.tree.at? inInit = some function ∧ function.get? .expression = some (.bool false)) ∧
    ∃ routed function, routeProgram {} none (.programOf
        [.constDeclaration (.node (.identifier entryPoint)) (.node nested)]) = .ok routed ∧
      routed.tree.at? inInit = some function ∧ function.isFunction = true ∧
      function.at? [.direct .body, .item .body 0, .item .declarations 0, .item .id 0] = some bold ∧
      bold.nameUse = .ok (.tag (.text "b")) := by
  have apart (position : Position) {name other : Option Value} (same : name = other) :
      ((name.bind Value.node?).bind (·.at? position)).map Node.kind =
        ((other.bind Value.node?).bind (·.at? position)).map Node.kind := by rw [same]
  refine ⟨⟨_, _, rfl, rfl, rfl, rfl, fun same => ?_⟩, ⟨_, _, rfl, rfl, rfl, rfl, fun same => ?_⟩,
    ⟨_, _, rfl, rfl, ⟨_, _, rfl, rfl, by decide +kernel⟩, rfl, ?_⟩, ⟨_, _, rfl, rfl, rfl, rfl, rfl⟩,
    ⟨_, _, rfl, rfl, rfl, rfl, rfl⟩⟩
  · cases apart [.direct .name, .direct .body, .item .body 1] same
  · cases apart [.direct .name, .direct .openingElement, .direct .name] same
  · rintro ⟨opening, closing, isOpening, isClosing, same⟩
    cases isOpening
    cases isClosing
    have different := same.symm.trans (by decide +kernel : _ = false)
    cases different

end JsxRouting
