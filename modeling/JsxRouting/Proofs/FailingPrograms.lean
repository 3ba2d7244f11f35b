import JsxRouting.Proofs.BuiltNodes
import JsxRouting.Proofs.ReachedElements

namespace JsxRouting

/-- The pass over a well-formed program fails at the first element in a function that cannot be routed. -/
theorem Pass.run_fails (pass : Pass) {tree : Node} (program : tree.kind = .program)
    (formed : tree.all Node.hasDeclaredForms = true) :
    FailsFirst (pass.run tree) ((tree.elementsInFunctions Node.isRouted).filterMap Node.routingError?) := by
  obtain ⟨progress, settled, same⟩ := pass.run_eq tree
  have functions : FailsFirst (tree.mapOutermost pass.declare .plain)
      ((tree.elementsInFunctions Node.isRouted).filterMap Node.routingError?) := by
    rw [Node.elementsInFunctions, List.filterMap_flatMap]
    refine Node.mapOutermost_fails fun entry member => ?_
    obtain ⟨isFunction, holds⟩ := Node.of_mem_functions member
    exact pass.declare_fails entry.1 (holds formed) isFunction
  rw [same]
  refine functions.bind_ok fun walked mapped => ?_
  obtain ⟨body, isBody, admitted, _⟩ := Node.exists_admitted formed .body (by rw [program]; decide)
  rw [program] at admitted
  obtain ⟨items, rfl⟩ := Value.exists_of_isList admitted
  obtain ⟨other, walkedBody, mappedBody⟩ := lookup_body_mapOutermost program isBody mapped
  obtain ⟨others, _, isList⟩ := bind_eq_ok_iff.mp mappedBody
  cases isList
  refine addFront_succeeds (Node.get?_of_lookup walkedBody) fun needed => ?_
  have counted := settled.provider
  rw [needed, Bool.false_or] at counted
  obtain ⟨entry, _, needs⟩ := List.any_eq_true.mp counted.symm
  rw [needsProviderFor, Bool.and_eq_true] at needs
  exact needs.1

namespace Node

theorem of_mem_elementsInFunctions {tree element : Node} {replaced : Node → Bool}
    (formed : tree.all hasDeclaredForms = true) (member : element ∈ tree.elementsInFunctions replaced) :
    element.kind = .jsxElement ∧ element.all hasDeclaredForms = true := by
  obtain ⟨entry, inFunctions, inFunction⟩ := List.mem_flatMap.mp member
  obtain ⟨isElement, holds⟩ := of_mem_jsxElements inFunction
  exact ⟨isElement, holds ((of_mem_functions inFunctions).2 formed)⟩

/-- An element that stands in a function is reached in it. -/
theorem reaches_of_mem_elementsInFunctions {tree element : Node} (formed : tree.all hasDeclaredForms = true)
    (member : element ∈ tree.elementsInFunctions nothingReplaced) :
    element ∈ tree.elementsInFunctions isRouted ∨
      ∃ other ∈ tree.elementsInFunctions isRouted, other.isRouted = true ∧
        ∃ name, other.closingName? = some name ∧ element ∈ name.jsxElements nothingReplaced .plain := by
  obtain ⟨entry, inFunctions, inFunction⟩ := List.mem_flatMap.mp member
  have entryFormed := (of_mem_functions inFunctions).2 formed
  obtain reached | ⟨other, isOther, inName⟩ := (reaches_of_mem entryFormed inFunction).1 .plain rfl
  · exact .inl (List.mem_flatMap.mpr ⟨entry, inFunctions, reached⟩)
  · exact .inr ⟨other, List.mem_flatMap.mpr ⟨entry, inFunctions, isOther⟩, inName⟩

/-- An element of a well-formed tree can be routed exactly if its name is an element name. -/
theorem routingError?_eq_none_iff {element : Node} (formed : element.all hasDeclaredForms = true)
    (isElement : element.kind = .jsxElement) :
    element.routingError? = none ↔ ∀ name, element.elementName? = some name → name.IsElementName := by
  obtain ⟨name, named, ⟨isElementName, noError⟩ | ⟨error, isError, fault, _⟩⟩ :=
    routingError?_cases formed isElement
  · refine ⟨fun _ other same => ?_, fun _ => noError⟩
    cases same.symm.trans named
    exact isElementName
  · refine ⟨fun noError => ?_, fun names => absurd (names name named) fault.not_isElementName⟩
    rw [isError] at noError
    cases noError

end Node

/-- Routing a well-formed program fails exactly if the walk comes to an element in a function whose name is no
element name. It reports the name of the first such element, and no other failure is possible. The elements in
functions to which the walk does not come are those in the closing name of an element that is routed. -/
theorem routeProgram_fails_iff {options : Options} {known : Option NameSet} {tree : Node} {topScope : NameSet}
    (program : tree.kind = .program) (formed : tree.all Node.hasDeclaredForms = true)
    (isScope : tree.knownNames known = .ok topScope) :
    ((∃ error, routeProgram options known tree = .error error) ↔
      ∃ element ∈ tree.elementsInFunctions Node.isRouted, ∃ name, element.elementName? = some name ∧
        ¬ name.IsElementName) ∧
    (∀ before element after name, tree.elementsInFunctions Node.isRouted = before ++ element :: after →
      (∀ other ∈ before, ∀ otherName, other.elementName? = some otherName → otherName.IsElementName) →
      element.elementName? = some name → ¬ name.IsElementName →
      ∃ error, routeProgram options known tree = .error error ∧ error.family = .unsupportedNode ∧
        name.NameFault error.summary error.nodeKind?) ∧
    (∀ error, routeProgram options known tree = .error error →
      ∃ kind, error = .memberRoot kind ∨ error = .elementName kind) ∧
    (∀ (kind : Kind) (given : List (Field × Value)) (known : kind.knows given = true),
      Node.build (.scalar (.text kind.name)) (given.map fun entry => (entry.1.toName, entry.2)) (.object []) =
        .ok (.make kind given known)) ∧
    (∀ element ∈ tree.elementsInFunctions nothingReplaced, element ∈ tree.elementsInFunctions Node.isRouted ∨
      ∃ other ∈ tree.elementsInFunctions Node.isRouted, other.isRouted = true ∧
        ∃ name, other.closingName? = some name ∧ element ∈ name.jsxElements nothingReplaced .plain) := by
  have runs : routeProgram options known tree = Pass.run ⟨options, topScope⟩ tree := by
    rw [routeProgram_eq, isScope]
    rfl
  have fails := Pass.run_fails ⟨options, topScope⟩ program formed
  rw [← runs] at fails
  have formedElement : ∀ element ∈ tree.elementsInFunctions Node.isRouted,
      element.kind = .jsxElement ∧ element.all Node.hasDeclaredForms = true :=
    fun element member => Node.of_mem_elementsInFunctions formed member
  refine ⟨?_, fun before element after name split namesBefore named noName => ?_, fun error failed => ?_,
    Node.build_eq_make, fun element member => Node.reaches_of_mem_elementsInFunctions formed member⟩
  · rw [fails.exists_error_iff, Ne, List.filterMap_eq_nil_iff, not_forall]
    simp only [not_forall, exists_prop]
    refine exists_congr fun element => and_congr_right fun member => ?_
    obtain ⟨isElement, elementFormed⟩ := formedElement element member
    rw [Node.routingError?_eq_none_iff elementFormed isElement]
    simp only [not_forall, exists_prop]
  · have fault := Node.routingError?_cases (formedElement element (by simp [split])).2
      (formedElement element (by simp [split])).1
    obtain ⟨other, isOther, ⟨isElementName, _⟩ | ⟨error, isError, fault, kind, cause⟩⟩ := fault
    · cases isOther.symm.trans named
      exact absurd isElementName noName
    · cases isOther.symm.trans named
      rw [split] at fails formedElement
      -- An element with an element name can be routed, so the first one at fault is the first error.
      have noneBefore : ∀ other ∈ before, other.routingError? = none := fun other member => by
        obtain ⟨isElement, otherFormed⟩ := formedElement other (List.mem_append_left _ member)
        exact (Node.routingError?_eq_none_iff otherFormed isElement).mpr (namesBefore other member)
      refine ⟨error, fails.error_of_first noneBefore isError, ?_, fault⟩
      obtain rfl | rfl := cause <;> rfl
  · obtain ⟨element, member, isError⟩ := List.mem_filterMap.mp (fails.mem_of_error failed)
    obtain ⟨isElement, elementFormed⟩ := formedElement element member
    obtain ⟨_, _, ⟨_, noError⟩ | ⟨other, isOther, _, cause⟩⟩ := Node.routingError?_cases elementFormed isElement
    · cases noError.symm.trans isError
    · cases isOther.symm.trans isError
      exact cause

/-- The name of an expression is no element name. -/
theorem not_isElementName_identifier (name : String) : ¬ (Value.node (.identifier name)).IsElementName := by
  refine (Value.NameFault.otherKind fun kind same => ?_).not_isElementName
  obtain rfl : .identifier = kind := Option.some.inj same
  decide

namespace Node

/-- `function F() { return expression; }` -/
def returning (expression : Node) : Node := .programOf [.functionNamed "F" [] [.returnStatement (.node expression)]]

end Node

/-- An element that has the name of an expression is reported with the kind of that name. -/
theorem routeProgram_fails_identifier :
    let page := Node.returning (.emptyElement (.identifier "x"))
    page.kind = .program ∧ page.all Node.hasDeclaredForms = true ∧ page.knownNames (some .empty) = .ok .empty ∧
      ∃ error, routeProgram {} (some .empty) page = .error error ∧
        error.message = "Unexpected JSX element name (node: Identifier)" := by
  intro page
  have program : page.kind = .program := rfl
  have formed : page.all Node.hasDeclaredForms = true := rfl
  have isScope : page.knownNames (some .empty) = .ok .empty := rfl
  have fails := @routeProgram_fails_iff {} (some .empty) page .empty program formed isScope
  obtain ⟨_, first, _⟩ := fails
  obtain ⟨error, failed, _, fault⟩ := first [] (.emptyElement (.identifier "x")) [] (.node (.identifier "x")) rfl
    nofun rfl (not_isElementName_identifier "x")
  refine ⟨program, formed, isScope, error, failed, ?_⟩
  unfold Error.message
  generalize error.summary = summary at fault ⊢
  generalize error.nodeKind? = kind at fault ⊢
  cases fault with
  | otherKind => rfl
  | otherRoot isMember => cases isMember

/-- An element without an element name does no harm in the closing name of a tag, which is exchanged before the walk
comes to it. -/
theorem routeProgram_passes_closing_name :
    let nameless := Node.emptyElement (.identifier "x")
    let page := Node.returning (.closedElement (.jsxName "b") nameless)
    page.kind = .program ∧ page.all Node.hasDeclaredForms = true ∧
      (∃ routed, routeProgram {} none page = .ok routed) ∧ nameless ∈ page.elementsInFunctions nothingReplaced ∧
      nameless.elementName? = some (.node (.identifier "x")) ∧
      ¬ (Value.node (.identifier "x")).IsElementName :=
  ⟨rfl, rfl, ⟨_, rfl⟩, List.mem_cons_of_mem _ (List.mem_cons_self), rfl, not_isElementName_identifier "x"⟩

end JsxRouting
