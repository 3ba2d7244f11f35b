import JsxRouting.Proofs.FunctionList
import JsxRouting.Proofs.KeptNames
import JsxRouting.Proofs.RoutingAlone

namespace JsxRouting

/-- Exchanging the names of an element leaves alone what the element answers with. -/
theorem Node.keepsNames_route {element after : Node} {tag : Value} (isElement : element.kind = .jsxElement)
    (routed : element.route tag = .ok after) : (Value.node element).KeepsNames True (.node after) := by
  have others (field : Field) (noOpening : field ≠ .openingElement) (noClosing : field ≠ .closingElement) :
      after.fields.lookup field = element.fields.lookup field ∧ after.get? field = element.get? field := by
    obtain ⟨_, _, _, _, _, _, ⟨_, rfl⟩ | ⟨_, _, rfl⟩⟩ := route_cases routed
    · exact ⟨lookup_set_of_ne _ _ noOpening, get?_set_of_ne _ _ noOpening⟩
    · exact ⟨(lookup_set_of_ne _ _ noClosing).trans (lookup_set_of_ne _ _ noOpening),
        (get?_set_of_ne _ _ noClosing).trans (get?_set_of_ne _ _ noOpening)⟩
  refine keepsNames_of_agree (.inr isElement) (kind_route routed) (others .id (by decide) (by decide)).1
    (fun field member => (others field ?_ ?_).2) fun _ names named => ?_
  · rintro rfl
    simp at member
  · rintro rfl
    simp at member
  · rwa [(others .body (by decide) (by decide)).2]

/-- A routed node answers with the names with which it answered before. -/
theorem Node.keepsNames_routing (node : Node) {place : Place} {after : Node}
    (run : node.transform routing place = .ok after) : (Value.node node).KeepsNames True (.node after) := by
  induction node using induction_children generalizing place after with
  | step node ih =>
    obtain ⟨fields, ran, routed⟩ := routing_cases run
    rw [transformFields_eq] at ran
    have relate : FieldsRelate (Node.KeepsNames fun _ => True) _ node.fields fields :=
      (visitFields_relate ran).imp fun child member _ _ ranChild => ih child member ranChild
    have keeps := keepsNames_of_fields relate fun _ _ => trivial
    obtain ⟨_, rfl⟩ | ⟨tag, isRouted, _, routed⟩ := routed
    · exact keeps
    · exact keeps.trans (keepsNames_route (show node.kind = .jsxElement from kind_of_isRouted isRouted) routed)

/-- The patterns in a list bind the same names after they were routed. -/
theorem namesOfItems_routing (items : List Value) (part : PatternPart) {others names : List Value}
    (run : transformItems routing items = .ok others) (named : namesOfItems part items = .ok names)
    (areNames : AreNames names) : namesOfItems part others = .ok names := by
  rw [transformItems_eq] at run
  have relate : ValueRelate (Node.KeepsNames fun _ => True) .plain (.list items) (.list others) := by
    refine .list ((forall₂_of_mapM run).imp fun item other visited => ?_)
    cases Value.visitItem_relate visited with
    | node ran => exact .node (Node.keepsNames_routing _ ran)
    | data plain => exact .data plain
  exact Value.keepsNames_of_relate relate (.bindings part) (.inl rfl) names areNames named

end JsxRouting
