import JsxRouting.Proofs.AlikeRouting

namespace JsxRouting

/-- What may be exchanged so that trees stay equal. -/
def Likeness.equality : Likeness where
  scalars scalar other := scalar.same other = true
  objects members others := (Value.object members).same (.object others) = true
  extras _ _ _ _ := True
  ignoresRaw := true
  scalars_refl := Scalar.same_self
  same_of_scalars := id
  eq_of_scalars := nofun
  objects_nil := by
    rw [Value.same, sameMembers]
    rfl
  same_of_objects := id
  extras_nil _ _ := trivial

/-- Whether a node has nothing but the fields of its kind, and no nodes in its raw text. -/
def Node.hasPlainFields (node : Node) : Bool :=
  node.hasOnlyOwnFields && node.fields.all fun entry => entry.1 != .raw || entry.2.nodes.isEmpty

theorem Node.hasPlainFields_iff {node : Node} : node.hasPlainFields = true ↔
    node.hasOwnFields = true ∧ node.attached = [] ∧ ∀ value, (Field.raw, value) ∈ node.fields →
      value.nodes = [] := by
  rw [hasPlainFields, hasOnlyOwnFields, Bool.and_eq_true, Bool.and_eq_true, List.isEmpty_iff,
    List.all_eq_true, and_assoc]
  refine and_congr_right fun _ => and_congr_right fun _ =>
    ⟨fun plain value member => ?_, fun plain entry member => ?_⟩
  · simpa using plain _ member
  · obtain ⟨field, value⟩ := entry
    by_cases isRaw : field = .raw
    · subst isRaw
      simpa using plain value member
    · simp [isRaw]

mutual

/-- Equal trees are alike. -/
theorem Node.alike_of_same : ∀ {node other : Node} (closing : Bool), node.all Node.hasPlainFields = true →
    other.all Node.hasPlainFields = true → node.same other = true → node.Alike .equality closing other
  | .mk kind fields extra attached, .mk otherKind others otherExtra otherAttached, closing, plain,
    otherPlain, same => by
    obtain ⟨own, bare, noNodes⟩ := Node.hasPlainFields_iff.mp (Node.check_of_all plain)
    obtain ⟨otherOwn, otherBare, noOtherNodes⟩ := Node.hasPlainFields_iff.mp (Node.check_of_all otherPlain)
    obtain ⟨rfl, sameFields⟩ := Node.same_iff.mp same
    exact .mk (beq_iff_eq.mp own)
      (fieldsAlike_of_same (Node.names_of_same own otherOwn same) noNodes noOtherNodes
        (Node.allInFields_of_all plain)
        (Node.allInFields_of_all otherPlain) sameFields)
      trivial fun _ => ⟨bare, otherBare⟩

theorem fieldsAlike_of_same : ∀ {fields others : List (Field × Value)}, others.map (·.1) = fields.map (·.1) →
    (∀ value, (Field.raw, value) ∈ fields → value.nodes = []) →
    (∀ value, (Field.raw, value) ∈ others → value.nodes = []) →
    allInFields Node.hasPlainFields fields = true → allInFields Node.hasPlainFields others = true →
    sameFields fields others = true → List.Forall₂ (FieldAlike .equality) fields others
  | [], [], _, _, _, _, _, _ => .nil
  | (field, value) :: rest, (otherField, other) :: tail, names, noNodes, noOtherNodes, plain, otherPlain, same => by
    rw [List.map_cons, List.map_cons, List.cons.injEq] at names
    obtain ⟨rfl, names⟩ : otherField = field ∧ tail.map (·.1) = rest.map (·.1) := names
    rw [allInFields, Bool.and_eq_true] at plain otherPlain
    rw [sameFields, Bool.and_eq_true, Bool.or_eq_true, beq_iff_eq] at same
    refine .cons ?_ (fieldsAlike_of_same names (fun value member => noNodes value (List.mem_cons_of_mem _ member))
      (fun value member => noOtherNodes value (List.mem_cons_of_mem _ member)) plain.2 otherPlain.2 same.2)
    obtain rfl | sameValue := same.1
    · exact .raw rfl (noNodes value List.mem_cons_self) (noOtherNodes other List.mem_cons_self)
    · exact .value (Value.alike_of_same _ plain.1 otherPlain.1 sameValue)

theorem Value.alike_of_same : ∀ {value other : Value} (closing : Bool), value.all Node.hasPlainFields = true →
    other.all Node.hasPlainFields = true → value.same other = true → value.Alike .equality closing other
  | .scalar _, other, _, _, _, same => by
    obtain ⟨_, _, isScalar, rfl, sameScalar⟩ | ⟨_, _, isList, _⟩ | ⟨_, _, isObject, _⟩ | ⟨_, _, isNode, _⟩ :=
      Value.same_cases same
    · cases isScalar
      exact .scalar sameScalar
    · cases isList
    · cases isObject
    · cases isNode
  | .list _, other, _, plain, otherPlain, same => by
    obtain ⟨_, _, isScalar, _⟩ | ⟨_, _, isList, rfl, sameItems⟩ | ⟨_, _, isObject, _⟩ | ⟨_, _, isNode, _⟩ :=
      Value.same_cases same
    · cases isScalar
    · cases isList
      exact .list (itemsAlike_of_same plain otherPlain sameItems)
    · cases isObject
    · cases isNode
  | .object _, other, _, _, _, same => by
    obtain ⟨_, _, isScalar, _⟩ | ⟨_, _, isList, _⟩ | ⟨_, _, isObject, rfl, _⟩ | ⟨_, _, isNode, _⟩ :=
      Value.same_cases same
    · cases isScalar
    · cases isList
    · cases isObject
      exact .object same
    · cases isNode
  | .node _, other, closing, plain, otherPlain, same => by
    obtain ⟨_, _, isScalar, _⟩ | ⟨_, _, isList, _⟩ | ⟨_, _, isObject, _⟩ | ⟨_, _, isNode, rfl, sameNode⟩ :=
      Value.same_cases same
    · cases isScalar
    · cases isList
    · cases isObject
    · cases isNode
      exact .node (Node.alike_of_same closing plain otherPlain sameNode)

theorem itemsAlike_of_same : ∀ {items others : List Value}, allInItems Node.hasPlainFields items = true →
    allInItems Node.hasPlainFields others = true → sameValues items others = true →
    List.Forall₂ (Value.Alike .equality false) items others
  | [], others, _, _, same => by
    obtain ⟨_, rfl⟩ | ⟨_, _, _, _, isCons, _⟩ := Value.sameValues_cases same
    · exact .nil
    · cases isCons
  | _ :: _, others, plain, otherPlain, same => by
    obtain ⟨isNil, _⟩ | ⟨_, _, _, _, isCons, rfl, sameItem, sameRest⟩ := Value.sameValues_cases same
    · cases isNil
    · cases isCons
      rw [allInItems, Bool.and_eq_true] at plain otherPlain
      exact .cons (Value.alike_of_same false plain.1 otherPlain.1 sameItem)
        (itemsAlike_of_same plain.2 otherPlain.2 sameRest)

end

/-- Equal programs declare equal names, and the pass makes of them equal programs, or fails with the same error. -/
theorem routeProgram_same (options : Options) (known : Option NameSet) {program other : Node}
    (plain : program.all Node.hasPlainFields = true) (otherPlain : other.all Node.hasPlainFields = true)
    (same : program.same other = true) :
    Agree (fun names others => List.Forall₂ (fun name other => Scalar.same name other = true)
      names.toList others.toList)
        program.topScope other.topScope ∧
      Agree (fun routed after => routed.tree.same after.tree = true) (routeProgram options known program)
        (routeProgram options known other) := by
  have alike := Node.alike_of_same false plain otherPlain same
  exact ⟨alike.topScope, (routeProgram_alike options known alike).imp fun _ _ trees => trees.same⟩

/-- A literal with this raw text, read at this position. -/
def Node.literalAt (raw : Value) (position : Int) : Node :=
  (make .literal [(.value, .text "a"), (.raw, raw)]).withExtra (.object [("start", .scalar (.int position))])

/-- `function F() { 'a'; return <b />; }` and `function F() { "a"; return <b />; }` further down. -/
theorem routeProgram_same_quotes :
    let page := fun (raw : String) (position : Int) => Node.programOf [.functionNamed "F" []
      [.expressionStatement (.literalAt (.text raw) position),
        .returnStatement (.node (.emptyElement (.jsxName "b")))]]
    let first := page "'a'" 0
    let second := page "\"a\"" 7
    first.all Node.hasPlainFields = true ∧ second.all Node.hasPlainFields = true ∧ first.same second = true ∧
      ∃ routed after, routeProgram {} none first = .ok routed ∧ routeProgram {} none second = .ok after ∧
        routed.tree.same after.tree = true := by
  intro page first second
  have plain : first.all Node.hasPlainFields = true := rfl
  have otherPlain : second.all Node.hasPlainFields = true := rfl
  have same : first.same second = true := by decide +kernel
  obtain ⟨routed, run⟩ : ∃ routed, routeProgram {} none first = .ok routed := ⟨_, rfl⟩
  obtain ⟨after, ran, sameTrees⟩ := (routeProgram_same {} none plain otherPlain same).2.of_ok run
  exact ⟨plain, otherPlain, same, routed, after, run, ran, sameTrees⟩

/-- In the raw text of a literal stands `<b />`, which the pass finds and routes; the program is equal to one in
which the literal has no raw text and nothing is found. -/
theorem routeProgram_enters_raw :
    let page := fun (raw : Value) =>
      Node.programOf [.functionNamed "F" [] [.expressionStatement (.literalAt raw 0)]]
    let first := page (.node (.emptyElement (.jsxName "b")))
    let second := page .null
    first.isAsRead = true ∧ second.isAsRead = true ∧ first.same second = true ∧
      ∃ routed after, routeProgram {} none first = .ok routed ∧ routeProgram {} none second = .ok after ∧
        routed.tree.same after.tree = false :=
  ⟨rfl, rfl, by decide +kernel, _, _, rfl, rfl, by decide +kernel⟩

end JsxRouting
