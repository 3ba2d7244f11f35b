import JsxRouting.Proofs.OuterWalk

namespace JsxRouting

theorem mapOutermostInItems_eq (change : Place → Node → Except Error Node) (items : List Value) :
    mapOutermostInItems change items =
      items.mapM (Value.visitItem fun place child => child.mapOutermost change place) := by
  induction items with
  | nil => rfl
  | cons item rest ih =>
    rw [List.mapM_cons, ← ih]
    cases item with
    | node child =>
      rw [mapOutermostInItems, Value.visitItem]
      cases child.mapOutermost change .plain <;> rfl
    | scalar | list | object => rfl

theorem mapOutermostInFields_eq (change : Place → Node → Except Error Node) (placeOf : Field → Option Place)
    (fields : List (Field × Value)) :
    mapOutermostInFields change placeOf fields =
      fields.mapM (visitField (fun place child => child.mapOutermost change place) placeOf) := by
  induction fields with
  | nil => rfl
  | cons entry rest ih =>
    obtain ⟨field, value⟩ := entry
    rw [mapOutermostInFields, List.mapM_cons, ← ih, visitField]
    cases placeOf field with
    | none => rfl
    | some place =>
      cases value with
      | node child =>
        simp only [Value.mapOutermost, Value.visitNodes]
        cases child.mapOutermost change place <;> rfl
      | list items =>
        simp only [Value.mapOutermost, Value.visitNodes, mapOutermostInItems_eq]
        cases items.mapM (Value.visitItem fun place child => child.mapOutermost change place) <;> rfl
      | scalar | object => rfl

theorem mapOutermostInFields_cons_eq_ok {change : Place → Node → Except Error Node}
    {placeOf : Field → Option Place} {field : Field} {value : Value} {rest others : List (Field × Value)}
    (mapped : mapOutermostInFields change placeOf ((field, value) :: rest) = .ok others) :
    ∃ other tail, others = (field, other) :: tail ∧ mapOutermostInFields change placeOf rest = .ok tail ∧
      (match placeOf field with
        | some place => value.mapOutermost change place = .ok other
        | none => other = value) := by
  rw [mapOutermostInFields] at mapped
  cases placed : placeOf field with
  | none =>
    rw [placed] at mapped
    obtain ⟨other, same, mapped⟩ := bind_eq_ok_iff.mp mapped
    obtain ⟨tail, mappedRest, mapped⟩ := bind_eq_ok_iff.mp mapped
    cases same
    cases mapped
    exact ⟨value, tail, rfl, mappedRest, rfl⟩
  | some place =>
    rw [placed] at mapped
    obtain ⟨other, mappedValue, mapped⟩ := bind_eq_ok_iff.mp mapped
    obtain ⟨tail, mappedRest, mapped⟩ := bind_eq_ok_iff.mp mapped
    cases mapped
    exact ⟨other, tail, rfl, mappedRest, mappedValue⟩

/-- What stands in a field after the outermost functions were changed is what stood there, changed by itself. -/
theorem lookup_mapOutermostInFields {change : Place → Node → Except Error Node} {placeOf : Field → Option Place}
    {fields others : List (Field × Value)} {field : Field} {value : Value}
    (mapped : mapOutermostInFields change placeOf fields = .ok others) (there : fields.lookup field = some value) :
    ∃ other, others.lookup field = some other ∧
      (match placeOf field with
        | some place => value.mapOutermost change place = .ok other
        | none => other = value) := by
  induction fields generalizing others with
  | nil => cases there
  | cons entry rest ih =>
    obtain ⟨first, old⟩ := entry
    obtain ⟨new, tail, rfl, mappedRest, mappedOld⟩ := mapOutermostInFields_cons_eq_ok mapped
    rw [List.lookup_cons] at there ⊢
    cases here : field == first with
    | true =>
      rw [here] at there
      obtain rfl := beq_iff_eq.mp here
      cases there
      exact ⟨new, rfl, mappedOld⟩
    | false =>
      rw [here] at there
      exact ih mappedRest there

/-- The body of a program is changed like any value. -/
theorem lookup_body_mapOutermost {change : Place → Node → Except Error Node} {tree walked : Node} {body : Value}
    (program : tree.kind = .program) (isBody : tree.fields.lookup .body = some body)
    (mapped : tree.mapOutermost change .plain = .ok walked) :
    ∃ other, walked.fields.lookup .body = some other ∧ body.mapOutermost change .plain = .ok other := by
  rw [Node.mapOutermost_of_not_function (Node.not_isFunction_of_program program)] at mapped
  obtain ⟨others, mappedFields, rfl⟩ := map_eq_ok_iff.mp mapped
  obtain ⟨other, isOther, mappedBody⟩ := lookup_mapOutermostInFields mappedFields isBody
  have placed : Place.plain.inField tree.kind tree.fields false .body = some .plain := by
    rw [program]
    rfl
  rw [placed] at mappedBody
  exact ⟨other, isOther, mappedBody⟩

/-- Outside routed elements, no name is out of reach behind a branch. -/
theorem Place.visible_below {place inner : Place} {kind : Kind} {fields : List (Field × Value)} {branch : Branch}
    (placed : place.inField kind fields false branch.field = some inner) :
    (branch.place inner).hidesName = false := by
  cases branch with
  | direct field => exact visible_inField placed
  | item field index => rfl

namespace Node

/-- The function at a position, with its place, if it stands in no other function. -/
def outermostAt? (place : Place) (node : Node) : Position → Option (Place × Node)
  | [] => if node.isFunction then some (place, node) else none
  | branch :: rest =>
    if node.isFunction then none
    else
      match place.inField node.kind node.fields false branch.field, node.child? branch with
      | some inner, some child => child.outermostAt? (branch.place inner) rest
      | _, _ => none

theorem isFunction_of_outermostAt? {node function : Node} {place inner : Place} {position : Position}
    (found : node.outermostAt? place position = some (inner, function)) : function.isFunction = true := by
  induction position generalizing node place with
  | nil =>
    rw [outermostAt?] at found
    split at found
    · rename_i isFunction
      cases found
      exact isFunction
    · cases found
  | cons branch rest ih =>
    rw [outermostAt?] at found
    split at found
    · cases found
    · split at found
      · exact ih found
      · cases found

/-- The functions that stand in no other function are those at the positions at which one stands. -/
theorem mem_functions_iff {node function : Node} {place inner : Place} (regular : node.isRegular = true) :
    (inner, function) ∈ node.functions place ↔
      ∃ position, node.outermostAt? place position = some (inner, function) := by
  induction node using induction_children generalizing place with
  | step node ih =>
    have below {branch : Branch} {child : Node} (isChild : node.child? branch = some child) (fieldPlace : Place) :=
      @ih child (mem_children_of_child? isChild) (branch.place fieldPlace)
        (all_of_mem_children regular (mem_children_of_child? isChild))
    by_cases isFunction : node.isFunction = true
    · rw [functions_of_function place isFunction, List.mem_singleton]
      constructor
      · intro same
        exact ⟨[], by rw [outermostAt?, if_pos isFunction, same]⟩
      · rintro ⟨position, found⟩
        cases position with
        | nil =>
          rw [outermostAt?, if_pos isFunction] at found
          exact (Option.some.inj found).symm
        | cons branch rest =>
          rw [outermostAt?, if_pos isFunction] at found
          cases found
    · rw [functions_of_not_function place isFunction]
      constructor
      · intro member
        obtain ⟨⟨childPlace, child⟩, placed, inChild⟩ := List.mem_flatMap.mp member
        obtain ⟨branch, fieldPlace, isPlace, isChild, rfl⟩ := (mem_placedNodes_iff (check_of_all regular)).mp placed
        obtain ⟨rest, found⟩ := (below isChild fieldPlace).mp inChild
        refine ⟨branch :: rest, ?_⟩
        rw [outermostAt?, if_neg isFunction, isPlace, isChild]
        exact found
      · rintro ⟨position, found⟩
        cases position with
        | nil =>
          rw [outermostAt?, if_neg isFunction] at found
          cases found
        | cons branch rest =>
          rw [outermostAt?, if_neg isFunction] at found
          split at found
          · rename_i fieldPlace child isPlace isChild
            refine List.mem_flatMap.mpr
              ⟨(branch.place fieldPlace, child), ?_, (below isChild fieldPlace).mpr ⟨rest, found⟩⟩
            exact (mem_placedNodes_iff (check_of_all regular)).mpr ⟨branch, fieldPlace, isPlace, isChild, rfl⟩
          · cases found

/-- Changing the outermost functions changes the one at a position as if it were alone. -/
theorem at?_mapOutermost {change : Place → Node → Except Error Node} {node after function : Node}
    {place inner : Place} {position : Position} (mapped : node.mapOutermost change place = .ok after)
    (found : node.outermostAt? place position = some (inner, function)) :
    ∃ changed, change inner function = .ok changed ∧ after.at? position = some changed := by
  induction position generalizing node after place with
  | nil =>
    rw [outermostAt?] at found
    split at found
    · rename_i isFunction
      rw [mapOutermost_of_function isFunction] at mapped
      cases found
      exact ⟨after, mapped, rfl⟩
    · cases found
  | cons branch rest ih =>
    rw [outermostAt?] at found
    split at found
    · cases found
    rename_i noFunction
    split at found
    · rename_i innerPlace child placed isChild
      rw [mapOutermost_of_not_function noFunction] at mapped
      obtain ⟨others, mappedFields, rfl⟩ := map_eq_ok_iff.mp mapped
      rw [mapOutermostInFields_eq] at mappedFields
      obtain ⟨other, isOther, mappedChild⟩ := (visitFields_relate mappedFields).child isChild placed
      obtain ⟨changed, isChanged, there⟩ := ih mappedChild found
      exact ⟨changed, isChanged, at?_cons_eq_some.mpr ⟨other, isOther, there⟩⟩
    · cases found

end Node

namespace Position

/-- The position after statements were put in front of the body of the root. -/
def behind (count : Nat) : Position → Position
  | .item .body index :: rest => .item .body (index + count) :: rest
  | position => position

@[simp] theorem behind_zero (position : Position) : behind 0 position = position := by
  unfold behind
  split <;> simp

theorem behind_behind (count more : Nat) (position : Position) :
    behind more (behind count position) = behind (count + more) position := by
  match position with
  | [] | .direct _ :: _ => rfl
  | .item field index :: rest =>
    by_cases inBody : field = .body
    · subst inBody
      simp only [behind, Nat.add_assoc]
    · simp [behind, inBody]

end Position

namespace Node

theorem at?_prependStatement {program after statement target : Node} {branch : Branch} {rest : Position}
    (prepended : program.prependStatement statement = .ok after)
    (there : program.at? (branch :: rest) = some target) :
    after.at? (Position.behind 1 (branch :: rest)) = some target := by
  unfold prependStatement at prepended
  split at prepended
  · rename_i items isBody
    cases prepended
    by_cases inBody : branch.field = .body
    · obtain ⟨child, isChild, below⟩ := at?_cons_eq_some.mp there
      obtain ⟨value, isValue, leads⟩ := child?_eq_some.mp isChild
      rw [inBody] at isValue
      cases Option.some.inj ((get?_of_lookup isValue).symm.trans isBody)
      cases branch with
      | direct field => simp [Branch.follow] at leads
      | item field index =>
        simp only [Branch.field] at inBody
        subst inBody
        refine at?_cons_eq_some.mpr ⟨child, child?_eq_some.mpr ⟨_, lookup_set_self _ isValue, ?_⟩, below⟩
        simpa [Branch.follow] using leads
    · have unmoved : Position.behind 1 (branch :: rest) = branch :: rest := by
        unfold Position.behind
        split
        · rename_i same
          cases same
          exact absurd rfl inBody
        · rfl
      rw [unmoved, at?_cons_set_of_ne program _ rest inBody]
      exact there
  · cases prepended

theorem at?_prependStatements {program after target : Node} {front : List Node} {position : Position}
    (prepended : List.foldlM prependStatement program front = .ok after) (below : position ≠ [])
    (there : program.at? position = some target) :
    after.at? (Position.behind front.length position) = some target := by
  induction front generalizing program position with
  | nil =>
    cases prepended
    rw [List.length_nil, Position.behind_zero]
    exact there
  | cons statement rest ih =>
    obtain ⟨middle, first, others⟩ := bind_eq_ok_iff.mp prepended
    cases position with
    | nil => exact absurd rfl below
    | cons branch inner =>
      have still : Position.behind 1 (branch :: inner) ≠ [] := by
        unfold Position.behind
        split <;> simp
      have moved := ih others still (at?_prependStatement first there)
      rwa [Position.behind_behind, Nat.add_comm] at moved

/-- The number of statements in the body of a program. -/
def statementCount (program : Node) : Nat :=
  match program.get? .body with
  | some (.list items) => items.length
  | _ => 0

theorem statementCount_mapOutermost {change : Place → Node → Except Error Node} {node after : Node}
    {place : Place} (noFunction : ¬ node.isFunction = true) (mapped : node.mapOutermost change place = .ok after) :
    after.statementCount = node.statementCount := by
  rw [mapOutermost_of_not_function noFunction] at mapped
  obtain ⟨others, mappedFields, rfl⟩ := map_eq_ok_iff.mp mapped
  rw [mapOutermostInFields_eq] at mappedFields
  obtain same | ⟨value, other, isValue, isOther, values⟩ := (visitFields_relate mappedFields).get?_cases .body
  · simp only [statementCount, same]
  · simp only [statementCount, isValue, isOther]
    cases placed : place.inField node.kind node.fields false .body with
    | none =>
      rw [placed] at values
      cases values
      rfl
    | some inner =>
      rw [placed] at values
      cases values with
      | list items => exact items.length_eq.symm
      | node | scalar | object => rfl

theorem statementCount_prependStatements {program after : Node} {front : List Node}
    (prepended : List.foldlM prependStatement program front = .ok after) :
    after.statementCount = program.statementCount + front.length := by
  induction front generalizing program with
  | nil =>
    cases prepended
    rfl
  | cons statement rest ih =>
    obtain ⟨middle, first, others⟩ := bind_eq_ok_iff.mp prepended
    have longer : middle.statementCount = program.statementCount + 1 := by
      unfold prependStatement at first
      split at first
      · rename_i items isBody
        cases first
        simp only [statementCount, get?_set_self, isBody, List.length_cons]
      · cases first
    rw [ih others, longer, List.length_cons]
    omega

/-- The names that the pass takes for known: those that are given, or those of the top scope. -/
def knownNames (tree : Node) (known : Option NameSet) : Except Error NameSet :=
  match known with
  | some names => .ok names
  | none => tree.topScope

end Node

theorem routeProgram_eq (options : Options) (known : Option NameSet) (tree : Node) :
    routeProgram options known tree =
      tree.knownNames known >>= fun topScope => Pass.run ⟨options, topScope⟩ tree := by
  cases known <;> rfl

/-- The number of statements that routing has put in front of a program. -/
def Routed.frontCount (routed : Routed) (tree : Node) : Nat := routed.tree.statementCount - tree.statementCount

/-- A routed program is the program with its outermost functions changed as the pass declares it, behind the
statements that are put in front. -/
theorem routeProgram_walked {options : Options} {known : Option NameSet} {tree : Node} {routed : Routed}
    (program : tree.kind = .program) (run : routeProgram options known tree = .ok routed) :
    ∃ topScope walked front, tree.knownNames known = .ok topScope ∧
      tree.mapOutermost (Pass.declare ⟨options, topScope⟩) .plain = .ok walked ∧
      List.foldlM Node.prependStatement walked front = .ok routed.tree ∧ routed.frontCount tree = front.length := by
  rw [routeProgram_eq] at run
  obtain ⟨topScope, isScope, run⟩ := bind_eq_ok_iff.mp run
  obtain ⟨walked, helper, provider, mapped, prepended, _, _⟩ := Pass.run_eq_ok run
  refine ⟨topScope, walked, helper ++ provider, isScope, mapped, prepended, ?_⟩
  rw [Routed.frontCount, Node.statementCount_prependStatements prepended,
    Node.statementCount_mapOutermost (Node.not_isFunction_of_program program) mapped]
  omega

/-- In a routed program, every outermost function is what the pass declares for it, behind the statements
that were put in front of the program. -/
theorem routeProgram_outermost {options : Options} {known : Option NameSet} {tree : Node} {routed : Routed}
    (program : tree.kind = .program) (run : routeProgram options known tree = .ok routed) :
    ∃ topScope, tree.knownNames known = .ok topScope ∧
      ∀ position place function, tree.outermostAt? .plain position = some (place, function) →
        ∃ changed, Pass.declare ⟨options, topScope⟩ place function = .ok changed ∧
          routed.tree.at? (Position.behind (routed.frontCount tree) position) = some changed := by
  obtain ⟨topScope, walked, front, isScope, mapped, prepended, sameCount⟩ := routeProgram_walked program run
  refine ⟨topScope, isScope, fun position place function found => ?_⟩
  have below : position ≠ [] := by
    rintro rfl
    simp [Node.outermostAt?, Node.not_isFunction_of_program program] at found
  obtain ⟨changed, isChanged, there⟩ := Node.at?_mapOutermost mapped found
  rw [sameCount]
  exact ⟨changed, isChanged, Node.at?_prependStatements prepended below there⟩

end JsxRouting
