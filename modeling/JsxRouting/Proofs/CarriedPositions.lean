import JsxRouting.Proofs.DeclaredFunctions
import JsxRouting.Proofs.RoutedPositions

namespace JsxRouting

/-- A place in a function: below a statement of its body, or at a position outside of them. -/
inductive Spot
  | statement (index : Nat) (below : Position)
  | elsewhere (position : Position)
  deriving DecidableEq

namespace Spot

def isStatement : Spot → Bool
  | statement _ _ => true
  | elsewhere _ => false

/-- Whether a place is in a statement behind the one with this index. -/
def isBehind (index : Nat) : Spot → Bool
  | statement other _ => index < other
  | elsewhere _ => false

end Spot

namespace Node

def hasBlock (function : Node) : Bool :=
  match function.get? .body with
  | some body => (body.nodeOf? .blockStatement).isSome
  | none => false

/-- The place to which a position leads. A body that is no block is the value of its only statement. -/
def spotOf (function : Node) : Position → Spot
  | [] => .elsewhere []
  | branch :: rest =>
    if function.hasBlock then
      match branch, rest with
      | .direct .body, .item .body index :: below => .statement index below
      | _, _ => .elsewhere (branch :: rest)
    else if branch.field = .body then .statement 0 (branch.withField .argument :: rest)
    else .elsewhere (branch :: rest)

/-- The node at a place. -/
def spot? (function : Node) : Spot → Option Node
  | .statement index below =>
    ((function.bodyStatements.bind (·[index]?)).bind Value.node?).bind (·.at? below)
  | .elsewhere position => function.at? position

/-- The first parameter, if it is a node. -/
def firstParameter? (function : Node) : Option Node := function.child? (.item .params 0)

/-- Where a place in the first parameter is after the pattern of the parameter made way for the props. -/
def carryPattern (function : Node) (rest : Position) : Option Spot :=
  match function.firstParameter?.bind patternField?, rest with
  | none, _ => some (.statement 0 (.item .declarations 0 :: .direct .id :: rest))
  | some field, branch :: below =>
    if branch.field = field then some (.statement 0 (.item .declarations 0 :: branch.withField .id :: below))
    else some (.elsewhere (.item .params 0 :: rest))
  | some _, [] => none

/-- Where a place in the function is after so many statements were put in front of its body, which `moves`
the pattern of the first parameter or not. What an arrow function with no block for its body holds in its
`expression` is overwritten. -/
def carry (function : Node) (moves : Bool) (count : Nat) : Spot → Option Spot
  | .statement index below => some (.statement (index + count) below)
  | .elsewhere [] => none
  | .elsewhere (branch :: rest) =>
    if moves ∧ branch = .item .params 0 then function.carryPattern rest
    else if branch.field = .expression ∧ function.is .arrowFunctionExpression ∧ ¬ function.hasBlock then none
    else some (.elsewhere (branch :: rest))

theorem bodyStatements_of_block {function block : Node} {items : List Value}
    (isBody : function.get? .body = some (.node block)) (isBlock : block.kind = .blockStatement)
    (isItems : block.get? .body = some (.list items)) : function.bodyStatements = some items := by
  simp only [bodyStatements, isBody, Value.nodeOf?_node isBlock, isItems]

theorem bodyStatements_of_no_block {function : Node} {body : Value} (isBody : function.get? .body = some body)
    (noBlock : function.hasBlock = false) : function.bodyStatements = some [.node (returnStatement body)] := by
  simp only [hasBlock, isBody, Option.isSome_eq_false_iff, Option.isNone_iff_eq_none] at noBlock
  simp only [bodyStatements, isBody, noBlock]

theorem exists_of_hasBlock {function : Node} (isBlock : function.hasBlock = true) :
    ∃ block, function.get? .body = some (.node block) ∧ block.kind = .blockStatement := by
  unfold hasBlock at isBlock
  split at isBlock
  · rename_i body isBody
    obtain ⟨block, there⟩ := Option.isSome_iff_exists.mp isBlock
    obtain ⟨rfl, blockKind⟩ := Value.nodeOf?_eq_some.mp there
    exact ⟨block, isBody, blockKind⟩
  · cases isBlock

/-- A position leads to what stands at its place. -/
theorem spot?_spotOf {function found : Node} {position : Position} (there : function.at? position = some found) :
    function.spot? (function.spotOf position) = some found := by
  cases position with
  | nil => exact there
  | cons branch rest =>
    obtain ⟨child, isChild, below⟩ := at?_cons_eq_some.mp there
    obtain ⟨value, isValue, leads⟩ := child?_eq_some.mp isChild
    rw [spotOf.eq_def]
    dsimp only
    split
    · rename_i isBlock
      split
      · rename_i index position
        obtain ⟨statement, isStatement, below⟩ := at?_cons_eq_some.mp below
        obtain ⟨block, isBody, blockKind⟩ := exists_of_hasBlock isBlock
        cases Option.some.inj ((get?_of_lookup isValue).symm.trans isBody)
        cases Option.some.inj leads
        obtain ⟨items, isItems, leads⟩ := child?_eq_some.mp isStatement
        cases items with
        | list items =>
          simp only [spot?, bodyStatements_of_block isBody blockKind (get?_of_lookup isItems), Option.bind_some]
          rw [show items[index]?.bind Value.node? = some statement from leads]
          exact below
        | scalar | object | node => cases leads
      · exact there
    · rename_i noBlock
      split
      · rename_i inBody
        rw [inBody] at isValue
        have statements := bodyStatements_of_no_block (get?_of_lookup isValue) (Bool.of_not_eq_true noBlock)
        have returned : (returnStatement value).child? (branch.withField .argument) = some child :=
          child?_eq_some.mpr ⟨value, by rw [Branch.field_withField]; rfl, by rwa [Branch.follow_withField]⟩
        simp only [spot?, statements, Option.bind_some, List.getElem?_cons_zero, Value.node?]
        exact at?_cons_eq_some.mpr ⟨child, returned, below⟩
      · exact there

/-- What is behind the declarations in the end stood in the body before. -/
theorem isBehind_carry {function : Node} {moves : Bool} {count index : Nat} {spot target : Spot}
    (carried : function.carry moves count spot = some target) (behind : index < count) :
    target.isBehind index = spot.isStatement := by
  cases spot with
  | statement other below =>
    cases carried
    simp only [Spot.isBehind, Spot.isStatement, decide_eq_true_eq]
    omega
  | elsewhere position =>
    cases position with
    | nil => cases carried
    | cons branch rest =>
      rw [carry] at carried
      split at carried
      · unfold carryPattern at carried
        split at carried
        · cases carried
          rfl
        · split at carried
          · cases carried
            rfl
          · cases carried
            rfl
        · cases carried
      · split at carried
        · cases carried
        · cases carried
          rfl

theorem spot?_prependToBody {function after found : Node} {front : List Node}
    (prepended : function.prependToBody front = .ok after) {index : Nat} {below : Position}
    (there : function.spot? (.statement index below) = some found) :
    after.spot? (.statement (index + front.length) below) = some found := by
  obtain ⟨old, isBody, changedBody⟩ := bodyStatements_prependToBody prepended
  simp only [spot?, isBody, changedBody, Option.bind_some] at there ⊢
  rwa [List.getElem?_append_right (by simp), List.length_map, Nat.add_sub_cancel]

/-- An element that is in none of the statements of a block stays where it is when the statements change. -/
theorem at?_block_set {block found : Node} {items : List Value} {value : Value} {position : Position}
    (there : block.at? position = some found) (isElement : found.kind = .jsxElement)
    (isBlock : block.kind = .blockStatement) (isItems : block.get? .body = some (.list items))
    (outside : ∀ index below, position ≠ .item .body index :: below) :
    (block.set .body value).at? position = some found := by
  cases position with
  | nil =>
    cases there
    rw [isBlock] at isElement
    cases isElement
  | cons branch rest =>
    by_cases inBody : branch.field = .body
    · obtain ⟨child, isChild, _⟩ := at?_cons_eq_some.mp there
      obtain ⟨list, isList, leads⟩ := child?_eq_some.mp isChild
      rw [inBody] at isList
      cases Option.some.inj ((get?_of_lookup isList).symm.trans isItems)
      cases branch with
      | direct field => cases leads
      | item field index =>
        cases inBody
        exact absurd rfl (outside index rest)
    · rwa [at?_cons_set_of_ne block value rest inBody]

/-- Outside the statements of the body, nothing but a flag of arrow functions changes. -/
theorem at?_prependToBody {function after found : Node} {front : List Node}
    (prepended : function.prependToBody front = .ok after) {branch : Branch} {rest : Position}
    (there : function.at? (branch :: rest) = some found) (isElement : found.kind = .jsxElement)
    (outside : function.spotOf (branch :: rest) = .elsewhere (branch :: rest))
    (kept : ¬ (branch.field = .expression ∧ function.is .arrowFunctionExpression ∧ ¬ function.hasBlock)) :
    after.at? (branch :: rest) = some found := by
  obtain ⟨block, items, isBody, isBlock, isItems, rfl⟩ | ⟨body, isBody, noBlock, rfl⟩ :=
    prependToBody_cases prepended
  · by_cases inBody : branch.field = .body
    · obtain ⟨child, isChild, below⟩ := at?_cons_eq_some.mp there
      obtain ⟨value, isValue, leads⟩ := child?_eq_some.mp isChild
      rw [inBody] at isValue
      cases Option.some.inj ((get?_of_lookup isValue).symm.trans isBody)
      cases branch with
      | item field index => cases leads
      | direct field =>
        cases inBody
        cases Option.some.inj leads
        refine at?_cons_eq_some.mpr ⟨_, child?_eq_some.mpr ⟨_, lookup_set_self _ isValue, rfl⟩, ?_⟩
        exact at?_block_set below isElement isBlock isItems fun index position => by
          rintro rfl
          simp [spotOf, hasBlock, isBody, Value.nodeOf?, is, isBlock] at outside
    · rwa [at?_cons_set_of_ne function _ rest inBody]
  · have hasNoBlock : function.hasBlock = false := by simp [hasBlock, isBody, noBlock]
    have noBody : branch.field ≠ .body := by
      rintro inBody
      simp [spotOf, hasNoBlock, inBody] at outside
    unfold blocked
    dsimp only
    split
    · rename_i isArrow
      have noExpression : branch.field ≠ .expression := fun same => kept ⟨same, isArrow, by simp [hasNoBlock]⟩
      rwa [at?_cons_set_of_ne _ _ rest noExpression, at?_cons_set_of_ne function _ rest noBody]
    · rwa [at?_cons_set_of_ne function _ rest noBody]

/-- Another list in a field leaves what stands behind the branches that find the same in it. -/
theorem at?_set_list {node found : Node} {field : Field} {items others : List Value} {branch : Branch}
    {rest : Position} (isItems : node.get? field = some (.list items))
    (there : node.at? (branch :: rest) = some found)
    (same : ∀ index child, branch = .item field index → items[index]?.bind Value.node? = some child →
      others[index]?.bind Value.node? = some child) :
    (node.set field (.list others)).at? (branch :: rest) = some found := by
  by_cases here : branch.field = field
  · obtain ⟨child, isChild, below⟩ := at?_cons_eq_some.mp there
    obtain ⟨value, isValue, leads⟩ := child?_eq_some.mp isChild
    rw [here] at isValue
    cases Option.some.inj ((get?_of_lookup isValue).symm.trans isItems)
    cases branch with
    | direct other => cases leads
    | item other index =>
      cases here
      exact at?_cons_eq_some.mpr
        ⟨child, child?_eq_some.mpr ⟨_, lookup_set_self _ isValue, same index child rfl leads⟩, below⟩
  · rwa [at?_cons_set_of_ne node _ rest here]

theorem at?_reading {function found : Node} {reading : PropsReading} (read : reading.From function)
    {branch : Branch} {rest : Position} (there : function.at? (branch :: rest) = some found)
    (kept : ¬ (reading.prelude ≠ [] ∧ branch = .item .params 0)) :
    reading.function.at? (branch :: rest) = some found := by
  cases read with
  | kept => exact there
  | added _ isParams =>
    refine at?_set_list isParams there fun index child _ isChild => ?_
    obtain ⟨item, there, isNode⟩ := Option.bind_eq_some_iff.mp isChild
    obtain ⟨short, _⟩ := List.getElem?_eq_some_iff.mp there
    rwa [List.getElem?_append_left short]
  | within _ isParams _ | whole _ isParams _ =>
    refine at?_set_list isParams there fun index child isBranch isChild => ?_
    cases index with
    | zero => exact absurd ⟨by simp, isBranch⟩ kept
    | succ index => exact isChild

/-- What stands in a pattern stands in the constant that the pattern declares. -/
theorem at?_constDeclaration {target init : Value} {branch : Branch} {below : Position} {child found : Node}
    (leads : branch.follow target = some child) (there : child.at? below = some found) :
    (constDeclaration target init).at? (.item .declarations 0 :: branch.withField .id :: below) = some found := by
  have declarator : (constDeclaration target init).child? (.item .declarations 0) =
      some (.make .variableDeclarator [(.id, target), (.init, init)]) := rfl
  have isTarget : (Node.make .variableDeclarator [(.id, target), (.init, init)]).child? (branch.withField .id) =
      some child := child?_eq_some.mpr
        ⟨target, by rw [Branch.field_withField]; rfl, by rwa [Branch.follow_withField]⟩
  exact at?_cons_eq_some.mpr ⟨_, declarator, at?_cons_eq_some.mpr ⟨child, isTarget, there⟩⟩

theorem spot?_firstStatement {function after statement found : Node} {others : List Node} {below : Position}
    (prepended : function.prependToBody (statement :: others) = .ok after)
    (there : statement.at? below = some found) : after.spot? (.statement 0 below) = some found := by
  obtain ⟨old, _, changedBody⟩ := bodyStatements_prependToBody prepended
  simp only [spot?, changedBody, Option.bind_some, List.map_cons, List.cons_append, List.getElem?_cons_zero,
    Value.node?]
  exact there

theorem firstParameter?_eq {function parameter child : Node} {rest : List Value}
    (isParams : function.get? .params = some (.list (.node parameter :: rest)))
    (isChild : function.child? (.item .params 0) = some child) : child = parameter := by
  obtain ⟨value, isValue, leads⟩ := child?_eq_some.mp isChild
  cases Option.some.inj ((get?_of_lookup isValue).symm.trans isParams)
  exact (Option.some.inj leads).symm

theorem spotOf_params (function : Node) (index : Nat) (rest : Position) :
    function.spotOf (.item .params index :: rest) = .elsewhere (.item .params index :: rest) := by
  rw [spotOf.eq_def]
  cases function.hasBlock <;> rfl

/-- What stood in the first parameter is found after its pattern made way for the props. -/
theorem spot?_carryPattern {function after found : Node} {reading : PropsReading} {others : List Node}
    (read : reading.From function)
    (prepended : reading.function.prependToBody (reading.prelude ++ others) = .ok after)
    {rest : Position} {target : Spot} (there : function.at? (.item .params 0 :: rest) = some found)
    (isElement : found.kind = .jsxElement) (moves : reading.prelude ≠ [])
    (carried : function.carryPattern rest = some target) : after.spot? target = some found := by
  obtain ⟨child, isChild, below⟩ := at?_cons_eq_some.mp there
  unfold carryPattern firstParameter? at carried
  rw [isChild] at carried
  cases read with
  | kept | added => exact absurd rfl moves
  | @within parameter items field _ isParams isField =>
    obtain rfl := firstParameter?_eq isParams isChild
    simp only [Option.bind_some, isField] at carried
    cases rest with
    | nil => cases carried
    | cons branch position =>
      simp only at carried
      split at carried
      · rename_i inPattern
        cases carried
        obtain ⟨inner, isInner, deeper⟩ := at?_cons_eq_some.mp below
        obtain ⟨pattern, isPattern, leads⟩ := child?_eq_some.mp isInner
        rw [inPattern] at isPattern
        refine spot?_firstStatement prepended (at?_constDeclaration ?_ deeper)
        rwa [get?_of_lookup isPattern]
      · rename_i besides
        cases carried
        obtain ⟨value, isValue, _⟩ := child?_eq_some.mp isChild
        have kept : (function.set .params (.list (.node (child.set field (.node (identifier propsParameter))) ::
            items))).at? (.item .params 0 :: branch :: position) = some found :=
          at?_cons_eq_some.mpr ⟨_, child?_eq_some.mpr ⟨_, lookup_set_self _ isValue, rfl⟩,
            by rwa [at?_cons_set_of_ne child _ position besides]⟩
        exact at?_prependToBody prepended kept isElement (spotOf_params _ 0 _) (by simp [Branch.field])
  | @whole first items _ isParams noField =>
    obtain ⟨value, isValue, leads⟩ := child?_eq_some.mp isChild
    cases Option.some.inj ((get?_of_lookup isValue).symm.trans isParams)
    cases first with
    | node parameter =>
      obtain rfl : parameter = child := Option.some.inj leads
      rw [Option.bind_some, noField parameter rfl] at carried
      cases carried
      exact spot?_firstStatement prepended
        (at?_constDeclaration (rfl : (Branch.direct .id).follow (.node parameter) = some parameter) below)
    | scalar | list | object => cases leads

theorem spotOf_eq {function : Node} {position other : Position}
    (outside : function.spotOf position = .elsewhere other) :
    other = position := by
  rw [spotOf.eq_def] at outside
  split at outside
  · cases outside
    rfl
  · split at outside
    · split at outside
      · cases outside
      · cases outside
        rfl
    · split at outside
      · cases outside
      · cases outside
        rfl

theorem spotOf_congr {function other : Node} (same : other.hasBlock = function.hasBlock) :
    other.spotOf = function.spotOf := by
  funext position
  rw [spotOf.eq_def, spotOf.eq_def, same]

theorem hasBlock_reading {function : Node} {reading : PropsReading} (read : reading.From function) :
    reading.function.hasBlock = function.hasBlock := by
  simp only [hasBlock, read.get?_of_ne (show Field.body ≠ .params by decide)]

/-- What stood at a position of a function is found at the place to which the position is carried. -/
theorem spot?_carry {function after found : Node} {reading : PropsReading} {others : List Node}
    (read : reading.From function)
    (prepended : reading.function.prependToBody (reading.prelude ++ others) = .ok after)
    {position : Position} {target : Spot} (there : function.at? position = some found)
    (isElement : found.kind = .jsxElement)
    (carried : function.carry (!reading.prelude.isEmpty) (reading.prelude ++ others).length
      (function.spotOf position) = some target) :
    after.spot? target = some found := by
  have placed := spot?_spotOf there
  cases spot : function.spotOf position with
  | statement index below =>
    rw [spot] at carried placed
    cases carried
    refine spot?_prependToBody prepended ?_
    rw [spot?, bodyStatements_reading read]
    exact placed
  | elsewhere other =>
    rw [spot] at carried
    obtain rfl := spotOf_eq spot
    cases other with
    | nil => cases carried
    | cons branch rest =>
      rw [carry] at carried
      split at carried
      · rename_i moves
        obtain ⟨moves, rfl⟩ := moves
        exact spot?_carryPattern read prepended there isElement (by simpa using moves) carried
      · rename_i stays
        split at carried
        · cases carried
        · rename_i kept
          cases carried
          refine at?_prependToBody prepended (at?_reading read there ?_) isElement ?_ ?_
          · simpa using stays
          · rw [spotOf_congr (hasBlock_reading read), spot]
          · rwa [is, read.kind, hasBlock_reading read]

theorem hasBlock_routing {function inner : Node} (routes : function.RoutesTo inner)
    (isFunction : function.isFunction = true) : inner.hasBlock = function.hasBlock := by
  have bodies := routes.get? (isRouted_of_isFunction isFunction) .body
  unfold hasBlock
  generalize function.get? .body = before at bodies
  generalize inner.get? .body = after at bodies
  cases bodies with
  | none => rfl
  | @some body other routesBody =>
    have blocks := routesBody.isBlock
    simp only
    generalize body.nodeOf? .blockStatement = before at blocks
    generalize other.nodeOf? .blockStatement = after at blocks
    cases blocks <;> rfl

/-- The first parameter keeps its kind. -/
theorem patternField?_routing {function inner : Node} (routes : function.RoutesTo inner)
    (isFunction : function.isFunction = true) :
    inner.firstParameter?.bind patternField? = function.firstParameter?.bind patternField? := by
  have first := routes.child? (isRouted_of_isFunction isFunction) (.item .params 0)
  unfold firstParameter?
  generalize function.child? (.item .params 0) = before at first ⊢
  generalize inner.child? (.item .params 0) = after at first ⊢
  cases first with
  | none => rfl
  | some routesChild => simp only [Option.bind_some, patternField?, routesChild.kind]

/-- Routing a function carries its places nowhere else. -/
theorem carry_routing {function inner : Node} (run : function.transform routing .plain = .ok inner)
    (isFunction : function.isFunction = true) (moves : Bool) (count : Nat) (position : Position) :
    inner.carry moves count (inner.spotOf position) = function.carry moves count (function.spotOf position) := by
  have sameBlock := hasBlock_routing (.inr ⟨.plain, run⟩) isFunction
  rw [spotOf_congr sameBlock]
  generalize function.spotOf position = spot
  cases spot with
  | statement => rfl
  | elsewhere position =>
    cases position with
    | nil => rfl
    | cons branch rest =>
      have sameKind : inner.is .arrowFunctionExpression = function.is .arrowFunctionExpression := by
        simp only [is, kind_routing run]
      have samePattern : inner.carryPattern rest = function.carryPattern rest := by
        unfold carryPattern
        rw [patternField?_routing (.inr ⟨.plain, run⟩) isFunction]
      rw [carry, carry, samePattern, sameKind, sameBlock]

/-- An element that stands at no place afterwards stood in the overwritten part of an arrow function. -/
theorem carry_eq_none {function found : Node} {moves : Bool} {count : Nat} {position : Position}
    (isFunction : function.isFunction = true) (there : function.at? position = some found)
    (isElement : found.kind = .jsxElement) (lost : function.carry moves count (function.spotOf position) = none) :
    function.is .arrowFunctionExpression ∧ ¬ function.hasBlock ∧
      ∃ branch rest, position = branch :: rest ∧ branch.field = .expression := by
  cases spot : function.spotOf position with
  | statement index below =>
    rw [spot] at lost
    cases lost
  | elsewhere other =>
    rw [spot] at lost
    obtain rfl := spotOf_eq spot
    cases other with
    | nil =>
      cases there
      exact absurd isElement (ne_jsxElement_of_isFunction isFunction)
    | cons branch rest =>
      rw [carry] at lost
      split at lost
      · rename_i inFirst
        obtain ⟨-, rfl⟩ := inFirst
        obtain ⟨parameter, isParameter, below⟩ := at?_cons_eq_some.mp there
        unfold carryPattern firstParameter? at lost
        rw [isParameter, Option.bind_some] at lost
        split at lost
        · cases lost
        · split at lost <;> cases lost
        · rename_i field isField
          cases below
          rw [patternField?, isElement] at isField
          cases isField
      · split at lost
        · rename_i overwritten
          exact ⟨overwritten.2.1, overwritten.2.2, branch, rest, rfl, overwritten.1⟩
        · cases lost

end Node

/-- In a routed program, the tags of a function have become members of its components object, and each of
them is in a statement behind the declaration of that object exactly if it stood in a statement of the body.
A tag in a parameter did not: it stays in the parameter, or moves in front of the declaration. No tag is lost
but in the flag of an arrow function that is overwritten. -/
theorem routeProgram_routed_behind_iff {options : Options} {known : Option NameSet} {tree : Node}
    {routed : Routed} (program : tree.kind = .program) (run : routeProgram options known tree = .ok routed)
    {position inside : Position} {place inner : Place} {function element : Node} {tag : Scalar}
    (found : tree.outermostAt? .plain position = some (place, function))
    (reached : function.reach? .plain inside = some (inner, element)) (isElement : element.kind = .jsxElement)
    (tagged : element.tag? = some tag) :
    ∃ changed index components, routed.tree.at? (Position.behind (routed.frontCount tree) position) = some changed ∧
      index ≤ 1 ∧ (changed.bodyStatements.bind (·[index]?)) =
        some (.node (.constDeclaration (.node (.identifier componentsObject)) components)) ∧
      (∀ target, function.carry (index == 1) (function.addedStatements changed).length (function.spotOf inside) =
          some target →
        (∃ after, changed.spot? target = some after ∧
          after.elementName? = element.elementName?.map fun name => .node (routedName name)) ∧
        target.isBehind index = (function.spotOf inside).isStatement) ∧
      (function.carry (index == 1) (function.addedStatements changed).length (function.spotOf inside) = none →
        function.is .arrowFunctionExpression ∧ ¬ function.hasBlock ∧
          ∃ branch rest, inside = branch :: rest ∧ branch.field = .expression) := by
  obtain ⟨topScope, _, outermost⟩ := routeProgram_outermost program run
  obtain ⟨changed, declared, there⟩ := outermost position place function found
  have member := Node.mem_jsxElements_of_reach? reached isElement
  obtain ⟨nothing, _⟩ | ⟨_, routedFunction, prepared, ran, ready, prepended⟩ := Pass.declare_cases declared
  · rw [Findings.tag?_of_isEmpty nothing member] at tagged
    cases tagged
  have isFunction := Node.isFunction_of_outermostAt? found
  obtain ⟨props, read⟩ := Node.prepare_from ready
  obtain ⟨after, isAfter, afterKind, afterName⟩ := Node.at?_routing_of_tag? ran reached isElement tagged
  have short : prepared.prelude.length ≤ 1 := read.length_prelude
  have added := Pass.addedStatements_prependToBody isFunction ran ready prepended
  obtain ⟨old, _, changedBody⟩ := Node.bodyStatements_prependToBody prepended
  have declares (usesProvider : Bool) (props : Option Node) (findings : Findings) :
      ∃ components rest, findings.declarations usesProvider props =
        .constDeclaration (.node (.identifier componentsObject)) components :: rest := ⟨_, _, rfl⟩
  obtain ⟨components, rest, isDeclared⟩ :=
    declares options.usesProvider prepared.props (Findings.within topScope function)
  rw [isDeclared] at added prepended changedBody
  have moves : (prepared.prelude.length == 1) = !prepared.prelude.isEmpty := by
    cases h : prepared.prelude with
    | nil => rfl
    | cons statement others =>
      rw [h] at short
      simpa using short
  refine ⟨changed, prepared.prelude.length, components, there, short, ?_, fun target carried => ⟨?_, ?_⟩,
    Node.carry_eq_none isFunction (Node.at?_of_reach? reached) isElement⟩
  · simp [changedBody]
  · rw [added, List.length_map, moves, ← Node.carry_routing ran isFunction] at carried
    exact ⟨after, Node.spot?_carry read prepended isAfter afterKind carried, afterName⟩
  · refine Node.isBehind_carry carried ?_
    rw [added]
    simp

/-- In `function F() { return <b />; }` the tag is behind the declaration, which is the first statement. -/
theorem routeProgram_routed_behind_return :
    let bold := Node.emptyElement (.jsxName "b")
    let function := Node.functionNamed "F" [] [.returnStatement (.node bold)]
    let page := Node.programOf [function]
    let inside : Position := [.direct .body, .item .body 0, .direct .argument]
    page.kind = .program ∧ page.outermostAt? .plain [.item .body 0] = some (.plain, function) ∧
      function.reach? .plain inside = some (.plain, bold) ∧ bold.kind = .jsxElement ∧
      bold.tag? = some (.text "b") ∧ ∃ routed, routeProgram {} none page = .ok routed ∧
        ∃ changed after, routed.tree.at? (Position.behind (routed.frontCount page) [.item .body 0]) = some changed ∧
          changed.spot? (.statement 1 [.direct .argument]) = some after ∧
          after.elementName? = some (.node (routedName (.node (.jsxName "b")))) := by
  intro bold function page inside
  have program : page.kind = .program := rfl
  have found : page.outermostAt? .plain [.item .body 0] = some (.plain, function) := rfl
  have reached : function.reach? .plain inside = some (.plain, bold) := rfl
  have isElement : bold.kind = .jsxElement := rfl
  have tagged : bold.tag? = some (.text "b") := rfl
  refine ⟨program, found, reached, isElement, tagged, _, rfl, ?_⟩
  obtain ⟨changed, index, components, there, short, isDeclared, carried, _⟩ :=
    routeProgram_routed_behind_iff program (rfl : routeProgram {} none page = .ok _) found reached isElement tagged
  cases there
  obtain rfl : index = 0 := by
    match index, short with
    | 0, _ => rfl
    | 1, _ => cases isDeclared
  obtain ⟨⟨after, isAfter, named⟩, _⟩ := carried (.statement 1 [.direct .argument]) rfl
  exact ⟨_, after, rfl, isAfter, named⟩

/-- In `function F(x = <b />) { return x; }` the tag becomes a member of the components object in the
parameter, where that object is not declared. -/
theorem routeProgram_routes_parameter :
    let bold := Node.emptyElement (.jsxName "b")
    let function := Node.functionNamed "F"
      [.make .assignmentPattern [(.left, .node (.identifier "x")), (.right, .node bold)]]
      [.returnStatement (.node (.identifier "x"))]
    ∃ routed changed after, routeProgram {} none (.programOf [function]) = .ok routed ∧
      routed.tree.at? [.item .body 0] = some changed ∧
      function.at? [.item .params 0, .direct .right] = some bold ∧
      changed.at? [.item .params 0, .direct .right] = some after ∧
      after.elementName? = some (.node (routedName (.node (.jsxName "b")))) :=
  ⟨_, _, _, rfl, rfl, rfl, rfl, rfl⟩

end JsxRouting
