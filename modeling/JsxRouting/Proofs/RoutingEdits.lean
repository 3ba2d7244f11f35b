import JsxRouting.Proofs.ElementFaults
import JsxRouting.Proofs.RootStatements
import JsxRouting.Proofs.RoutedPositions
import JsxRouting.Proofs.TreeEdits

namespace JsxRouting

namespace Node

theorem hasOwnFields_set (node : Node) (field : Field) (value : Value) :
    (node.set field value).hasOwnFields = node.hasOwnFields := by
  rw [hasOwnFields, names_set, kind_set]
  rfl

theorem hasOwnFields_routing {node after : Node} {place : Place} (run : node.transform routing place = .ok after) :
    after.hasOwnFields = node.hasOwnFields := by
  obtain ⟨fields, ran, outcome⟩ := routing_cases run
  rw [transformFields_eq] at ran
  have walked : (mk node.kind fields node.extra node.attached).hasOwnFields = node.hasOwnFields := by
    have same := (visitFields_relate ran).names
    exact congrArg (· == node.kind.fields) same
  obtain ⟨_, rfl⟩ | ⟨tag, _, _, routed⟩ := outcome
  · exact walked
  · obtain ⟨_, _, _, _, _, _, ⟨_, rfl⟩ | ⟨_, _, rfl⟩⟩ := route_cases routed
    · rw [hasOwnFields_set, walked]
    · rw [hasOwnFields_set, hasOwnFields_set, walked]

/-- Replacing a value in the node of a field is an edit of the node around it. -/
theorem EditedAs.setIn {node child : Node} {outer : Field} (ownFields : node.hasOwnFields = true)
    (isChild : node.child? (.direct outer) = some child) (childFields : child.hasOwnFields = true) (field : Field)
    (value : Value) :
    node.EditedAs (· = ⟨[.direct outer], field, child.get? field, value⟩)
      (node.set outer (.node (child.set field value))) :=
  (EditedAs.put (nodup_fields ownFields) isChild (.set (nodup_fields childFields) field value)).congr fun edit => by
    simp [FieldEdit.below]

end Node

/-- The edits that exchange the names of a tag: the opening name becomes the property of the member of the
components object, and the name of the closing part, if there is one, the member with the name of the tag. -/
inductive Node.Renaming (element : Node) : FieldEdit → Prop
  | opening {part : Node} {name : Value} : element.get? .openingElement = some (.node part) →
    part.get? .name = some name →
      Renaming element ⟨[.direct .openingElement], .name, some name, .node (routedName name)⟩
  | closing {part : Node} {tag : Scalar} : element.get? .closingElement = some (.node part) →
    element.tag? = some tag →
      Renaming element ⟨[.direct .closingElement], .name, part.get? .name,
        .node (routedName (.node (.make .jsxIdentifier [(.name, .scalar tag)])))⟩

/-- The edits of the tags in a function. -/
def Node.RoutingEdit (function : Node) (place : Place) (edit : FieldEdit) : Prop :=
  ∃ position inner element exchange, function.reach? place position = some (inner, element) ∧
    element.isRouted = true ∧ element.Renaming exchange ∧ edit = exchange.below position

namespace Node

/-- The edits of the tags in a node are its own, if it is a tag, and those in the nodes behind its branches. -/
theorem routingEdit_iff {node : Node} {place : Place} {edit : FieldEdit} :
    node.RoutingEdit place edit ↔ (∃ branch field child inner,
      place.inField node.kind node.fields node.isRouted branch.field = some field ∧
        node.child? branch = some child ∧
      child.RoutingEdit (branch.place field) inner ∧ edit = inner.below [branch]) ∨
      (node.isRouted = true ∧ node.Renaming edit) := by
  constructor
  · rintro ⟨position, inner, element, exchange, reached, isRouted, renames, rfl⟩
    cases position with
    | nil =>
      cases reached
      exact .inr ⟨isRouted, renames⟩
    | cons branch rest =>
      obtain ⟨field, child, placed, isChild, reached⟩ := reach?_cons_eq_some.mp reached
      refine .inl ⟨branch, field, child, exchange.below rest, placed, isChild, ?_, ?_⟩
      · exact ⟨rest, inner, element, exchange, reached, isRouted, renames, rfl⟩
      · rw [FieldEdit.below_below, List.singleton_append]
  · rintro (⟨branch, field, child, _, placed, isChild, inChild, rfl⟩ | ⟨isRouted, renames⟩)
    · obtain ⟨rest, inner, element, exchange, reached, isRouted, renames, rfl⟩ := inChild
      refine ⟨branch :: rest, inner, element, exchange, ?_, isRouted, renames, ?_⟩
      · exact reach?_cons_eq_some.mpr ⟨field, child, placed, isChild, reached⟩
      · rw [FieldEdit.below_below, List.singleton_append]
    · exact ⟨[], place, node, edit, rfl, isRouted, renames, rfl⟩

theorem get?_of_child?_direct {node child : Node} {field : Field}
    (isChild : node.child? (.direct field) = some child) :
    node.get? field = some (.node child) := by
  obtain ⟨_, same, isNode⟩ | ⟨_, _, _, same, _⟩ := child?_cases isChild
  · cases same
    exact get?_of_lookup isNode
  · cases same

theorem child?_direct_of_get? {node child : Node} {field : Field} (ownFields : node.hasOwnFields = true)
    (own : field ∈ node.kind.fields) (isNode : node.get? field = some (.node child)) :
    node.child? (.direct field) = some child := by
  obtain ⟨value, isValue⟩ := exists_lookup ownFields field own
  cases (get?_of_lookup isValue).symm.trans isNode
  exact child?_eq_some.mpr ⟨_, isValue, rfl⟩

theorem renaming_iff {element opening : Node} {name : Value} {tag : Scalar} {edit : FieldEdit}
    (ownFields : element.hasOwnFields = true) (own : .closingElement ∈ element.kind.fields)
    (tagged : element.tag? = some tag) (isOpening : element.child? (.direct .openingElement) = some opening)
    (isName : opening.get? .name = some name) :
    element.Renaming edit ↔ edit = ⟨[.direct .openingElement], .name, some name, .node (routedName name)⟩ ∨
      ∃ part, element.child? (.direct .closingElement) = some part ∧
        edit = ⟨[.direct .closingElement], .name, part.get? .name,
          .node (routedName (.node (.make .jsxIdentifier [(.name, .scalar tag)])))⟩ := by
  constructor
  · intro renames
    cases renames with
    | opening isPart isPartName =>
      cases (get?_of_child?_direct isOpening).symm.trans isPart
      cases isName.symm.trans isPartName
      exact .inl rfl
    | closing isPart isTag =>
      cases tagged.symm.trans isTag
      exact .inr ⟨_, child?_direct_of_get? ownFields own isPart, rfl⟩
  · rintro (rfl | ⟨part, isPart, rfl⟩)
    · exact .opening (get?_of_child?_direct isOpening) isName
    · exact .closing (get?_of_child?_direct isPart) tagged

theorem editedAs_route {element opening after : Node} {name : Value} {tag : Scalar}
    (ownFields : element.hasOwnFields = true) (isOpening : element.child? (.direct .openingElement) = some opening)
    (openingFields : opening.hasOwnFields = true) (isName : opening.get? .name = some name)
    (closingFields : ∀ part, element.child? (.direct .closingElement) = some part → part.hasOwnFields = true)
    (own : .closingElement ∈ element.kind.fields) (routed : element.route (.scalar tag) = .ok after) :
    element.EditedAs (fun edit =>
      edit = ⟨[.direct .openingElement], .name, some name, .node (routedName name)⟩ ∨
      ∃ part, element.child? (.direct .closingElement) = some part ∧
        edit = ⟨[.direct .closingElement], .name, part.get? .name,
          .node (routedName (.node (.make .jsxIdentifier [(.name, .scalar tag)])))⟩) after := by
  obtain ⟨part, partName, closing, isPart, isPartName, isClosing, outcome⟩ := route_cases routed
  cases (get?_of_child?_direct isOpening).symm.trans isPart
  cases isName.symm.trans isPartName
  have first := EditedAs.setIn ownFields isOpening openingFields .name (.node (routedName name))
  rw [isName] at first
  obtain ⟨rfl, rfl⟩ | ⟨closing, rfl, rfl⟩ := outcome
  · refine first.congr fun edit => (or_iff_left ?_).symm
    rintro ⟨part, isPart, _⟩
    cases (get?_of_child?_direct isPart).symm.trans isClosing
  · have isPart : element.child? (.direct .closingElement) = some closing :=
      child?_direct_of_get? ownFields own isClosing
    have still : (element.set .openingElement (.node (opening.set .name (.node (routedName name))))).child?
        (.direct .closingElement) = some closing := by
      obtain ⟨value, isValue, leads⟩ := child?_eq_some.mp isPart
      exact child?_eq_some.mpr ⟨value, by rwa [lookup_set_of_ne _ _ (by decide)], leads⟩
    refine (first.trans (.setIn (by rwa [hasOwnFields_set]) still (closingFields closing isPart) .name _)).congr
      fun edit => or_congr_right ?_
    simp [isPart]

/-- The closing part of a tag keeps its name until the tag is routed. -/
theorem child?_closing {node : Node} {place : Place} {fields : List (Field × Value)}
    (ownFields : node.hasOwnFields = true) (isRouted : node.isRouted = true)
    (relate : FieldsRelate (fun place before after => before.transform routing place = .ok after)
      (place.inField node.kind node.fields node.isRouted) node.fields fields) :
    Option.Rel (fun part other => other.get? .name = part.get? .name ∧ other.hasOwnFields = part.hasOwnFields)
      (node.child? (.direct .closingElement))
      ((mk node.kind fields node.extra node.attached).child? (.direct .closingElement)) := by
  have isElement := kind_of_isRouted isRouted
  obtain ⟨value, isValue⟩ := exists_lookup ownFields .closingElement (by rw [isElement]; decide)
  obtain ⟨other, isOther, values⟩ := relate.lookup isValue
  rw [isRouted, isElement, Place.inField_part place _ (.inr rfl)] at values
  unfold child?
  rw [show (Branch.direct .closingElement).field = .closingElement from rfl, isValue,
    show (mk ..).fields.lookup .closingElement = some other from isOther]
  cases values with
  | node ran => exact .some ⟨get?_name_routing ran, hasOwnFields_routing ran⟩
  | list | scalar | object => exact .none

/-- The function with routed tags is the function with just the edits of its tags. -/
theorem editedAs_routing {node after : Node} {place : Place} (regular : node.isRegular = true)
    (run : node.transform routing place = .ok after) : node.EditedAs (node.RoutingEdit place) after := by
  induction node using induction_children generalizing place after with
  | step node ih =>
    have ownFields := check_of_all regular
    obtain ⟨fields, ran, outcome⟩ := routing_cases run
    rw [transformFields_eq] at ran
    have relate := visitFields_relate ran
    have walked := editedAs_children ownFields (relate.imp fun child member place after ran =>
      ih child member (all_of_mem_children regular member) ran)
    obtain ⟨notRouted, rfl⟩ | ⟨tag, isRouted, tagged, routed⟩ := outcome
    · exact walked.congr fun edit => by rw [routingEdit_iff, notRouted, or_iff_left (by simp)]
    · obtain ⟨opening, name, isOpening, isName⟩ := elementName?_of_tag? tagged
      have isElement := kind_of_isRouted isRouted
      have isPart : node.child? (.direct .openingElement) = some opening :=
        child?_direct_of_get? ownFields (by rw [isElement]; decide) isOpening
      have own : .closingElement ∈ node.kind.fields := by
        rw [isElement]
        decide
      have childFields {branch : Branch} {child : Node} (isChild : node.child? branch = some child) :
          child.hasOwnFields = true := check_of_all (all_of_mem_children regular (mem_children_of_child? isChild))
      have walkedFields : (mk node.kind fields node.extra node.attached).hasOwnFields = true :=
        (congrArg (· == node.kind.fields) relate.names).trans ownFields
      have placed : place.inField node.kind node.fields node.isRouted .openingElement = some .routedPart := by
        rw [isRouted, isElement, Place.inField_part place _ (.inl rfl)]
      obtain ⟨part, isWalked, ranPart⟩ := relate.child isPart placed
      have closings := child?_closing ownFields isRouted relate
      have closingFields (part : Node)
          (isClosing : (mk node.kind fields node.extra node.attached).child?
            (.direct .closingElement) = some part) :
          part.hasOwnFields = true := by
        rw [isClosing] at closings
        generalize isOld : node.child? (.direct .closingElement) = old at closings
        cases closings with
        | some same => exact same.2.trans (childFields isOld)
      -- The names are exchanged in what the walk has left, so its edits come first.
      have exchanges :=
        editedAs_route walkedFields isWalked ((hasOwnFields_routing ranPart).trans (childFields isPart))
        ((get?_name_routing ranPart).trans isName) closingFields own routed
      refine (walked.trans exchanges).congr fun edit => ?_
      rw [routingEdit_iff, renaming_iff ownFields own tagged isPart isName, and_iff_right isRouted]
      refine or_congr_right (or_congr_right ?_)
      generalize node.child? (.direct .closingElement) = closing at closings ⊢
      generalize (mk node.kind fields node.extra node.attached).child? (.direct .closingElement) =
        other at closings ⊢
      cases closings with
      | none => simp
      | some same => simp [same.1]

end Node

/-- A block that is the body of a routed function has the fields of its kind. -/
theorem Node.hasOwnFields_body {function inner block : Node} (regular : function.isRegular = true)
    (isFunction : function.isFunction = true) (ran : function.transform routing .plain = .ok inner)
    (isBody : inner.get? .body = some (.node block)) : block.hasOwnFields = true := by
  have routes : function.RoutesTo inner := .inr ⟨.plain, ran⟩
  have bodies := routes.get? (isRouted_of_isFunction isFunction) .body
  rw [isBody] at bodies
  generalize isOld : function.get? .body = old at bodies
  cases bodies with
  | @some value _ routesBody =>
    cases value with
    | node child =>
      obtain ⟨_, same, routesChild⟩ := routesBody.node
      cases same
      have isChild := child?_direct_of_get? (check_of_all regular) (Kind.fields_of_isFunction isFunction).1 isOld
      have childFields := check_of_all (all_of_mem_children regular (mem_children_of_child? isChild))
      obtain rfl | ⟨_, ranChild⟩ := routesChild
      · exact childFields
      · exact (hasOwnFields_routing ranChild).trans childFields
    | list items =>
      obtain ⟨_, same, _⟩ := routesBody.list
      cases same
    | scalar | object =>
      cases routesBody.eq_of_data rfl

/-- Reading the props changes the parameters of a function or nothing. -/
theorem PropsReading.From.eq_set {function : Node} {reading : PropsReading} (read : reading.From function) :
    reading.function = function ∨ ∃ params, reading.function = function.set .params params := by
  cases read with
  | kept => exact .inl rfl
  | added | within | whole => exact .inr ⟨_, rfl⟩

theorem PropsReading.From.editedAs {function : Node} {reading : PropsReading} (read : reading.From function)
    (ownFields : function.hasOwnFields = true) :
    function.EditedAs (fun edit => ∃ params, reading.function.get? .params = some params ∧
      function.get? .params ≠ some params ∧ edit = ⟨[], .params, function.get? .params, params⟩)
        reading.function := by
  have unchanged (same : reading.function = function) : function.EditedAs (fun edit => ∃ params,
      reading.function.get? .params = some params ∧ function.get? .params ≠ some params ∧
      edit = ⟨[], .params, function.get? .params, params⟩) reading.function := by
    rw [same]
    refine (Node.EditedAs.refl function).congr fun edit => iff_of_false not_false ?_
    rintro ⟨params, isParams, differs, _⟩
    exact differs isParams
  obtain same | ⟨params, changed⟩ := read.eq_set
  · exact unchanged same
  · by_cases there : function.get? .params = some params
    · exact unchanged (changed.trans (Node.set_of_get? (Node.nodup_fields ownFields) there))
    · rw [changed]
      refine (Node.EditedAs.set (Node.nodup_fields ownFields) .params params).congr fun edit => ?_
      simp [there]

/-- The edits by which statements come in front of the body of a function. A body that is no block becomes a block
that returns it, and an arrow function is then no longer an expression. -/
inductive Node.BodyEdit (function : Node) (front : List Node) : FieldEdit → Prop
  | statements {block : Node} {items : List Value} : function.get? .body = some (.node block) →
      block.kind = .blockStatement → block.get? .body = some (.list items) →
      BodyEdit function front ⟨[.direct .body], .body, some (.list items), .list (front.map .node ++ items)⟩
  | returned {body : Value} : function.get? .body = some body → body.nodeOf? .blockStatement = none →
      BodyEdit function front
        ⟨[], .body, some body, .node (.block (front.map .node ++ [.node (.returnStatement body)]))⟩
  | flag {body : Value} : function.get? .body = some body → body.nodeOf? .blockStatement = none →
      function.kind = .arrowFunctionExpression →
      BodyEdit function front ⟨[], .expression, function.get? .expression, .bool false⟩

namespace Node

/-- Putting statements in front of the body of a function is one edit, or two for an arrow function with no
block. -/
theorem editedAs_prependToBody {function after : Node} {front : List Node}
    (ownFields : function.hasOwnFields = true)
    (isFunction : function.isFunction = true)
    (blockFields : ∀ block, function.get? .body = some (.node block) → block.hasOwnFields = true)
    (prepended : function.prependToBody front = .ok after) : function.EditedAs (function.BodyEdit front) after := by
  obtain ⟨block, items, isBody, isBlock, isItems, rfl⟩ | ⟨body, isBody, noBlock, rfl⟩ :=
    prependToBody_cases prepended
  · have isChild := child?_direct_of_get? ownFields (Kind.fields_of_isFunction isFunction).1 isBody
    refine (EditedAs.setIn ownFields isChild (blockFields block isBody) .body _).congr fun edit => ⟨?_, ?_⟩
    · rintro rfl
      rw [isItems]
      exact .statements isBody isBlock isItems
    · intro isEdit
      cases isEdit with
      | statements isOther _ isOtherItems =>
        cases isBody.symm.trans isOther
        cases isItems.symm.trans isOtherItems
        rw [isItems]
      | returned isOther noBlock | flag isOther noBlock _ =>
        cases isBody.symm.trans isOther
        rw [Value.nodeOf?_node isBlock] at noBlock
        cases noBlock
  · have wrapped := EditedAs.set (nodup_fields ownFields) .body
      (.node (block (front.map .node ++ [.node (returnStatement body)])))
    rw [isBody] at wrapped
    have onlyBody {edit : FieldEdit} (isEdit : function.BodyEdit front edit) :
        edit = ⟨[], .body, some body, .node (block (front.map .node ++ [.node (returnStatement body)]))⟩ ∨
          function.kind = .arrowFunctionExpression ∧
            edit = ⟨[], .expression, function.get? .expression, .bool false⟩ := by
      cases isEdit with
      | statements isOther isBlock _ =>
        cases isBody.symm.trans isOther
        rw [Value.nodeOf?_node isBlock] at noBlock
        cases noBlock
      | returned isOther _ =>
        cases isBody.symm.trans isOther
        exact .inl rfl
      | flag _ _ isArrow => exact .inr ⟨isArrow, rfl⟩
    unfold blocked
    dsimp only
    split
    · rename_i isArrow
      have isArrow : function.kind = .arrowFunctionExpression := beq_iff_eq.mp isArrow
      -- The body is replaced before the flag, which has its old value until then.
      have flagged (value : Value) : (function.set .body value).EditedAs
          (· = ⟨[], .expression, function.get? .expression, .bool false⟩)
          ((function.set .body value).set .expression (.bool false)) := by
        rw [← get?_set_of_ne function value (show Field.expression ≠ .body by decide)]
        exact .set (nodup_fields ((hasOwnFields_set function .body value).trans ownFields)) .expression _
      refine (wrapped.trans (flagged _)).congr fun edit => ⟨?_, fun isEdit => (onlyBody isEdit).imp_right And.right⟩
      rintro (rfl | rfl)
      · exact .returned isBody noBlock
      · exact .flag isBody noBlock isArrow
    · rename_i noArrow
      refine wrapped.congr fun edit => ⟨?_, fun isEdit => (onlyBody isEdit).resolve_right ?_⟩
      · rintro rfl
        exact .returned isBody noBlock
      · rintro ⟨isArrow, _⟩
        exact noArrow (beq_iff_eq.mpr isArrow)

end Node

/-- The edits of an outermost function in which something is found: those of its tags, of its parameters if the
pattern of the first one makes way for the props, and of its body. -/
inductive Pass.FunctionEdit (pass : Pass) (place : Place) (function : Node) : FieldEdit → Prop
  | routing {edit : FieldEdit} : function.RoutingEdit .plain edit → FunctionEdit pass place function edit
  | params {inner : Node} {prepared : Prepared} {params : Value} : function.transform routing .plain = .ok inner →
      inner.prepare (function.isEntryPoint place) = .ok prepared → prepared.function.get? .params = some params →
      inner.get? .params ≠ some params →
      FunctionEdit pass place function ⟨[], .params, inner.get? .params, params⟩
  | body {inner : Node} {prepared : Prepared} {edit : FieldEdit} : function.transform routing .plain = .ok inner →
      inner.prepare (function.isEntryPoint place) = .ok prepared →
      prepared.function.BodyEdit (prepared.prelude ++
        (Findings.within pass.topScope function).declarations pass.options.usesProvider prepared.props) edit →
      FunctionEdit pass place function edit

namespace Pass

/-- Declaring a function is just its edits if something is found in it, and none if nothing is. -/
theorem editedAs_declare {pass : Pass} {place : Place} {function changed : Node}
    (regular : function.isRegular = true)
    (isFunction : function.isFunction = true) (declared : pass.declare place function = .ok changed) :
    function.EditedAs (fun edit => (Findings.within pass.topScope function).isEmpty = false ∧
      pass.FunctionEdit place function edit) changed := by
  obtain ⟨nothing, rfl⟩ | ⟨something, inner, prepared, ran, ready, prepended⟩ := declare_cases declared
  · exact (Node.EditedAs.refl _).congr fun edit => by simp [nothing]
  · obtain ⟨props, read⟩ := Node.prepare_from ready
    have ownFields := Node.check_of_all regular
    have innerFields := (Node.hasOwnFields_routing ran).trans ownFields
    have changedParams := read.editedAs innerFields
    have preparedFields : prepared.function.hasOwnFields = true := by
      obtain same | ⟨params, same⟩ := read.eq_set
      · rwa [show prepared.function = inner from same]
      · rwa [show prepared.function = inner.set .params params from same, Node.hasOwnFields_set]
    have isStill : prepared.function.isFunction = true := by
      rw [Node.isFunction, read.kind, Node.kind_routing ran]
      exact isFunction
    have blockFields (block : Node) (isBody : prepared.function.get? .body = some (.node block)) :
        block.hasOwnFields = true := by
      rw [read.get?_of_ne (show Field.body ≠ .params by decide)] at isBody
      exact Node.hasOwnFields_body regular isFunction ran isBody
    have prepends := Node.editedAs_prependToBody preparedFields isStill blockFields prepended
    refine (((Node.editedAs_routing regular ran).trans changedParams).trans prepends).congr fun edit => ⟨?_, ?_⟩
    · rintro ((isEdit | ⟨params, isParams, differs, rfl⟩) | isEdit)
      · exact ⟨something, .routing isEdit⟩
      · exact ⟨something, .params ran ready isParams differs⟩
      · exact ⟨something, .body ran ready isEdit⟩
    · rintro ⟨_, isEdit⟩
      cases isEdit with
      | routing isEdit => exact .inl (.inl isEdit)
      | params ranOther readyOther isParams differs =>
        cases ran.symm.trans ranOther
        cases ready.symm.trans readyOther
        exact .inl (.inr ⟨_, isParams, differs, rfl⟩)
      | body ranOther readyOther isEdit =>
        cases ran.symm.trans ranOther
        cases ready.symm.trans readyOther
        exact .inr isEdit

end Pass

/-- The edits of the functions that stand in no other function. -/
def Node.OutermostEdit (edits : Place → Node → FieldEdit → Prop) (node : Node) (place : Place) (edit : FieldEdit) :
    Prop :=
  ∃ position inner function exchange, node.outermostAt? place position = some (inner, function) ∧
    edits inner function exchange ∧ edit = exchange.below position

namespace Node

variable {edits : Place → Node → FieldEdit → Prop}

theorem outermostEdit_of_function {node : Node} {place : Place} {edit : FieldEdit}
    (isFunction : node.isFunction = true) :
    node.OutermostEdit edits place edit ↔ edits place node edit := by
  constructor
  · rintro ⟨position, inner, function, exchange, found, isEdit, rfl⟩
    cases position with
    | nil =>
      rw [outermostAt?, if_pos isFunction] at found
      cases found
      exact isEdit
    | cons branch rest =>
      rw [outermostAt?, if_pos isFunction] at found
      cases found
  · intro isEdit
    exact ⟨[], place, node, edit, by rw [outermostAt?, if_pos isFunction], isEdit, rfl⟩

theorem outermostEdit_of_not_function {node : Node} {place : Place} {edit : FieldEdit}
    (noFunction : ¬ node.isFunction = true) :
    node.OutermostEdit edits place edit ↔ ∃ branch field child inner,
      place.inField node.kind node.fields false branch.field = some field ∧ node.child? branch = some child ∧
      child.OutermostEdit edits (branch.place field) inner ∧ edit = inner.below [branch] := by
  constructor
  · rintro ⟨position, inner, function, exchange, found, isEdit, rfl⟩
    cases position with
    | nil =>
      rw [outermostAt?, if_neg noFunction] at found
      cases found
    | cons branch rest =>
      rw [outermostAt?, if_neg noFunction] at found
      split at found
      · rename_i field child placed isChild
        refine ⟨branch, field, child, exchange.below rest, placed, isChild, ?_, ?_⟩
        · exact ⟨rest, inner, function, exchange, found, isEdit, rfl⟩
        · rw [FieldEdit.below_below, List.singleton_append]
      · cases found
  · rintro ⟨branch, field, child, _, placed, isChild, ⟨rest, inner, function, exchange, found, isEdit, rfl⟩, rfl⟩
    refine ⟨branch :: rest, inner, function, exchange, ?_, isEdit, ?_⟩
    · rw [outermostAt?, if_neg noFunction, placed, isChild]
      exact found
    · rw [FieldEdit.below_below, List.singleton_append]

/-- If the change of every function is just its edits, so is the change of all outermost functions of a tree. -/
theorem editedAs_mapOutermost {change : Place → Node → Except Error Node} {node after : Node} {place : Place}
    (changes : ∀ place function changed, function.isRegular = true → function.isFunction = true →
      change place function = .ok changed → function.EditedAs (edits place function) changed)
    (regular : node.isRegular = true) (mapped : node.mapOutermost change place = .ok after) :
    node.EditedAs (node.OutermostEdit edits place) after := by
  induction node using induction_children generalizing place after with
  | step node ih =>
    by_cases isFunction : node.isFunction = true
    · rw [mapOutermost_of_function isFunction] at mapped
      exact (changes place node after regular isFunction mapped).congr fun edit =>
        (outermostEdit_of_function isFunction).symm
    · rw [mapOutermost_of_not_function isFunction] at mapped
      obtain ⟨fields, mappedFields, rfl⟩ := map_eq_ok_iff.mp mapped
      rw [mapOutermostInFields_eq] at mappedFields
      refine (editedAs_children (check_of_all regular) ((visitFields_relate mappedFields).imp
        fun child member place after mappedChild =>
          ih child member (all_of_mem_children regular member) mappedChild)).congr fun edit => ?_
      exact (outermostEdit_of_not_function isFunction).symm

theorem hasOwnFields_mapOutermost {change : Place → Node → Except Error Node} {node after : Node} {place : Place}
    (noFunction : ¬ node.isFunction = true) (mapped : node.mapOutermost change place = .ok after) :
    after.hasOwnFields = node.hasOwnFields := by
  rw [mapOutermost_of_not_function noFunction] at mapped
  obtain ⟨fields, mappedFields, rfl⟩ := map_eq_ok_iff.mp mapped
  rw [mapOutermostInFields_eq] at mappedFields
  exact congrArg (· == node.kind.fields) (visitFields_relate mappedFields).names

end Node

/-- A routed program is the program with just these edits: those of its outermost functions in which something is
found, and, if they need any, the provider and the helper in front of its statements. Functions in which nothing is
found are left as they are. -/
theorem routeProgram_editedAs {options : Options} {known : Option NameSet} {tree : Node} {routed : Routed}
    (program : tree.kind = .program) (regular : tree.isRegular = true)
    (run : routeProgram options known tree = .ok routed) :
    ∃ topScope provider helper rest, tree.knownNames known = .ok topScope ∧
      ((∃ binding, providerBinding options.source options.format = .ok binding ∧ provider = [binding]) ∨
        provider = []) ∧
      (helper = [missingComponentFunction] ∨ helper = []) ∧
      mapOutermostInItems (Pass.declare ⟨options, topScope⟩) tree.statements = .ok rest ∧
      tree.EditedAs (fun edit =>
        tree.OutermostEdit (fun place function edit => (Findings.within topScope function).isEmpty = false ∧
          Pass.FunctionEdit ⟨options, topScope⟩ place function edit) .plain edit ∨
        provider ++ helper ≠ [] ∧
          edit = ⟨[], .body, some (.list rest), .list ((provider ++ helper).map .node ++ rest)⟩) routed.tree ∧
      ∀ position place function, tree.outermostAt? .plain position = some (place, function) →
        (Findings.within topScope function).isEmpty = true →
        routed.tree.at? (Position.behind (routed.frontCount tree) position) = some function := by
  obtain ⟨topScope, isScope, outermost⟩ := routeProgram_outermost program run
  rw [routeProgram_eq, isScope] at run
  obtain ⟨walked, helper, provider, mapped, prepended, isHelper, isProvider⟩ := Pass.run_eq_ok run
  obtain ⟨helperCases, providerCases, inOrder⟩ := Pass.front_cases isHelper isProvider
  have functions := Node.editedAs_mapOutermost (fun place function changed regular isFunction declared =>
    Pass.editedAs_declare regular isFunction declared) regular mapped
  have changedStatements := Node.statements_mapOutermost program regular mapped
  refine ⟨topScope, provider, helper, walked.statements, isScope, providerCases.imp And.left And.left,
    helperCases.imp And.left And.left, changedStatements, ?_, fun position place function found nothing => ?_⟩
  · have walkedFields : walked.hasOwnFields = true :=
      (Node.hasOwnFields_mapOutermost (Node.not_isFunction_of_program program) mapped).trans
        (Node.check_of_all regular)
    obtain ⟨none, same⟩ | ⟨some, items, isBody, changed⟩ := Node.prependStatements_eq prepended
    · rw [same]
      refine functions.congr fun edit => (or_iff_left fun front => front.1 ?_).symm
      rw [← inOrder, none, List.reverse_nil]
    · rw [inOrder] at changed
      have areStatements : walked.statements = items := by simp only [Node.statements, isBody]
      have inFront := Node.EditedAs.set (Node.nodup_fields walkedFields) .body
        (.list ((provider ++ helper).map .node ++ items))
      rw [isBody, ← changed] at inFront
      rw [areStatements]
      refine (functions.trans inFront).congr fun edit => or_congr_right (and_iff_right fun none => some ?_).symm
      rw [← List.reverse_eq_nil_iff, inOrder, none]
  · obtain ⟨changed, declared, there⟩ := outermost position place function found
    obtain ⟨_, rfl⟩ | ⟨something, _⟩ := Pass.declare_cases declared
    · exact there
    · cases nothing.symm.trans something

/-- In `function F() { return <b />; }` the opening name is exchanged, and undoing all edits gives the old one
back. -/
theorem routeProgram_editedAs_bold :
    let name := Value.node (.jsxName "b")
    let page := Node.programOf [.functionNamed "F" [] [.returnStatement (.node (.emptyElement (.jsxName "b")))]]
    let exchange : FieldEdit := ⟨[.item .body 0, .direct .body, .item .body 0, .direct .argument,
      .direct .openingElement], .name, some name, .node (routedName name)⟩
    page.kind = .program ∧ page.isRegular = true ∧ ∃ routed, routeProgram {} none page = .ok routed ∧
      ∃ log : List FieldEdit, exchange ∈ log ∧ log.foldl (fun tree edit => edit.apply tree) page = routed.tree ∧
        log.foldr (fun edit tree => edit.undo tree) routed.tree = page := by
  intro name page exchange
  have program : page.kind = .program := rfl
  have regular : page.isRegular = true := rfl
  obtain ⟨routed, run⟩ : ∃ routed, routeProgram {} none page = .ok routed := ⟨_, rfl⟩
  refine ⟨program, regular, routed, run, ?_⟩
  obtain ⟨topScope, _, _, _, isScope, _, _, _, ⟨log, edited, just⟩, _⟩ := routeProgram_editedAs program regular run
  cases isScope
  have renames : (Node.emptyElement (.jsxName "b")).Renaming ⟨[.direct .openingElement], .name, some name,
      .node (routedName name)⟩ := .opening rfl rfl
  have isEdit : Node.RoutingEdit (.functionNamed "F" [] [.returnStatement (.node (.emptyElement (.jsxName "b")))])
      .plain ⟨[.direct .body, .item .body 0, .direct .argument, .direct .openingElement], .name, some name,
        .node (routedName name)⟩ :=
    ⟨[.direct .body, .item .body 0, .direct .argument], .plain, _, _, rfl, rfl, renames, rfl⟩
  refine ⟨log, (just exchange).mpr (.inl ?_), edited.1, edited.2⟩
  exact ⟨[.item .body 0], .plain, _, _, rfl, ⟨rfl, .routing isEdit⟩, rfl⟩

end JsxRouting
