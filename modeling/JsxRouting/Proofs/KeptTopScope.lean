import JsxRouting.Proofs.LocalNames
import JsxRouting.Proofs.RootStatements

namespace JsxRouting

/-- If the body of a function is no block, it declares nothing. -/
def Node.DeclaresInBlock (function : Node) : Prop :=
  ∀ body, function.get? .body = some body → body.nodeOf? .blockStatement = none →
    body.declaredAs .statement false = .ok []

/-- A function in which something is found declares nothing but in a block. -/
def Node.KeepsToBlock (topScope : NameSet) (node : Node) : Prop :=
  node.isFunction = true → (Findings.within topScope node).isEmpty = false → node.DeclaresInBlock

section Body

/-- Constants stay in the block in which they are declared. -/
theorem declaredAs_constDeclaration (target init : Value) :
    (Value.node (.constDeclaration target init)).declaredAs .statement false = .ok [] := by
  rw [Node.constDeclaration_eq, Value.declaredAs.eq_def]
  rfl

theorem declaredInItems_constants {front : List Node}
    (constants : ∀ statement ∈ front, ∃ target init, statement = .constDeclaration target init)
    (items : List Value) :
    declaredInItems .statement false (front.map .node ++ items) = declaredInItems .statement false items := by
  induction front with
  | nil => rfl
  | cons statement rest ih =>
    obtain ⟨target, init, rfl⟩ := constants statement List.mem_cons_self
    have behind := ih fun other member => constants other (List.mem_cons_of_mem _ member)
    rw [List.map_cons, List.cons_append, declaredInItems, declaredAs_constDeclaration, behind]
    cases declaredInItems .statement false items <;> rfl

theorem declaredAs_block {block : Node} (isBlock : block.kind = .blockStatement) (top : Bool) :
    (Value.node block).declaredAs .statement top =
      namesAt (.declaring .statements false) (block.fields.lookup .body) := by
  obtain ⟨kind, fields, extra, attached⟩ := block
  cases isBlock
  rw [Value.declaredAs.eq_def]
  exact declaredInParts_single false .body .statements fields

namespace Node

variable {function after : Node}

/-- The parameters are no names of the function. -/
theorem keepsNames_set_params (isFunction : function.isFunction = true) (params : Value) :
    (Value.node function).KeepsNames True (.node (function.set .params params)) := by
  refine keepsNames_of_agree (.inl isFunction) (kind_set _ _ _) (lookup_set_of_ne _ _ (by decide))
    (fun field member => get?_set_of_ne _ _ ?_) fun _ names named => ?_
  · rintro rfl
    simp at member
  · rwa [get?_set_of_ne _ _ (by decide)]

theorem keepsNames_reading {reading : PropsReading} (isFunction : function.isFunction = true)
    (read : reading.From function) : (Value.node function).KeepsNames True (.node reading.function) := by
  cases read with
  | kept => exact .refl _ _
  | added | within | whole => exact keepsNames_set_params isFunction _

theorem kind_prependToBody {front : List Node} (prepended : function.prependToBody front = .ok after) :
    after.kind = function.kind := by
  obtain ⟨_, _, _, _, _, rfl⟩ | ⟨_, _, _, rfl⟩ := prependToBody_cases prepended
  · exact kind_set _ _ _
  · unfold blocked
    dsimp only
    split
    · rw [kind_set, kind_set]
    · exact kind_set _ _ _

theorem lookup_prependToBody {front : List Node}
    (prepended : function.prependToBody front = .ok after) {field : Field}
    (noBody : field ≠ .body) (noExpression : field ≠ .expression) :
    after.fields.lookup field = function.fields.lookup field := by
  obtain ⟨_, _, _, _, _, rfl⟩ | ⟨_, _, _, rfl⟩ := prependToBody_cases prepended
  · exact lookup_set_of_ne function _ noBody
  · unfold blocked
    dsimp only
    split
    · rw [lookup_set_of_ne _ _ noExpression, lookup_set_of_ne _ _ noBody]
    · exact lookup_set_of_ne function _ noBody

/-- Constants in front of the body declare nothing outside. -/
theorem keepsNames_prependToBody {front : List Node} (isFunction : function.isFunction = true)
    (constants : ∀ statement ∈ front, ∃ target init, statement = .constDeclaration target init)
    (prepended : function.prependToBody front = .ok after) :
    (Value.node function).KeepsNames function.DeclaresInBlock (.node after) := by
  refine keepsNames_of_agree (.inl isFunction) (kind_prependToBody prepended)
    (lookup_prependToBody prepended (by decide) (by decide))
    (fun field member => get?_prependToBody prepended ?_ ?_) fun inBlock names named => ?_
  · rintro rfl
    simp at member
  · rintro rfl
    simp at member
  obtain ⟨block, items, isBody, isBlock, isItems, rfl⟩ | ⟨body, isBody, noBlock, rfl⟩ :=
    prependToBody_cases prepended
  · have changedBlock : (block.set .body (.list (front.map .node ++ items))).kind = .blockStatement := by
      rw [kind_set, isBlock]
    rw [isBody, namesAt, Value.namesIn, declaredAs_block isBlock] at named
    rw [get?_set_self, namesAt, Value.namesIn, declaredAs_block changedBlock]
    cases there : block.fields.lookup .body with
    | none =>
      rw [there] at named
      cases named
    | some value =>
      obtain rfl : value = .list items := Option.some.inj ((get?_of_lookup there).symm.trans isItems)
      rw [there] at named
      rw [lookup_set_self _ there]
      exact (declaredInItems_constants constants items).trans named
  · have nothing := inBlock body isBody noBlock
    rw [isBody, namesAt, Value.namesIn, nothing] at named
    rw [get?_body_blocked, namesAt, Value.namesIn, declaredAs_block rfl]
    exact (declaredInItems_constants constants [.node (returnStatement body)]).trans named

/-- What a function without a block declares is nothing after it was routed if it was nothing before. -/
theorem declaresInBlock_routing (isFunction : function.isFunction = true)
    (run : function.transform routing .plain = .ok after) (inBlock : function.DeclaresInBlock) :
    after.DeclaresInBlock := by
  intro other isOther noBlock
  have bodies := (show function.RoutesTo after from .inr ⟨.plain, run⟩).get?
    (isRouted_of_isFunction isFunction) .body
  rw [isOther] at bodies
  cases isBody : function.get? .body with
  | none =>
    rw [isBody] at bodies
    cases bodies
  | some body =>
    have routes : body.RoutesTo other := by
      rw [isBody] at bodies
      cases bodies
      assumption
    have noBlockBefore : body.nodeOf? .blockStatement = none := by
      have blocks := routes.isBlock
      rw [noBlock] at blocks
      cases there : body.nodeOf? .blockStatement with
      | none => rfl
      | some block =>
        rw [there] at blocks
        cases blocks
    have declares : (Value.node function).namesIn (.declaring .handler false) = .ok [] := by
      rw [Value.namesIn, declaredAs_handler, isBody]
      exact inBlock body isBody noBlockBefore
    have kept := keepsNames_routing function run (.declaring .handler false) (.inr trivial) []
      (List.forall_mem_nil _) declares
    rwa [Value.namesIn, declaredAs_handler, isOther] at kept

end Node

end Body

namespace Pass

/-- The statements that a function is given are constants. -/
theorem eq_constDeclaration_of_mem {findings : Findings} {function : Node} {isEntryPoint usesProvider : Bool}
    {prepared : Prepared} (ready : function.prepare isEntryPoint = .ok prepared) {statement : Node}
    (member : statement ∈ prepared.prelude ++ findings.declarations usesProvider prepared.props) :
    ∃ target init, statement = .constDeclaration target init := by
  obtain inPrelude | inDeclarations := List.mem_append.mp member
  · obtain ⟨props, read⟩ := Node.prepare_from ready
    obtain ⟨pattern, rfl⟩ := read.propsPrelude_of_mem inPrelude
    exact ⟨_, _, rfl⟩
  · unfold Findings.declarations at inDeclarations
    obtain rfl | inDeclarations := List.mem_cons.mp inDeclarations
    · exact ⟨_, _, rfl⟩
    · split at inDeclarations
      · cases inDeclarations
      · exact ⟨_, _, List.mem_singleton.mp inDeclarations⟩

/-- A function answers as before after the pass was over it, as the handler of a try statement too if it keeps to
its block. -/
theorem keepsNames_declare {pass : Pass} {place : Place} {function changed : Node}
    (isFunction : function.isFunction = true) (declared : pass.declare place function = .ok changed) :
    (Value.node function).KeepsNames (function.KeepsToBlock pass.topScope) (.node changed) := by
  obtain ⟨_, rfl⟩ | ⟨something, inner, prepared, ran, ready, prepended⟩ := declare_cases declared
  · exact .refl _ _
  obtain ⟨props, read⟩ := Node.prepare_from ready
  have isInner : inner.isFunction = true := by rwa [Node.isFunction, Node.kind_routing ran]
  have isPrepared : prepared.function.isFunction = true := by rwa [Node.isFunction, read.kind]
  have routes := Node.keepsNames_routing function ran
  have reads := Node.keepsNames_reading isInner read
  have prepends := Node.keepsNames_prependToBody isPrepared (fun _ => eq_constDeclaration_of_mem ready) prepended
  refine ((routes.trans reads).mono fun _ => trivial).trans (prepends.mono fun inBlock => ?_)
  have after := Node.declaresInBlock_routing isFunction ran (inBlock isFunction something)
  intro body isBody
  rw [read.get?_of_ne (by decide)] at isBody
  exact after body isBody

end Pass

namespace Node

/-- The functions that stand as handlers of try statements, and in no other function, keep to their blocks. -/
def HandlersKeepToBlock (topScope : NameSet) (place : Place) (node : Node) : Prop :=
  ∀ position inner function, node.outermostAt? place (position ++ [.direct .handler]) = some (inner, function) →
    function.KeepsToBlock topScope

theorem HandlersKeepToBlock.below {topScope : NameSet} {place fieldPlace : Place} {node child : Node}
    {branch : Branch}
    (handlers : node.HandlersKeepToBlock topScope place) (noFunction : ¬ node.isFunction = true)
    (isPlace : place.inField node.kind node.fields false branch.field = some fieldPlace)
    (isChild : node.child? branch = some child) :
    child.HandlersKeepToBlock topScope (branch.place fieldPlace) := by
  intro position inner function found
  refine handlers (branch :: position) inner function ?_
  rw [List.cons_append, outermostAt?, if_neg noFunction, isPlace, isChild]
  exact found

theorem HandlersKeepToBlock.here {topScope : NameSet} {place : Place} {node child : Node}
    (handlers : node.HandlersKeepToBlock topScope place) (noFunction : ¬ node.isFunction = true)
    (there : node.fields.lookup .handler = some (.node child)) : child.KeepsToBlock topScope := by
  intro isFunction
  refine handlers [] .plain child ?_ isFunction
  have isPlace : place.inField node.kind node.fields false .handler = some .plain := by simp [Place.inField]
  have isChild : node.child? (.direct .handler) = some child := child?_eq_some.mpr ⟨.node child, there, rfl⟩
  rw [List.nil_append, outermostAt?, if_neg noFunction]
  simp only [Branch.field, isPlace, isChild, outermostAt?, isFunction, if_true]
  rfl

/-- The fields of a node that is no function are related by the pass over the functions in them. -/
theorem exists_relate_mapOutermost {pass : Pass} {node after : Node} {place : Place}
    (regular : node.isRegular = true)
    (noFunction : ¬ node.isFunction = true) (handlers : node.HandlersKeepToBlock pass.topScope place)
    (below : ∀ child ∈ node.children, ∀ inner other, child.isRegular = true →
      child.HandlersKeepToBlock pass.topScope inner → child.mapOutermost pass.declare inner = .ok other →
      Node.KeepsNames (KeepsToBlock pass.topScope) inner child other)
    (mapped : node.mapOutermost pass.declare place = .ok after) :
    ∃ others, after = .mk node.kind others node.extra node.attached ∧
      FieldsRelate (Node.KeepsNames (KeepsToBlock pass.topScope)) (place.inField node.kind node.fields false)
        node.fields others := by
  rw [mapOutermost_of_not_function noFunction] at mapped
  obtain ⟨others, mappedFields, rfl⟩ := map_eq_ok_iff.mp mapped
  rw [mapOutermostInFields_eq] at mappedFields
  refine ⟨others, rfl, (visitFields_relate mappedFields).imp_placed fun inner child placed other mappedChild => ?_⟩
  obtain ⟨branch, fieldPlace, isPlace, isChild, rfl⟩ := (mem_placedNodes_iff (check_of_all regular)).mp placed
  have member := mem_children_of_child? isChild
  exact below child member _ other (all_of_mem_children regular member) (handlers.below noFunction isPlace isChild)
    mappedChild

/-- A node answers as before after the pass was over the functions in it, as the handler of a try statement too if
it is no function or keeps to its block. -/
theorem keepsNames_mapOutermost {pass : Pass} {node after : Node} {place : Place} (regular : node.isRegular = true)
    (handlers : node.HandlersKeepToBlock pass.topScope place)
    (mapped : node.mapOutermost pass.declare place = .ok after) :
    Node.KeepsNames (KeepsToBlock pass.topScope) place node after := by
  induction node using induction_children generalizing place after with
  | step node ih =>
    by_cases isFunction : node.isFunction = true
    · rw [mapOutermost_of_function isFunction] at mapped
      exact Pass.keepsNames_declare isFunction mapped
    · obtain ⟨others, rfl, relate⟩ := exists_relate_mapOutermost regular isFunction handlers
        (fun child member _ _ regularChild handlersChild => ih child member regularChild handlersChild) mapped
      exact (keepsNames_of_fields relate fun child there => handlers.here isFunction there).mono fun _ => trivial

theorem topScope_eq_ok {program : Node} {scope : NameSet} :
    program.topScope = .ok scope ↔ ∃ names : List Scalar,
      namesAt (.declaring .statements true) (program.get? .body) = .ok (names.map .scalar) ∧
        scope = NameSet.ofList names := by
  unfold topScope
  cases program.get? .body with
  | none => exact ⟨nofun, fun ⟨_, named, _⟩ => by cases named⟩
  | some body =>
    simp only [namesAt, Value.namesIn]
    constructor
    · intro isScope
      obtain ⟨values, declared, isScope⟩ := bind_eq_ok_iff.mp isScope
      obtain ⟨names, areNames, isScope⟩ := bind_eq_ok_iff.mp isScope
      cases isScope
      exact ⟨names, by rw [declared, mapM_asName_eq_ok.mp areNames], rfl⟩
    · rintro ⟨names, declared, rfl⟩
      exact bind_eq_ok_iff.mpr ⟨_, declared, bind_eq_ok_iff.mpr ⟨names, mapM_asName_eq_ok.mpr rfl, rfl⟩⟩

/-- Statements in front of a program add what they declare. -/
theorem topScope_prependStatements {program after : Node} {front : List Node} {names added : List Scalar}
    (prepended : List.foldlM prependStatement program front = .ok after)
    (declared : namesAt (.declaring .statements true) (program.get? .body) = .ok (names.map .scalar))
    (adds : declaredNames (front.reverse.map .node) = .ok added) :
    after.topScope = .ok (NameSet.ofList (added ++ names)) := by
  obtain ⟨rfl, rfl⟩ | ⟨_, items, isBody, rfl⟩ := prependStatements_eq prepended
  · cases adds
    exact topScope_eq_ok.mpr ⟨names, declared, rfl⟩
  · rw [isBody] at declared
    refine topScope_eq_ok.mpr ⟨_, ?_, rfl⟩
    rw [get?_set_self]
    exact declaredNames_eq_ok.mp (declaredNames_append adds (declaredNames_eq_ok.mpr declared))

end Node

/-- The statements that routing has put in front of a program. -/
def Routed.front (routed : Routed) (tree : Node) : List Value :=
  routed.tree.statements.take (routed.frontCount tree)

/-- What stands in front of a program is what was put there. -/
theorem Routed.front_eq {change : Place → Node → Except Error Node} {tree walked : Node} {routed : Routed}
    {front : List Node} (noFunction : ¬ tree.isFunction = true)
    (mapped : tree.mapOutermost change .plain = .ok walked)
    (prepended : List.foldlM Node.prependStatement walked front = .ok routed.tree) :
    routed.front tree = front.reverse.map .node := by
  have count : routed.frontCount tree = front.length := by
    rw [frontCount, Node.statementCount_prependStatements prepended,
      Node.statementCount_mapOutermost noFunction mapped]
    omega
  have statements := Node.statements_prependStatements prepended
  have length : (front.reverse.map Value.node).length = front.length := by simp
  rw [Routed.front, statements, count, ← length]
  exact List.take_left' rfl

/-- The statements in front of a program declare the helper if it is among them, and the function that provides
components if a binding of the provider is. -/
theorem exists_declaredNames_front {options : Options} {helper provider : List Node}
    (isHelper : helper = [missingComponentFunction] ∨ helper = [])
    (isProvider : (∃ binding, providerBinding options.source options.format = .ok binding ∧ provider = [binding]) ∨
      provider = []) :
    ∃ added, declaredNames ((provider ++ helper).map .node) = .ok added ∧ ∀ name, added.any (·.same name) = true ↔
      name = .text missingComponentHelper ∧ .node missingComponentFunction ∈ (provider ++ helper).map Value.node ∨
        name = .text provideComponents ∧ ∃ binding, providerBinding options.source options.format = .ok binding ∧
          .node binding ∈ (provider ++ helper).map Value.node := by
  have differ {binding : Node} (bound : providerBinding options.source options.format = .ok binding) :
      missingComponentFunction ≠ binding := by
    rintro rfl
    have names := (declaredNames_providerBinding bound).symm.trans declaredNames_missingComponentFunction
    exact absurd (Except.ok.inj names) (by decide)
  have declaredHelper : ∃ added, declaredNames (helper.map .node) = .ok added ∧ ∀ name,
      added.any (·.same name) = true ↔ name = .text missingComponentHelper ∧ missingComponentFunction ∈ helper := by
    obtain rfl | rfl := isHelper
    · exact ⟨_, declaredNames_missingComponentFunction, fun name => by simp [Scalar.text_same_iff]⟩
    · exact ⟨[], rfl, fun name => by simp⟩
  have declaredProvider : ∃ added, declaredNames (provider.map .node) = .ok added ∧ ∀ name,
      added.any (·.same name) = true ↔ name = .text provideComponents ∧ provider ≠ [] := by
    obtain ⟨binding, bound, rfl⟩ | rfl := isProvider
    · exact ⟨_, declaredNames_providerBinding bound, fun name => by simp [Scalar.text_same_iff]⟩
    · exact ⟨[], rfl, fun name => by simp⟩
  obtain ⟨names, areHelper, helperNames⟩ := declaredHelper
  obtain ⟨others, areProvider, providerNames⟩ := declaredProvider
  refine ⟨others ++
    names, by rw [List.map_append]; exact declaredNames_append areProvider areHelper, fun name => ?_⟩
  have inFront (statement : Node) : Value.node statement ∈ (provider ++ helper).map Value.node ↔
      statement ∈ provider ∨ statement ∈ helper := by simp
  have helperInFront : missingComponentFunction ∈ provider ∨ missingComponentFunction ∈ helper ↔
      missingComponentFunction ∈ helper := by
    refine ⟨fun member => member.resolve_left fun inProvider => ?_, .inr⟩
    obtain ⟨binding, bound, rfl⟩ | rfl := isProvider
    · exact differ bound (List.mem_singleton.mp inProvider)
    · cases inProvider
  have providerInFront : (∃ binding, providerBinding options.source options.format = .ok binding ∧
      (binding ∈ provider ∨ binding ∈ helper)) ↔ provider ≠ [] := by
    constructor
    · rintro ⟨binding, bound, inProvider | inHelper⟩
      · exact List.ne_nil_of_mem inProvider
      · obtain rfl | rfl := isHelper
        · exact absurd (List.mem_singleton.mp inHelper).symm (differ bound)
        · cases inHelper
    · intro provided
      obtain ⟨binding, bound, rfl⟩ | rfl := isProvider
      · exact ⟨binding, bound, .inl (List.mem_singleton_self _)⟩
      · exact absurd rfl provided
  simp only [List.any_append, Bool.or_eq_true, helperNames, providerNames, inFront, helperInFront, providerInFront]
  exact or_comm

/-- The top scope of a routed program is that of the program, with the helper if it was put in front, and with the
function that provides components if a binding of the provider was. -/
theorem routeProgram_topScope {options : Options} {known : Option NameSet} {tree : Node} {routed : Routed}
    {before : NameSet} (program : tree.kind = .program) (regular : tree.isRegular = true)
    (run : routeProgram options known tree = .ok routed) (isScope : tree.topScope = .ok before)
    (handlers : ∀ position place function,
      tree.outermostAt? .plain (position ++ [.direct .handler]) = some (place, function) →
        routed.Receives tree (position ++ [.direct .handler]) → function.DeclaresInBlock) :
    ∃ after, routed.tree.topScope = .ok after ∧ ∀ name, after.contains name = true ↔
      before.contains name = true ∨
        name = .text missingComponentHelper ∧ .node missingComponentFunction ∈ routed.front tree ∨
        name = .text provideComponents ∧ ∃ binding, providerBinding options.source options.format = .ok binding ∧
          .node binding ∈ routed.front tree := by
  obtain ⟨topScope, isKnown, outermost⟩ := routeProgram_outermost program run
  rw [routeProgram_eq, isKnown] at run
  obtain ⟨walked, helper, provider, mapped, prepended, isHelper, isProvider⟩ := Pass.run_eq_ok run
  obtain ⟨helperCases, providerCases, inOrder⟩ := Pass.front_cases isHelper isProvider
  have noFunction := Node.not_isFunction_of_program program
  have front := Routed.front_eq noFunction mapped prepended
  have inBlocks : tree.HandlersKeepToBlock topScope .plain := fun position place function found _ something =>
    handlers position place function found ((receives_iff outermost).mpr ⟨place, function, found, something⟩)
  obtain ⟨others, rfl, relate⟩ := Node.exists_relate_mapOutermost regular noFunction inBlocks
    (fun _ _ _ _ regularChild handlersChild mappedChild =>
      Node.keepsNames_mapOutermost regularChild handlersChild mappedChild) mapped
  obtain ⟨names, declared, rfl⟩ := Node.topScope_eq_ok.mp isScope
  have kept := namesAt_keeps _ (relate.get?_keepsNames .body) (.inl rfl) (areNames_map names) declared
  obtain ⟨added, adds, inAdded⟩ := @exists_declaredNames_front options helper provider
    (helperCases.imp And.left And.left) (providerCases.imp And.left And.left)
  rw [← inOrder] at adds
  refine ⟨_, Node.topScope_prependStatements prepended kept adds, fun name => ?_⟩
  rw [NameSet.contains_ofList, NameSet.contains_ofList, List.any_append, Bool.or_eq_true, inAdded, front, inOrder]
  exact or_comm

namespace Node

/-- Whether the handler of a statement, if there is one, is no function. Wherever a parser writes one, it is a catch
clause. -/
def hasPlainHandler (node : Node) : Bool :=
  match node.fields.lookup .handler with
  | some (.node handler) => !handler.isFunction
  | _ => true

theorem exists_parent_of_outermostAt? {node function : Node} {place inner : Place} {position : Position}
    {branch : Branch} (found : node.outermostAt? place (position ++ [branch]) = some (inner, function)) :
    ∃ parent, node.at? position = some parent ∧ parent.child? branch = some function := by
  induction position generalizing node place with
  | nil =>
    rw [List.nil_append, outermostAt?] at found
    split at found
    · cases found
    split at found
    · rename_i fieldPlace child _ isChild
      rw [outermostAt?] at found
      split at found
      · cases found
        exact ⟨node, rfl, isChild⟩
      · cases found
    · cases found
  | cons first rest ih =>
    rw [List.cons_append, outermostAt?] at found
    split at found
    · cases found
    split at found
    · rename_i fieldPlace child _ isChild
      obtain ⟨parent, there, isFunction⟩ := ih found
      exact ⟨parent, at?_cons_eq_some.mpr ⟨child, isChild, there⟩, isFunction⟩
    · cases found

/-- In a tree whose handlers are no functions, no function stands as a handler. -/
theorem outermostAt?_handler {tree : Node} (plain : tree.all hasPlainHandler = true) (position : Position)
    (place : Place) (function : Node) :
    tree.outermostAt? .plain (position ++ [.direct .handler]) ≠ some (place, function) := by
  intro found
  obtain ⟨parent, there, isChild⟩ := exists_parent_of_outermostAt? found
  obtain ⟨value, isValue, leads⟩ := child?_eq_some.mp isChild
  have checked := check_of_all (all_of_at? plain there)
  cases value with
  | node child =>
    cases leads
    have noFunction : function.isFunction = false := by
      simpa [hasPlainHandler, show parent.fields.lookup .handler = some (.node function) from isValue] using checked
    rw [isFunction_of_outermostAt? found] at noFunction
    cases noFunction
  | scalar | list | object => cases leads

/-- `try {} handler` -/
def tryStatement (handler : Node) : Node :=
  .make .tryStatement [(.block, .node (.block [])), (.handler, .node handler)]

/-- `var name = init;` -/
def varDeclaration (name : String) (init : Node) : Node :=
  .make .variableDeclaration [(.kind, .text "var"),
    (.declarations, .list
      [.node (.make .variableDeclarator [(.id, .node (.identifier name)), (.init, .node init)])])]

end Node

/-- Before `try {} catch { var x = "x"; } function F() { return <Foo />; }` the import of the provider and the
helper are declared, and `x` and `F` still are. -/
theorem routeProgram_topScope_catch :
    let options : Options := { source := some "theme" }
    let handler := Node.make .catchClause
      [(.body, .node (.block [.node (.varDeclaration "x" (.textLiteral "x"))]))]
    let page := Node.programOf [.tryStatement handler,
      .functionNamed "F" [] [.returnStatement (.node (.emptyElement (.jsxName "Foo")))]]
    page.kind = .program ∧ page.isRegular = true ∧ page.all Node.hasPlainHandler = true ∧
      ∃ routed after, routeProgram options none page = .ok routed ∧ routed.tree.topScope = .ok after ∧
        ∀ name ∈ ["x", "F", missingComponentHelper, provideComponents], after.contains (.text name) = true := by
  intro options handler page
  have program : page.kind = .program := rfl
  have regular : page.isRegular = true := rfl
  have plain : page.all Node.hasPlainHandler = true := rfl
  obtain ⟨routed, run⟩ : ∃ routed, routeProgram options none page = .ok routed := ⟨_, rfl⟩
  obtain ⟨before, isScope⟩ : ∃ before, page.topScope = .ok before := ⟨_, rfl⟩
  obtain ⟨after, isAfter, names⟩ := routeProgram_topScope program regular run isScope
    fun position place function found => absurd found (Node.outermostAt?_handler plain position place function)
  refine ⟨program, regular, plain, routed, after, run, isAfter, fun name member => (names _).mpr ?_⟩
  cases run
  cases isScope
  simp only [List.mem_cons, List.not_mem_nil, or_false] at member
  obtain rfl | rfl | rfl | rfl := member
  · exact .inl rfl
  · exact .inl rfl
  · exact .inr (.inl ⟨rfl, List.mem_cons_of_mem _ List.mem_cons_self⟩)
  · exact .inr (.inr ⟨rfl, _, rfl, List.mem_cons_self⟩)

/-- In the place of a handler stands an arrow function, and in the place of its body `var x = <b />`, which counts
as declared at the top until the body becomes a block. -/
theorem routeProgram_hides_handler_names :
    let handler := Node.make .arrowFunctionExpression
      [(.body, .node (.varDeclaration "x" (.emptyElement (.jsxName "b"))))]
    let page := Node.programOf [.tryStatement handler]
    page.kind = .program ∧ page.isRegular = true ∧
      ∃ routed before after, routeProgram {} none page = .ok routed ∧ page.topScope = .ok before ∧
        before.toList = [.text "x"] ∧ routed.front page = [] ∧ routed.tree.topScope = .ok after ∧
          after.toList = [] :=
  ⟨rfl, rfl, _, _, _, rfl, rfl, rfl, rfl, rfl, rfl⟩

end JsxRouting
