import JsxRouting.Proofs.ArgumentScopes
import JsxRouting.Proofs.LocalNames
import Mathlib.Data.List.Nodup

namespace JsxRouting

variable {α : Type}

namespace Node

/-- The expression for the first argument, given a name for what a parameter with this mark receives. -/
def firstThrough (mark : ParameterMark) (name : String) : Node :=
  match mark with
  | .rest => firstElement (identifier name)
  | _ => identifier name

end Node

/-- What the props are: the first argument, or the default value that the first parameter has for it. -/
def World.props (world : World α) (parameters : List Parameter) (given : List (Denoted α)) : Denoted α :=
  match parameters with
  | ⟨.usual usual, _⟩ :: _ => world.orUsual (firstGiven given) (some usual)
  | _ => firstGiven given

/-- How the props of a function with these parameters are read, with the parameters that it then has and the
patterns that are then taken apart in its body. -/
inductive PropsReading.Of (function : Node) : List Parameter → PropsReading → List Parameter → List Pattern → Prop
  | named {mark : ParameterMark} {name : String} {others : List Parameter} :
      Of function (⟨mark, .name name⟩ :: others) ⟨.firstThrough mark name, [], function⟩
        (⟨mark, .name name⟩ :: others) []
  | fromArguments {parameters : List Parameter} : function.is .arrowFunctionExpression = false →
      (∀ parameter ∈ parameters.head?, parameter.mark = .plain) →
      Of function parameters ⟨.firstElement (.identifier argumentsObject), [], function⟩ parameters []
  | added {after : Node} : function.is .arrowFunctionExpression = true → after.kind = function.kind →
      Of function [] ⟨.identifier propsParameter, [], after⟩ [⟨.plain, .name propsParameter⟩] []
  | moved {mark : ParameterMark} {pattern : Pattern} {others : List Parameter} {target : Value} {after : Node} :
      after.kind = function.kind → target.parameter? = some ⟨.plain, pattern⟩ →
      Of function (⟨mark, pattern⟩ :: others) ⟨.firstThrough mark propsParameter, [.propsPrelude target], after⟩
        (⟨mark, .name propsParameter⟩ :: others) [pattern]

section Readings

/-- A pattern with nothing around it is an identifier, or no identifier at all. -/
theorem nodeOf?_of_plain {target : Value} {pattern : Pattern}
    (isPlain : target.parameter? = some ⟨.plain, pattern⟩) :
    (∃ name node, pattern = .name name ∧ target.nodeOf? .identifier = some node ∧
      node.get? .name = some (.text name)) ∨
      target.nodeOf? .identifier = none := by
  obtain ⟨node, rfl, isParameter⟩ := exists_isParameter isPlain
  cases isParameter with
  | name isIdentifier found =>
    exact .inl ⟨_, node, rfl, if_pos (beq_iff_eq.mpr isIdentifier), Node.get?_of_lookup found⟩
  | pattern isPattern =>
    have noIdentifier : node.kind ≠ .identifier := by
      rintro isIdentifier
      rw [isIdentifier] at isPattern
      rcases isPattern with isPattern | isPattern <;> cases isPattern
    exact .inr (if_neg fun same => noIdentifier (beq_iff_eq.mp same))

theorem parameter?_identifier (name : String) :
    (Value.node (.identifier name)).parameter? = some ⟨.plain, .name name⟩ := rfl

/-- The first parameter can be replaced by another one with the same mark. -/
theorem parameters?_replaced {item other : Value} {rest : List Value} {mark : ParameterMark} {old new : Pattern}
    {others : List Parameter} (areParameters : parameters? (item :: rest) = some (⟨mark, old⟩ :: others))
    (isOther : other.parameter? = some ⟨mark, new⟩) :
    parameters? (other :: rest) = some (⟨mark, new⟩ :: others) := by
  obtain ⟨_, _, _, areOthers, same, restIsLast⟩ := parameters?_cons_eq_some.mp areParameters
  cases same
  exact parameters?_cons_eq_some.mpr ⟨_, _, isOther, areOthers, rfl, restIsLast⟩

namespace Node

variable {function node : Node} {rest : List Value}

theorem parameters?_of_params {items : List Value} (isParams : function.get? .params = some (.list items)) :
    function.parameters? = JsxRouting.parameters? items := by
  simp only [parameters?, isParams]

theorem parameters?_set (function : Node) (items : List Value) :
    (function.set .params (.list items)).parameters? = JsxRouting.parameters? items :=
  parameters?_of_params (get?_set_self function .params _)

theorem readProps_identifier (isParams : function.get? .params = some (.list (.node node :: rest)))
    (isKind : node.kind = .identifier) {name : String} (isName : node.get? .name = some (.text name)) :
    function.readProps = .ok ⟨identifier name, [], function⟩ := by
  simp only [readProps, isParams, firstParameter, bind, Except.bind, isKind, isName]
  rfl

theorem readProps_restElement (isParams : function.get? .params = some (.list (.node node :: rest)))
    (isKind : node.kind = .restElement) :
    function.readProps = function.readRestParameter (.list (.node node :: rest)) node := by
  simp only [readProps, isParams, firstParameter, bind, Except.bind, isKind]

theorem readProps_assignmentPattern (isParams : function.get? .params = some (.list (.node node :: rest)))
    (isKind : node.kind = .assignmentPattern) :
    function.readProps = function.readDefaultParameter (.list (.node node :: rest)) node := by
  simp only [readProps, isParams, firstParameter, bind, Except.bind, isKind]

theorem readProps_pattern (isParams : function.get? .params = some (.list (.node node :: rest)))
    (isKind : node.kind = .objectPattern ∨ node.kind = .arrayPattern) :
    function.readProps = if function.is .arrowFunctionExpression then
        function.readArrowParameter (.list (.node node :: rest)) (.node node)
      else .ok ⟨firstElement (identifier argumentsObject), [], function⟩ := by
  rcases isKind with isKind | isKind <;>
    simp only [readProps, isParams, firstParameter, bind, Except.bind, isKind] <;> rfl

theorem readProps_nil (isParams : function.get? .params = some (.list [])) :
    function.readProps = if function.is .arrowFunctionExpression then
        .ok ⟨identifier propsParameter, [], function.set .params (.list [.node (identifier propsParameter)])⟩
      else .ok ⟨firstElement (identifier argumentsObject), [], function⟩ := by
  simp only [readProps, isParams]
  rfl

/-- The props that are read in one of the ways, and the well-formed parameters that the function then has. -/
def ReadsProps (function : Node) (parameters : List Parameter) : Prop :=
  ∃ reading after moved, function.readProps = .ok reading ∧ reading.function.parameters? = some after ∧
    PropsReading.Of function parameters reading after moved

theorem readsProps_nil (isParams : function.get? .params = some (.list [])) : function.ReadsProps [] := by
  have read := readProps_nil isParams
  cases isArrow : function.is .arrowFunctionExpression with
  | true =>
    rw [isArrow, if_pos rfl] at read
    exact ⟨_, _, _, read, parameters?_set .., .added isArrow (kind_set ..)⟩
  | false =>
    rw [isArrow, if_neg Bool.false_ne_true] at read
    exact ⟨_, _, _, read, parameters?_of_params isParams, .fromArguments isArrow nofun⟩

/-- What is read if the pattern in a field of the first parameter makes way. -/
theorem readsProps_within {field : Field} {mark : ParameterMark} {pattern : Pattern} {others : List Parameter}
    {target : Value} (isPlain : target.parameter? = some ⟨.plain, pattern⟩)
    (areParameters : JsxRouting.parameters? (.node node :: rest) = some (⟨mark, pattern⟩ :: others))
    (isReplaced : (Value.node (node.set field (.node (identifier propsParameter)))).parameter? =
      some ⟨mark, .name propsParameter⟩)
    (read : function.readProps = .ok ⟨firstThrough mark propsParameter, [propsPrelude target],
      function.set .params (.list (.node (node.set field (.node (identifier propsParameter))) :: rest))⟩) :
    function.ReadsProps (⟨mark, pattern⟩ :: others) :=
  ⟨_, _, _, read, (parameters?_set ..).trans (parameters?_replaced areParameters isReplaced),
    .moved (kind_set ..) isPlain⟩

theorem readsProps_usual {others : List Parameter} {usual target : Value} {pattern : Pattern}
    (isParams : function.get? .params = some (.list (.node node :: rest))) (isKind : node.kind = .assignmentPattern)
    (isUsual : node.fields.lookup .right = some usual) (isTarget : node.fields.lookup .left = some target)
    (isPlain : target.parameter? = some ⟨.plain, pattern⟩)
    (areParameters : JsxRouting.parameters? (.node node :: rest) = some (⟨.usual usual, pattern⟩ :: others)) :
    function.ReadsProps (⟨.usual usual, pattern⟩ :: others) := by
  have read := readProps_assignmentPattern isParams isKind
  unfold readDefaultParameter at read
  rw [get?_of_lookup isTarget, Option.getD_some] at read
  dsimp only at read
  rcases nodeOf?_of_plain isPlain with ⟨name, written, rfl, isIdentifier, isName⟩ | noIdentifier
  · rw [isIdentifier] at read
    simp only [isName, Option.getD_some] at read
    exact ⟨_, _, _, read, (parameters?_of_params isParams).trans areParameters, .named⟩
  · rw [noIdentifier] at read
    refine readsProps_within isPlain areParameters ?_ read
    refine parameter?_usual ((kind_set ..).trans isKind) ?_ (lookup_set_self _ isTarget) (parameter?_identifier _)
    rw [lookup_set_of_ne node _ (by decide), isUsual]

theorem readsProps_rest {others : List Parameter} {target : Value} {pattern : Pattern}
    (isParams : function.get? .params = some (.list (.node node :: rest))) (isKind : node.kind = .restElement)
    (isTarget : node.fields.lookup .argument = some target) (isPlain : target.parameter? = some ⟨.plain, pattern⟩)
    (areParameters : JsxRouting.parameters? (.node node :: rest) = some (⟨.rest, pattern⟩ :: others)) :
    function.ReadsProps (⟨.rest, pattern⟩ :: others) := by
  have read := readProps_restElement isParams isKind
  unfold readRestParameter at read
  rw [get?_of_lookup isTarget, Option.getD_some] at read
  dsimp only at read
  rcases nodeOf?_of_plain isPlain with ⟨name, written, rfl, isIdentifier, isName⟩ | noIdentifier
  · rw [isIdentifier] at read
    simp only [isName, Option.getD_some] at read
    exact ⟨_, _, _, read, (parameters?_of_params isParams).trans areParameters, .named⟩
  · rw [noIdentifier] at read
    refine readsProps_within isPlain areParameters ?_ read
    exact parameter?_rest ((kind_set ..).trans isKind) (lookup_set_self _ isTarget) (parameter?_identifier _)

theorem readsProps_pattern {others : List Parameter} {pattern : Pattern}
    (isParams : function.get? .params = some (.list (.node node :: rest)))
    (isKind : node.kind = .objectPattern ∨ node.kind = .arrayPattern)
    (isPlain : (Value.node node).parameter? = some ⟨.plain, pattern⟩)
    (areParameters : JsxRouting.parameters? (.node node :: rest) = some (⟨.plain, pattern⟩ :: others)) :
    function.ReadsProps (⟨.plain, pattern⟩ :: others) := by
  have read := readProps_pattern isParams isKind
  cases isArrow : function.is .arrowFunctionExpression with
  | true =>
    rw [isArrow, if_pos rfl] at read
    have replaced := parameters?_replaced areParameters (parameter?_identifier propsParameter)
    exact ⟨_, _, _, read, (parameters?_set ..).trans replaced, .moved (kind_set ..) isPlain⟩
  | false =>
    rw [isArrow, if_neg Bool.false_ne_true] at read
    refine ⟨_, _, _, read, (parameters?_of_params isParams).trans areParameters, .fromArguments isArrow ?_⟩
    rintro _ ⟨⟩
    rfl

/-- Every function with well-formed parameters has its props read in one of the ways. -/
theorem readsProps {function : Node} {parameters : List Parameter}
    (wellFormed : function.parameters? = some parameters) :
    function.ReadsProps parameters := by
  unfold parameters? at wellFormed
  split at wellFormed
  · rename_i items isParams
    cases items with
    | nil =>
      cases wellFormed
      exact readsProps_nil isParams
    | cons first rest =>
      obtain ⟨parameter, others, isFirst, areOthers, rfl, restIsLast⟩ := parameters?_cons_eq_some.mp wellFormed
      obtain ⟨node, rfl, isParameter⟩ := exists_isParameter isFirst
      cases isParameter with
      | name isKind found =>
        have read := readProps_identifier isParams isKind (get?_of_lookup found)
        exact ⟨_, _, _, read, (parameters?_of_params isParams).trans wellFormed, .named⟩
      | pattern isKind => exact readsProps_pattern isParams isKind isFirst wellFormed
      | usual isKind isUsual isTarget isPlain =>
        exact readsProps_usual isParams isKind isUsual isTarget isPlain wellFormed
      | rest isKind isTarget isPlain => exact readsProps_rest isParams isKind isTarget isPlain wellFormed
  · cases wellFormed

end Node

end Readings

section Scopes

/-- Two scopes in which each of the names stands for the same. -/
def Scope.Agree (names : List String) (scope inner : Scope α) : Prop :=
  ∀ name ∈ names, ∃ denoted, scope.lookup name = some denoted ∧ inner.lookup name = some denoted

theorem Node.constant?_propsPrelude {target : Value} {pattern : Pattern}
    (isPlain : target.parameter? = some ⟨.plain, pattern⟩) :
    (Node.propsPrelude target).constant? = some (pattern, .identifier propsParameter) := by
  show (do return (← (← target.parameter?).plain?, Node.identifier propsParameter)) = _
  rw [isPlain]
  rfl

namespace World

variable {world : World α} {scope : Scope α} {given : List (Denoted α)}

/-- A name for what the first parameter receives gives the props. -/
theorem evaluate?_firstThrough {mark : ParameterMark} {name : String} (pattern : Pattern) (others : List Parameter)
    (found : scope.lookup name = some (world.received mark given)) :
    world.evaluate? scope (.firstThrough mark name) = some (world.props (⟨mark, pattern⟩ :: others) given) := by
  cases mark with
  | plain | usual => exact evaluate?_identifier.trans found
  | rest => exact (evaluate?_firstElement found).trans (world.first_array given)

theorem props_of_plain {parameters : List Parameter}
    (plain : ∀ parameter ∈ parameters.head?, parameter.mark = .plain) :
    world.props parameters given = firstGiven given := by
  unfold props
  split
  · cases plain _ rfl
  · rfl

/-- What the names of the parameters stand for does not depend on what is seen besides. -/
theorem agree_bindings {parameters : List Parameter} {bindings : Scope α}
    (bound : world.bindParameters parameters given = some bindings) (scope : Scope α) :
    Scope.Agree (boundBy parameters) (bindings ++ scope) (bindings ++ scope) := by
  intro name member
  rw [← names_bindParameters bound] at member
  obtain ⟨denoted, _, found⟩ := lookup_append_of_mem scope member
  exact ⟨denoted, found, found⟩

theorem scopeBehind?_nil (function : Node) :
    world.scopeBehind? function [] given = world.bodyScope? function given := by
  unfold scopeBehind?
  cases world.bodyScope? function given <;> rfl

/-- The call of a function goes on in the body after the props were read just as it did before: every name of the
parameters stands for what it stood for, and the expression gives the props. -/
def KeepsScope (world : World α) (function : Node) (parameters : List Parameter) (reading : PropsReading)
    (given : List (Denoted α)) : Prop :=
  (world.bodyScope? function given = none → world.scopeBehind? reading.function reading.prelude given = none) ∧
    ∀ scope, world.bodyScope? function given = some scope →
      ∃ inner, world.scopeBehind? reading.function reading.prelude given = some inner ∧
        Scope.Agree (boundBy parameters) scope inner ∧
        world.evaluate? inner reading.props = some (world.props parameters given)

section Kept

variable {function : Node} {parameters : List Parameter} (areParameters : function.parameters? = some parameters)
  (distinct : (boundBy parameters).Nodup) (noArguments : argumentsObject ∉ boundBy parameters)

include areParameters distinct noArguments in
/-- With the parameters as they are, only the expression for the props matters. -/
theorem keepsScope_kept {props : Node} (gives : ∀ bindings, world.bindParameters parameters given = some bindings →
      world.evaluate? (bindings ++ world.ownArguments function given) props = some (world.props parameters given)) :
    world.KeepsScope function parameters ⟨props, [], function⟩ given := by
  refine ⟨(scopeBehind?_nil function).trans, fun scope isScope =>
    ⟨scope, (scopeBehind?_nil function).trans isScope, ?_⟩⟩
  rw [bodyScope?_eq areParameters distinct noArguments] at isScope
  obtain ⟨bindings, bound, rfl⟩ := Option.map_eq_some_iff.mp isScope
  exact ⟨agree_bindings bound _, gives bindings bound⟩

include areParameters distinct noArguments in
theorem keepsScope_fromArguments (noArrow : function.is .arrowFunctionExpression = false)
    (plain : ∀ parameter ∈ parameters.head?, parameter.mark = .plain) :
    world.KeepsScope function parameters ⟨.firstElement (.identifier argumentsObject), [], function⟩ given := by
  refine keepsScope_kept areParameters distinct noArguments fun bindings bound => ?_
  have absent : argumentsObject ∉ bindings.map (·.1) := by rwa [names_bindParameters bound]
  have own : world.ownArguments function given = [(argumentsObject, .value (world.arguments given))] := by
    rw [ownArguments, noArrow, if_neg Bool.false_ne_true]
  have found : (bindings ++ world.ownArguments function given).lookup argumentsObject =
      some (.value (world.arguments given)) := by
    rw [lookup_append_of_notMem absent, own, List.lookup_cons_self]
  rw [evaluate?_firstElement found, world.first_arguments, props_of_plain plain]

end Kept

theorem keepsScope_named {function : Node} {mark : ParameterMark} {name : String} {others : List Parameter}
    (areParameters : function.parameters? = some (⟨mark, .name name⟩ :: others))
    (distinct : (boundBy (⟨mark, .name name⟩ :: others)).Nodup)
    (noArguments : argumentsObject ∉ boundBy (⟨mark, .name name⟩ :: others)) :
    world.KeepsScope function (⟨mark, .name name⟩ :: others) ⟨.firstThrough mark name, [], function⟩ given := by
  refine keepsScope_kept areParameters distinct noArguments fun bindings bound => evaluate?_firstThrough _ _ ?_
  obtain ⟨behind, _, bound⟩ := Option.bind_eq_some_iff.mp bound
  cases bound
  exact List.lookup_cons_self

theorem keepsScope_added {function after : Node} (areParameters : function.parameters? = some [])
    (areAfter : after.parameters? = some [⟨.plain, .name propsParameter⟩]) (sameKind : after.kind = function.kind)
    (isArrow : function.is .arrowFunctionExpression = true) :
    world.KeepsScope function [] ⟨.identifier propsParameter, [], after⟩ given := by
  have own : world.ownArguments function given = [] := by rw [ownArguments, if_pos isArrow]
  have before : world.bodyScope? function given = some [] := by
    rw [bodyScope?_eq areParameters .nil List.not_mem_nil, own]
    rfl
  have behind : world.scopeBehind? after [] given = some [(propsParameter, firstGiven given)] := by
    rw [scopeBehind?_nil, bodyScope?_eq areAfter (List.nodup_singleton _) (by decide),
      ownArguments_of_kind sameKind, own]
    rfl
  refine ⟨fun fails => ?_, fun scope _ => ⟨_, behind, nofun, evaluate?_identifier.trans List.lookup_cons_self⟩⟩
  rw [before] at fails
  cases fails

section Moved

variable {function after : Node} {mark : ParameterMark} {pattern : Pattern} {others : List Parameter}
  {target : Value}

/-- The names of the moved pattern, the new parameter and the other parameters are distinct. -/
theorem nodup_withProps (distinct : (boundBy (⟨mark, pattern⟩ :: others)).Nodup)
    (noProps : propsParameter ∉ boundBy (⟨mark, pattern⟩ :: others)) :
    (pattern.names ++ propsParameter :: boundBy others).Nodup :=
  List.nodup_middle.mpr (List.nodup_cons.mpr ⟨noProps, distinct⟩)

theorem noArguments_withProps (noArguments : argumentsObject ∉ boundBy (⟨mark, pattern⟩ :: others)) :
    argumentsObject ∉ pattern.names ++ propsParameter :: boundBy others := by
  have differs : argumentsObject ≠ propsParameter := by decide
  have split : boundBy (⟨mark, pattern⟩ :: others) = pattern.names ++ boundBy others := rfl
  rw [split] at noArguments
  simp only [List.mem_append, List.mem_cons, not_or] at noArguments ⊢
  exact ⟨noArguments.1, differs, noArguments.2⟩

/-- A constant adds what its pattern binds to the value of the expression behind it. -/
theorem declare?_eq {statement init : Node} {constant : Pattern} {denoted : Denoted α}
    (isConstant : statement.constant? = some (constant, init))
    (isInit : world.evaluate? scope init = some denoted) :
    world.declare? scope statement = (constant.bind world denoted).bind fun here => (here ++ scope).distinct? := by
  simp only [declare?, isConstant, isInit, Option.bind_eq_bind, Option.bind_some]

/-- Behind the statement that takes the pattern apart, its names come first, then the new parameter and the
others. -/
theorem scopeBehind?_moved (isPlain : target.parameter? = some ⟨.plain, pattern⟩)
    (areAfter : after.parameters? = some (⟨mark, .name propsParameter⟩ :: others))
    (distinct : (boundBy (⟨mark, pattern⟩ :: others)).Nodup)
    (noProps : propsParameter ∉ boundBy (⟨mark, pattern⟩ :: others))
    (noArguments : argumentsObject ∉ boundBy (⟨mark, pattern⟩ :: others)) :
    world.scopeBehind? after [.propsPrelude target] given = do
      let behind ← world.bindParameters others given.tail
      let here ← pattern.bind world (world.received mark given)
      return here ++ (propsParameter, world.received mark given) :: (behind ++ world.ownArguments after given) := by
  have withProps := nodup_withProps distinct noProps
  have noArgumentsAfter := noArguments_withProps noArguments
  have afterDistinct : (boundBy (⟨mark, .name propsParameter⟩ :: others)).Nodup := withProps.of_append_right
  have afterNoArguments : argumentsObject ∉ boundBy (⟨mark, .name propsParameter⟩ :: others) :=
    fun member => noArgumentsAfter (List.mem_append_right _ member)
  rw [scopeBehind?, bodyScope?_eq areAfter afterDistinct afterNoArguments, bindParameters]
  cases isBehind : world.bindParameters others given.tail with
  | none => rfl
  | some behind =>
    let called := (propsParameter, world.received mark given) :: (behind ++ world.ownArguments after given)
    have isProps : world.evaluate? called (.identifier propsParameter) = some (world.received mark given) :=
      evaluate?_identifier.trans List.lookup_cons_self
    have declared := declare?_eq (Node.constant?_propsPrelude isPlain) isProps
    show (world.declare? called (.propsPrelude target)).bind some = _
    rw [declared, Option.bind_fun_some]
    cases isHere : pattern.bind world (world.received mark given) with
    | none => rfl
    | some here =>
      have names : (here ++ (propsParameter, world.received mark given) :: behind).map (·.1) =
          pattern.names ++ propsParameter :: boundBy others := by
        rw [List.map_append, List.map_cons, Pattern.names_bind isHere, names_bindParameters isBehind]
      rw [← names] at withProps noArgumentsAfter
      have apart := world.nodup_append_ownArguments withProps noArgumentsAfter after given
      rw [List.append_assoc, List.cons_append] at apart
      exact if_pos apart

theorem agree_moved {here behind own : Scope α} {denoted : Denoted α} {names : List String}
    (areNames : (here ++ behind).map (·.1) = names) (noProps : propsParameter ∉ names) :
    Scope.Agree names (here ++ behind ++ own) (here ++ (propsParameter, denoted) :: (behind ++ own)) := by
  subst areNames
  intro name member
  rw [List.append_assoc]
  by_cases inHere : name ∈ here.map (·.1)
  · obtain ⟨found, isFound, inScope⟩ := lookup_append_of_mem (behind ++ own) inHere
    obtain ⟨_, same, inInner⟩ := lookup_append_of_mem ((propsParameter, denoted) :: (behind ++ own)) inHere
    rw [isFound] at same
    cases same
    exact ⟨found, inScope, inInner⟩
  · rw [List.map_append] at member
    have inBehind : name ∈ behind.map (·.1) := (List.mem_append.mp member).resolve_left inHere
    obtain ⟨found, _, inScope⟩ := lookup_append_of_mem own inBehind
    have differs : name ≠ propsParameter := by
      rintro rfl
      exact noProps (List.map_append ▸ member)
    rw [lookup_append_of_notMem inHere, lookup_append_of_notMem inHere, List.lookup_cons,
      beq_eq_false_iff_ne.mpr differs]
    exact ⟨found, inScope, inScope⟩

theorem keepsScope_moved (areParameters : function.parameters? = some (⟨mark, pattern⟩ :: others))
    (isPlain : target.parameter? = some ⟨.plain, pattern⟩)
    (areAfter : after.parameters? = some (⟨mark, .name propsParameter⟩ :: others))
    (sameKind : after.kind = function.kind)
    (distinct : (boundBy (⟨mark, pattern⟩ :: others)).Nodup)
    (noProps : propsParameter ∉ boundBy (⟨mark, pattern⟩ :: others))
    (noArguments : argumentsObject ∉ boundBy (⟨mark, pattern⟩ :: others)) :
    world.KeepsScope function (⟨mark, pattern⟩ :: others)
      ⟨.firstThrough mark propsParameter, [.propsPrelude target], after⟩ given := by
  unfold KeepsScope
  dsimp only
  rw [bodyScope?_eq areParameters distinct noArguments,
    scopeBehind?_moved isPlain areAfter distinct noProps noArguments, ownArguments_of_kind sameKind, bindParameters]
  dsimp only
  cases isHere : pattern.bind world (world.received mark given) with
  | none => simp
  | some here =>
    cases isBehind : world.bindParameters others given.tail with
    | none => simp
    | some behind =>
      have names : (here ++ behind).map (·.1) = boundBy (⟨mark, pattern⟩ :: others) := by
        rw [List.map_append, Pattern.names_bind isHere, names_bindParameters isBehind]
        rfl
      have absent : propsParameter ∉ here.map (·.1) := by
        rw [← names, List.map_append] at noProps
        exact fun member => noProps (List.mem_append_left _ member)
      refine ⟨nofun, fun scope isScope => ⟨_, rfl, ?_, evaluate?_firstThrough _ _ ?_⟩⟩
      · cases isScope
        exact agree_moved names noProps
      · rw [lookup_append_of_notMem absent, List.lookup_cons_self]

end Moved

end World

end Scopes

/-- The names that parameters bind as scopes know them. -/
theorem Node.parameterNames_of_parameters? {function : Node} {parameters : List Parameter}
    (areParameters : function.parameters? = some parameters) :
    function.parameterNames = .ok ((boundBy parameters).map Scalar.text) := by
  unfold parameters? at areParameters
  split at areParameters
  · rename_i items isParams
    simp only [parameterNames, isParams, parameterNames_eq_ok, names_parameters? areParameters, List.map_map]
    rfl
  · cases areParameters

namespace PropsReading.Of

variable {function : Node} {parameters after : List Parameter} {reading : PropsReading} {patterns : List Pattern}

theorem constantPatterns? (read : Of function parameters reading after patterns) :
    JsxRouting.constantPatterns? reading.prelude = some patterns := by
  cases read with
  | named | fromArguments | added => rfl
  | moved _ isPlain =>
    simp only [JsxRouting.constantPatterns?, List.mapM_cons, List.mapM_nil, Node.constant?_propsPrelude isPlain]
    rfl

theorem declaredNames (read : Of function parameters reading after patterns) :
    JsxRouting.declaredNames (reading.prelude.map .node) =
      .ok ((patterns.flatMap Pattern.names).map Scalar.text) := by
  cases read with
  | named | fromArguments | added => rfl
  | @moved _ pattern _ target _ _ isPlain =>
    have bound : target.boundNames = .ok ((pattern.names.map Scalar.text).map Value.scalar) := by
      rw [List.map_map]
      exact names_parameter? isPlain
    rw [List.flatMap_singleton]
    exact declaredNames_constDeclaration bound

/-- No pattern is lost, and the only new one is the name of the new parameter. -/
theorem perm_patterns (read : Of function parameters reading after patterns)
    (noProps : propsParameter ∉ boundBy parameters) :
    (after.map (·.pattern) ++ patterns).Perm
      (parameters.map (·.pattern) ++ if propsParameter ∈ boundBy after then [.name propsParameter] else []) := by
  cases read with
  | named | fromArguments => rw [if_neg noProps]
  | added => rfl
  | @moved mark pattern others target _ _ _ =>
    have isThere : propsParameter ∈ boundBy (⟨mark, .name propsParameter⟩ :: others) := List.mem_cons_self
    rw [if_pos isThere]
    exact ((List.perm_append_singleton pattern _).cons _).trans
      ((List.Perm.swap ..).trans ((List.perm_append_singleton _ _).symm.cons pattern))

/-- Every parameter keeps its default value, and a rest parameter stays one. -/
theorem marks (read : Of function parameters reading after patterns) :
    after.map (·.mark) = if function.is .arrowFunctionExpression && parameters.isEmpty then [.plain]
      else parameters.map (·.mark) := by
  cases read with
  | named | moved => simp
  | fromArguments noArrow => simp [noArrow]
  | added isArrow => simp [isArrow]

theorem keepsScope (read : Of function parameters reading after patterns)
    (areParameters : function.parameters? = some parameters)
    (areAfter : reading.function.parameters? = some after) (distinct : (boundBy parameters).Nodup)
    (noProps : propsParameter ∉ boundBy parameters) (noArguments : argumentsObject ∉ boundBy parameters)
    (world : World α) (given : List (Denoted α)) : world.KeepsScope function parameters reading given := by
  cases read with
  | named => exact World.keepsScope_named areParameters distinct noArguments
  | fromArguments noArrow plain =>
    exact World.keepsScope_fromArguments areParameters distinct noArguments noArrow plain
  | added isArrow sameKind => exact World.keepsScope_added areParameters areAfter sameKind isArrow
  | moved sameKind isPlain =>
    exact World.keepsScope_moved areParameters isPlain areAfter sameKind distinct noProps noArguments

end PropsReading.Of

/-- The names that patterns bind after the patterns were moved. -/
theorem perm_names {parameters after : List Parameter} {patterns : List Pattern}
    (moved : (after.map (·.pattern) ++ patterns).Perm
      (parameters.map (·.pattern) ++ if propsParameter ∈ boundBy after then [.name propsParameter] else [])) :
    (boundBy after ++ patterns.flatMap Pattern.names).Perm
      (boundBy parameters ++ if propsParameter ∈ boundBy after then [propsParameter] else []) := by
  have names := moved.flatMap_right Pattern.names
  rw [List.flatMap_append, List.flatMap_append, List.flatMap_map, List.flatMap_map] at names
  split at names
  · rename_i isThere
    rw [if_pos isThere]
    exact names
  · rename_i isAbsent
    rw [if_neg isAbsent]
    exact names

/-- Reading the props of a function with well-formed parameters loses no name and no parameter, and every default
value and every rest stays where it is; only an arrow without parameters gets one. Whatever the function is called
with, in its body every name stands for what it stood for, and the expression gives the first argument. -/
theorem Node.readProps_keepsScope {function : Node} {parameters : List Parameter}
    (wellFormed : function.parameters? = some parameters) (distinct : (boundBy parameters).Nodup)
    (noProps : propsParameter ∉ boundBy parameters) (noArguments : argumentsObject ∉ boundBy parameters) :
    ∃ reading after patterns, function.readProps = .ok reading ∧ reading.function.parameters? = some after ∧
      constantPatterns? reading.prelude = some patterns ∧
      function.parameterNames = .ok ((boundBy parameters).map Scalar.text) ∧
      reading.function.parameterNames = .ok ((boundBy after).map Scalar.text) ∧
      declaredNames (reading.prelude.map .node) = .ok ((patterns.flatMap Pattern.names).map Scalar.text) ∧
      (boundBy after ++ patterns.flatMap Pattern.names).Perm
        (boundBy parameters ++ if propsParameter ∈ boundBy after then [propsParameter] else []) ∧
      (after.map (·.pattern) ++ patterns).Perm
        (parameters.map (·.pattern) ++ if propsParameter ∈ boundBy after then [.name propsParameter] else []) ∧
      after.map (·.mark) = (if function.is .arrowFunctionExpression && parameters.isEmpty then [.plain]
        else parameters.map (·.mark)) ∧
      ∀ {α : Type} (world : World α) (given : List (Denoted α)), world.KeepsScope function parameters
        reading given := by
  obtain ⟨reading, after, patterns, read, areAfter, isRead⟩ := Node.readsProps wellFormed
  have moved := isRead.perm_patterns noProps
  exact ⟨reading, after, patterns, read, areAfter, isRead.constantPatterns?,
    parameterNames_of_parameters? wellFormed,
    parameterNames_of_parameters? areAfter, isRead.declaredNames, perm_names moved, moved, isRead.marks,
    fun world given => isRead.keepsScope wellFormed areAfter distinct noProps noArguments world given⟩

/-- Numbers, arrays and objects. -/
inductive SmallValue
  | number (value : Int)
  | array (items : List (Denoted SmallValue))
  | object (members : List (String × Denoted SmallValue))

/-- What is under a key of such a value. -/
def SmallValue.member : SmallValue → String → Denoted SmallValue
  | .number _, _ => .undefined
  | .array items, key => ((items.zipIdx.map fun (item, place) => (toString place, item)).lookup key).getD .undefined
  | .object members, key => (members.lookup key).getD .undefined

theorem SmallValue.member_zero (items : List (Denoted SmallValue)) :
    (array items).member "0" = firstGiven items := by
  cases items <;> rfl

/-- A world of these values, in which default values are numbers. -/
def smallWorld : World SmallValue where
  constant
    | .node literal =>
      match literal.get? .value with
      | some (.scalar (.int value)) => .value (.number value)
      | _ => .undefined
    | _ => .undefined
  computedKey _ := ""
  isObject _ := true
  member value key := some (value.member key)
  others
    | .object members, keys => some (.object (members.filter fun member => !keys.contains member.1))
    | _, _ => some (.object [])
  isIterable
    | .array _ => true
    | _ => false
  item
    | .array items, place => some (items.getD place .undefined)
    | _, _ => none
  itemsFrom
    | .array items, place => some (.array (items.drop place))
    | _, _ => none
  array := .array
  arguments := .array
  first_array given := congrArg some (SmallValue.member_zero given)
  first_arguments given := congrArg some (SmallValue.member_zero given)

/-- `({a = 1, ...b}, c) => null` -/
def Node.destructuringArrow : Node :=
  let one := make .literal [(.value, .scalar (.int 1))]
  let usual := make .assignmentPattern [(.left, .node (identifier "a")), (.right, .node one)]
  let rest := make .restElement [(.argument, .node (identifier "b"))]
  make .arrowFunctionExpression
    [(.params, .list [.node (objectPattern [property (identifier "a") usual true, rest]), .node (identifier "c")])]

/-- Called with an object that has no `a`, the arrow binds the default value to `a`, and reads the object. -/
theorem Node.readProps_keepsScope_destructuring :
    let given : Denoted SmallValue := .value (.object [("d", .value (.number 2))])
    ∃ reading inner, destructuringArrow.readProps = .ok reading ∧
      smallWorld.scopeBehind? reading.function reading.prelude [given] = some inner ∧
      inner.lookup "a" = some (.value (.number 1)) ∧ smallWorld.evaluate? inner reading.props = some given := by
  intro given
  obtain ⟨parameters, wellFormed, names, props⟩ : ∃ parameters, destructuringArrow.parameters? = some parameters ∧
    boundBy parameters = ["a", "b", "c"] ∧ smallWorld.props parameters [given] = given := ⟨_, rfl, rfl, rfl⟩
  obtain ⟨scope, isScope, isUsual⟩ : ∃ scope, smallWorld.bodyScope? destructuringArrow [given] = some scope ∧
    scope.lookup "a" = some (.value (.number 1)) := ⟨_, rfl, rfl⟩
  obtain ⟨reading, _, _, read, _, _, _, _, _, _, _, _, keeps⟩ := readProps_keepsScope wellFormed
    (by rw [names]; decide) (by rw [names]; decide) (by rw [names]; decide)
  obtain ⟨inner, isInner, agree, gives⟩ := (keeps smallWorld [given]).2 scope isScope
  obtain ⟨_, isBefore, isBehind⟩ := agree "a" (by rw [names]; decide)
  rw [isUsual] at isBefore
  cases isBefore
  exact ⟨reading, inner, read, isInner, isBehind, gives.trans (congrArg some props)⟩

end JsxRouting
