import JsxRouting.Proofs.LocalNames

namespace JsxRouting

namespace Value

/-- Whether a value that stands for a pattern binds the name. -/
def Binds (pattern : Value) (name : Scalar) : Prop := ∃ names, pattern.boundNames = .ok names ∧ .scalar name ∈ names

/-- Whether an identifier with this name stands in the value, at any depth. -/
def Mentions (value : Value) (name : Scalar) : Prop :=
  ∃ child ∈ value.nodes, ∃ position identifier, child.at? position = some identifier ∧
    identifier.kind = .identifier ∧
    identifier.get? .name = some (.scalar name)

/-- Whether the name is mentioned in a default value that stands in a parameter, at any depth. -/
def MentionsInDefault (parameter : Value) (name : Scalar) : Prop :=
  ∃ child ∈ parameter.nodes, ∃ position wrapper usual, child.at? position = some wrapper ∧
    wrapper.kind = .assignmentPattern ∧ wrapper.get? .right = some usual ∧ usual.Mentions name

theorem binds_identifier {name : String} {other : Scalar} :
    (Value.node (.identifier name)).Binds other ↔ other = .text name := by
  have names : (Value.node (.identifier name)).boundNames = .ok [.text name] := rfl
  constructor
  · rintro ⟨_, bound, member⟩
    cases names.symm.trans bound
    exact Value.scalar.inj (List.mem_singleton.mp member)
  · rintro rfl
    exact ⟨_, names, List.mem_singleton_self _⟩

/-- A parameter with something around its pattern binds what the pattern binds. -/
theorem binds_wrapper {parameter : Node} {field : Field} (isWrapper : parameter.patternField? = some field)
    {name : Scalar} :
    (Value.node parameter).Binds name ↔ ∃ target, parameter.fields.lookup field = some target ∧
      target.Binds name := by
  unfold Binds boundNames
  rw [namesAs_wrapper isWrapper]
  simp only [namesInField_eq_ok]
  constructor
  · rintro ⟨names, ⟨target, isTarget, bound⟩, member⟩
    exact ⟨target, isTarget, names, bound, member⟩
  · rintro ⟨target, isTarget, names, bound, member⟩
    exact ⟨names, ⟨target, isTarget, bound⟩, member⟩

end Value

/-- Whether one of the parameters binds the name. -/
def ParametersBind (parameters : List Value) (name : Scalar) : Prop :=
  ∃ parameter ∈ parameters, parameter.Binds name

/-- The parameters bind the names that are read off them. -/
theorem parametersBind_iff {parameters : List Value} {names : List Scalar}
    (named : namesOfItems .pattern parameters = .ok (names.map .scalar)) {name : Scalar} :
    ParametersBind parameters name ↔ name ∈ names := by
  induction parameters generalizing names with
  | nil =>
    cases List.map_eq_nil_iff.mp (Except.ok.inj named).symm
    simp [ParametersBind]
  | cons parameter rest ih =>
    obtain ⟨here, behind, rfl, isParameter, isRest⟩ := namesOfItems_cons_eq_ok named
    have first : parameter.Binds name ↔ name ∈ here := by
      simp [Value.Binds, Value.boundNames, isParameter]
    rw [List.mem_append, ← first, ← ih isRest]
    simp [ParametersBind]

/-- The frame of an entry point in which a heading was found. -/
def Frame.heading : Frame := { isEntryPoint := true, tags := NameSet.ofList [.text "h1"] }

/-- Whether every name that the first parameter bound, and that a default value of the others mentions, is bound by
the parameters. -/
def DefaultsSee (first : Value) (rest parameters : List Value) : Prop :=
  ∀ name, (∃ parameter ∈ rest, parameter.MentionsInDefault name) → first.Binds name → ParametersBind parameters name

/-- A first parameter that made way for the props: what it bound the pattern binds, and in its place is the new
name. -/
structure MadeWay (first replaced pattern : Value) : Prop where
  pattern {name : Scalar} : first.Binds name → pattern.Binds name
  replaced {name other : Scalar} : first.Binds name → (replaced.Binds other ↔ other = .text propsParameter)

/-- If a statement takes a pattern apart in front of the body, the first parameter made way. -/
theorem PropsReading.From.madeWay {function : Node} {reading : PropsReading} (read : reading.From function)
    {pattern : Value} {others : List Node} (isPrelude : reading.prelude = .propsPrelude pattern :: others) :
    ∃ first rest replaced, function.get? .params = some (.list (first :: rest)) ∧
      reading.function.get? .params = some (.list (replaced :: rest)) ∧ MadeWay first replaced pattern := by
  cases read with
  | kept | added => cases isPrelude
  | @within parameter rest field _ isParams isWrapper =>
    obtain ⟨same, _⟩ := Node.constDeclaration_injective (List.cons.inj isPrelude).1
    subst same
    refine ⟨_, rest, _, isParams, Node.get?_set_self .., fun binds => ?_, fun {name other} binds => ?_⟩ <;>
      obtain ⟨target, isTarget, bound⟩ := (Value.binds_wrapper isWrapper).mp binds
    · rwa [Node.get?_of_lookup isTarget]
    · have stillWrapper :
        (parameter.set field (.node (.identifier propsParameter))).patternField? = some field := by
        rwa [Node.patternField?, Node.kind_set]
      rw [Value.binds_wrapper stillWrapper, Node.lookup_set_self _ isTarget]
      simp only [Option.some.injEq, exists_eq_left']
      exact Value.binds_identifier
  | whole _ isParams _ =>
    obtain ⟨same, _⟩ := Node.constDeclaration_injective (List.cons.inj isPrelude).1
    subst same
    exact ⟨_, _, _, isParams, Node.get?_set_self .., id, fun _ => Value.binds_identifier⟩

namespace Node

variable {function after : Node} {frame : Frame} {usesProvider : Bool} {pattern : Value} {others : List Value}

/-- What begins with taking a pattern apart was put in front of the body by reading the props. -/
theorem exists_reading (isEntryPoint : frame.isEntryPoint = true)
    (injected : function.injectDeclarations frame usesProvider = .ok (some after))
    (begins : after.bodyStatements = some (.node (propsPrelude pattern) :: others)) :
    ∃ (reading : PropsReading) (more : List Node), reading.From function ∧
      after.get? .params = reading.function.get? .params ∧
      reading.prelude = propsPrelude pattern :: more := by
  rw [injectDeclarations_eq, isEntryPoint] at injected
  split at injected
  · cases injected
  obtain ⟨prepared, ready, injected⟩ := bind_eq_ok_iff.mp injected
  obtain ⟨_, prepended, injected⟩ := bind_eq_ok_iff.mp injected
  cases injected
  obtain ⟨props, read⟩ := prepare_from ready
  refine ⟨_, prepared.prelude.tail, read, get?_prependToBody prepended (by decide) (by decide), ?_⟩
  obtain ⟨old, _, statements⟩ := bodyStatements_prependToBody prepended
  rw [begins] at statements
  cases isPrelude : prepared.prelude with
  | nil =>
    -- Without such a statement the components object comes first, which no parameter is declared by.
    rw [isPrelude] at statements
    have isFirst := Value.node.inj (List.cons.inj (Option.some.inj statements)).1
    cases congrArg Node.kind (Value.node.inj (constDeclaration_injective isFirst).2)
  | cons first rest =>
    rw [isPrelude] at statements
    rw [List.tail_cons, ← Value.node.inj (List.cons.inj (Option.some.inj statements)).1]

/-- When the first parameter of an entry point makes way for the props, the body takes its pattern apart, and its
names are bound by the parameters only where they were bound twice. So the default values of the other parameters
see all names that they saw exactly if they mention none that the first parameter alone had bound. -/
theorem injectDeclarations_defaultsSee_iff (isEntryPoint : frame.isEntryPoint = true)
    (injected : function.injectDeclarations frame usesProvider = .ok (some after))
    (begins : after.bodyStatements = some (.node (propsPrelude pattern) :: others)) :
    ∃ first rest replaced, function.get? .params = some (.list (first :: rest)) ∧
      after.get? .params = some (.list (replaced :: rest)) ∧
      (∀ name, first.Binds name → pattern.Binds name ∧
        (ParametersBind (replaced :: rest) name ↔ name = .text propsParameter ∨ ParametersBind rest name)) ∧
      (DefaultsSee first rest (replaced :: rest) ↔
        ∀ name, (∃ parameter ∈ rest, parameter.MentionsInDefault name) → first.Binds name →
          name = .text propsParameter ∨ ParametersBind rest name) := by
  obtain ⟨reading, more, read, isAfter, isPrelude⟩ := exists_reading isEntryPoint injected begins
  obtain ⟨first, rest, replaced, isBefore, isReplaced, madeWay⟩ := read.madeWay isPrelude
  have still {name : Scalar} (binds : first.Binds name) :
      ParametersBind (replaced :: rest) name ↔ name = .text propsParameter ∨ ParametersBind rest name := by
    simp only [ParametersBind, List.mem_cons, exists_eq_or_imp, madeWay.replaced binds]
  refine ⟨first, rest, replaced, isBefore, isAfter.trans isReplaced, fun name binds =>
    ⟨madeWay.pattern binds, still binds⟩, ?_⟩
  exact forall₃_congr fun name _ binds => still binds

/-- `b = a` -/
def defaultOfName : Node :=
  .make .assignmentPattern [(.left, .node (.identifier "b")), (.right, .node (.identifier "a"))]

/-- `{a}` -/
def shortPattern : Node := .objectPattern [.property (.identifier "a") (.identifier "a") true]

/-- `({a}, b = a) => {}` -/
def arrowWithDefault : Node :=
  .make .arrowFunctionExpression
    [(.params, .list [.node shortPattern, .node defaultOfName]), (.body, .node (.block []))]

/-- `function MDXContent({a} = {}, b = a) {}` -/
def pageWithDefault : Node :=
  .functionNamed entryPoint
    [.make .assignmentPattern [(.left, .node shortPattern), (.right, .node (.objectLiteral []))], defaultOfName] []

/-- In `({a}, b = a) => {}` the body declares `a`, and no parameter does any more. -/
theorem injectDeclarations_defaultsSee_arrow :
    ∃ after others, arrowWithDefault.injectDeclarations .heading false = .ok (some after) ∧
      after.bodyStatements = some (.node (propsPrelude (.node shortPattern)) :: others) ∧
      ∃ first rest replaced, arrowWithDefault.get? .params = some (.list (first :: rest)) ∧
        after.get? .params = some (.list (replaced :: rest)) ∧ first.Binds (.text "a") ∧
        (Value.node shortPattern).Binds (.text "a") ∧ ¬ ParametersBind (replaced :: rest) (.text "a") := by
  obtain ⟨after, others, injected, begins⟩ : ∃ after others,
      arrowWithDefault.injectDeclarations .heading false = .ok (some after) ∧
      after.bodyStatements = some (.node (propsPrelude (.node shortPattern)) :: others) := ⟨_, _, rfl, rfl⟩
  obtain ⟨first, rest, replaced, isBefore, isAfter, bound, _⟩ :=
    injectDeclarations_defaultsSee_iff rfl injected begins
  cases isBefore
  have binds : (Value.node shortPattern).Binds (.text "a") := ⟨_, rfl, List.mem_singleton_self _⟩
  have named : namesOfItems .pattern [.node defaultOfName] = .ok ([.text "b"].map .scalar) := rfl
  refine ⟨after, _, injected, begins, _, _, _, rfl, isAfter, binds, (bound _ binds).1, fun still => ?_⟩
  rw [(bound _ binds).2, parametersBind_iff named] at still
  exact absurd still (by decide)

/-- A default value loses a name of the first parameter, be that a pattern alone or a pattern with a default
value. -/
theorem injectDeclarations_not_defaultsSee :
    (∃ after pattern others replaced, arrowWithDefault.injectDeclarations .heading false = .ok (some after) ∧
      after.bodyStatements = some (.node (propsPrelude pattern) :: others) ∧
      after.get? .params = some (.list [replaced, .node defaultOfName]) ∧
      ¬ DefaultsSee (.node shortPattern) [.node defaultOfName] [replaced, .node defaultOfName]) ∧
    ∃ after pattern others first replaced, pageWithDefault.injectDeclarations .heading false = .ok (some after) ∧
      after.bodyStatements = some (.node (propsPrelude pattern) :: others) ∧
      pageWithDefault.get? .params = some (.list [first, .node defaultOfName]) ∧
      after.get? .params = some (.list [replaced, .node defaultOfName]) ∧
      ¬ DefaultsSee first [.node defaultOfName] [replaced, .node defaultOfName] := by
  have mentioned : (Value.node defaultOfName).MentionsInDefault (.text "a") :=
    ⟨_, List.mem_singleton_self _, [], _, _, rfl, rfl, rfl, _, List.mem_singleton_self _, [], _, rfl, rfl, rfl⟩
  have unseen {first replaced : Value} (binds : first.Binds (.text "a"))
      (named : namesOfItems .pattern [replaced, .node defaultOfName] =
        .ok ([.text propsParameter, .text "b"].map .scalar)) :
      ¬ DefaultsSee first [.node defaultOfName] [replaced, .node defaultOfName] := by
    intro sees
    have bound := sees _ ⟨_, List.mem_singleton_self _, mentioned⟩ binds
    rw [parametersBind_iff named] at bound
    exact absurd bound (by decide)
  exact ⟨⟨_, _, _, _, rfl, rfl, rfl, unseen ⟨_, rfl, List.mem_singleton_self _⟩ rfl⟩,
    _, _, _, _, _, rfl, rfl, rfl, rfl, unseen ⟨_, rfl, List.mem_singleton_self _⟩ rfl⟩

end Node

end JsxRouting
