import JsxRouting.Proofs.KeptNames

namespace JsxRouting

/-- How a property is named: by an expression if it is computed, else by a name or a literal. -/
structure PropertyKey where
  computed : Bool
  key : Value

mutual

/-- A binding pattern. -/
inductive Pattern
  | name (name : String)
  | object (properties : PatternProperties)
  | array (items : PatternItems)

/-- The properties of an object pattern. What is left of the object can be bound last. -/
inductive PatternProperties
  | nil
  | rest (name : String)
  | cons (key : PropertyKey) (target : Pattern) (usual : Option Value) (others : PatternProperties)

/-- The items of an array pattern. What is left of the items can be bound last. -/
inductive PatternItems
  | nil
  | rest (target : Pattern)
  | hole (others : PatternItems)
  | cons (target : Pattern) (usual : Option Value) (others : PatternItems)

end

/-- What stands around the pattern of a parameter. -/
inductive ParameterMark
  | plain
  | usual (value : Value)
  | rest

structure Parameter where
  mark : ParameterMark
  pattern : Pattern

section Names

mutual

/-- The names that a pattern binds, in the order in which they are written. -/
def Pattern.names : Pattern → List String
  | .name name => [name]
  | .object properties => properties.names
  | .array items => items.names

def PatternProperties.names : PatternProperties → List String
  | .nil => []
  | .rest name => [name]
  | .cons _ target _ others => target.names ++ others.names

def PatternItems.names : PatternItems → List String
  | .nil => []
  | .rest target => target.names
  | .hole others => others.names
  | .cons target _ others => target.names ++ others.names

end

/-- The names that parameters bind. -/
def boundBy (parameters : List Parameter) : List String := parameters.flatMap (·.pattern.names)

end Names

section Reading

/-- The pattern, if nothing stands around it. -/
def Parameter.plain? (parameter : Parameter) : Option Pattern :=
  match parameter.mark with
  | .plain => some parameter.pattern
  | _ => none

/-- An item in front of others. A rest stands in front of none. -/
def PatternItems.add? (parameter : Parameter) (others : PatternItems) : Option PatternItems :=
  match parameter.mark, others with
  | .plain, others => some (.cons parameter.pattern none others)
  | .usual value, others => some (.cons parameter.pattern (some value) others)
  | .rest, .nil => some (.rest parameter.pattern)
  | .rest, _ => none

/-- A property with this key in front of others. -/
def PatternProperties.add? (key : PropertyKey) (parameter : Parameter) (others : PatternProperties) :
    Option PatternProperties :=
  match parameter.mark with
  | .plain => some (.cons key parameter.pattern none others)
  | .usual value => some (.cons key parameter.pattern (some value) others)
  | .rest => none

/-- What is left of an object in front of nothing. It has a name. -/
def PatternProperties.addRest? (target : Pattern) (others : PatternProperties) : Option PatternProperties :=
  match target, others with
  | .name name, .nil => some (.rest name)
  | _, _ => none

/-- The text that is the name of an identifier. -/
def identifierName? (fields : List (Field × Value)) : Option String :=
  match fields.lookup .name with
  | some (.scalar (.text name)) => some name
  | _ => none

/-- The key of a property. -/
def propertyKey? (fields : List (Field × Value)) : Option PropertyKey :=
  match fields.lookup .computed, fields.lookup .key with
  | some (.scalar (.bool computed)), some key => some ⟨computed, key⟩
  | _, _ => none

mutual

/-- The parameter, or the part of a pattern, that a value is. -/
def Value.parameter? : Value → Option Parameter
  | .node (.mk kind fields _ _) =>
    match kind with
    | .identifier => do return ⟨.plain, .name (← identifierName? fields)⟩
    | .objectPattern => do return ⟨.plain, .object (← propertiesIn? fields)⟩
    | .arrayPattern => do return ⟨.plain, .array (← itemsIn? fields)⟩
    | .assignmentPattern => do return ⟨.usual (← fields.lookup .right), ← (← parameterIn? .left fields).plain?⟩
    | .restElement => do return ⟨.rest, ← (← parameterIn? .argument fields).plain?⟩
    | _ => none
  | _ => none

def parameterIn? (wanted : Field) : List (Field × Value) → Option Parameter
  | [] => none
  | (field, value) :: others => if field = wanted then value.parameter? else parameterIn? wanted others

def propertiesIn? : List (Field × Value) → Option PatternProperties
  | [] => none
  | (field, value) :: others => if field = .properties then listedProperties? value else propertiesIn? others

def listedProperties? : Value → Option PatternProperties
  | .list items => patternProperties? items
  | _ => none

def patternProperties? : List Value → Option PatternProperties
  | [] => some .nil
  | .node (.mk kind fields _ _) :: others =>
    match kind with
    | .property => do (← patternProperties? others).add? (← propertyKey? fields) (← parameterIn? .value fields)
    | .restElement => do (← patternProperties? others).addRest? (← (← parameterIn? .argument fields).plain?)
    | _ => none
  | _ => none

def itemsIn? : List (Field × Value) → Option PatternItems
  | [] => none
  | (field, value) :: others => if field = .elements then listedItems? value else itemsIn? others

def listedItems? : Value → Option PatternItems
  | .list items => patternItems? items
  | _ => none

def patternItems? : List Value → Option PatternItems
  | [] => some .nil
  | .scalar .null :: others => do return .hole (← patternItems? others)
  | item :: others => do (← patternItems? others).add? (← item.parameter?)

end

/-- A parameter in front of others. A rest parameter stands in front of none. -/
def addParameter? (parameter : Parameter) (others : List Parameter) : Option (List Parameter) :=
  match parameter.mark, others with
  | .rest, _ :: _ => none
  | _, _ => some (parameter :: others)

/-- The parameters that values are, if they are well-formed. -/
def parameters? : List Value → Option (List Parameter)
  | [] => some []
  | item :: others => do addParameter? (← item.parameter?) (← parameters? others)

/-- The parameters of a function, if they are well-formed. -/
def Node.parameters? (function : Node) : Option (List Parameter) :=
  match function.get? .params with
  | some (.list items) => JsxRouting.parameters? items
  | _ => none

end Reading

section Parts

theorem addParameter?_eq_some {parameter : Parameter} {others parameters : List Parameter} :
    addParameter? parameter others = some parameters ↔
      parameters = parameter :: others ∧ (parameter.mark = .rest → others = []) := by
  obtain ⟨mark, pattern⟩ := parameter
  cases mark with
  | plain | usual => simp [addParameter?, eq_comm]
  | rest =>
    cases others with
    | nil => simp [addParameter?, eq_comm]
    | cons => simp [addParameter?]

theorem parameters?_cons_eq_some {item : Value} {others : List Value} {parameters : List Parameter} :
    parameters? (item :: others) = some parameters ↔
      ∃ parameter behind, item.parameter? = some parameter ∧ parameters? others = some behind ∧
        parameters = parameter :: behind ∧ (parameter.mark = .rest → behind = []) := by
  constructor
  · intro areParameters
    obtain ⟨parameter, isParameter, areParameters⟩ := Option.bind_eq_some_iff.mp areParameters
    obtain ⟨behind, areOthers, added⟩ := Option.bind_eq_some_iff.mp areParameters
    exact ⟨parameter, behind, isParameter, areOthers, addParameter?_eq_some.mp added⟩
  · rintro ⟨parameter, behind, isParameter, areOthers, added⟩
    rw [parameters?, isParameter, areOthers]
    exact addParameter?_eq_some.mpr added

theorem parameterIn?_eq (wanted : Field) (fields : List (Field × Value)) :
    parameterIn? wanted fields = (fields.lookup wanted).bind Value.parameter? := by
  induction fields with
  | nil => rfl
  | cons entry others ih =>
    obtain ⟨field, value⟩ := entry
    rw [parameterIn?, List.lookup_cons]
    by_cases here : field = wanted
    · subst here
      rw [if_pos rfl, beq_self_eq_true]
      rfl
    · rw [if_neg here, beq_eq_false_iff_ne.mpr (Ne.symm here), ih]

theorem Parameter.plain?_eq_some {parameter : Parameter} {pattern : Pattern}
    (isPlain : parameter.plain? = some pattern) :
    parameter = ⟨.plain, pattern⟩ := by
  obtain ⟨mark, _⟩ := parameter
  cases mark with
  | plain =>
    cases isPlain
    rfl
  | usual | rest => cases isPlain

theorem exists_plainIn {wanted : Field} {fields : List (Field × Value)} {parameter : Parameter} {pattern : Pattern}
    (isParameter : parameterIn? wanted fields = some parameter) (isPlain : parameter.plain? = some pattern) :
    ∃ value, fields.lookup wanted = some value ∧ value.parameter? = some ⟨.plain, pattern⟩ := by
  rw [parameterIn?_eq] at isParameter
  obtain rfl := Parameter.plain?_eq_some isPlain
  exact Option.bind_eq_some_iff.mp isParameter

theorem lookup_of_identifierName? {fields : List (Field × Value)} {name : String}
    (isName : identifierName? fields = some name) : fields.lookup .name = some (.text name) := by
  unfold identifierName? at isName
  split at isName
  · rename_i found
    cases isName
    exact found
  · cases isName

/-- What a node is that is a parameter: a name, a pattern, or one of them with something around it. -/
inductive Node.IsParameter (node : Node) : Parameter → Prop
  | name {name : String} : node.kind = .identifier → node.fields.lookup .name = some (.text name) →
      IsParameter node ⟨.plain, .name name⟩
  | pattern {pattern : Pattern} : node.kind = .objectPattern ∨ node.kind = .arrayPattern →
      (∀ name, pattern ≠ .name name) → IsParameter node ⟨.plain, pattern⟩
  | usual {usual target : Value} {pattern : Pattern} : node.kind = .assignmentPattern →
      node.fields.lookup .right = some usual → node.fields.lookup .left = some target →
      target.parameter? = some ⟨.plain, pattern⟩ → IsParameter node ⟨.usual usual, pattern⟩
  | rest {target : Value} {pattern : Pattern} : node.kind = .restElement →
      node.fields.lookup .argument = some target → target.parameter? = some ⟨.plain, pattern⟩ →
      IsParameter node ⟨.rest, pattern⟩

theorem exists_isParameter {value : Value} {parameter : Parameter}
    (isParameter : value.parameter? = some parameter) :
    ∃ node, value = .node node ∧ node.IsParameter parameter := by
  cases value with
  | scalar | list | object => cases isParameter
  | node node =>
    refine ⟨node, rfl, ?_⟩
    obtain ⟨kind, fields, extra, attached⟩ := node
    rw [Value.parameter?.eq_def] at isParameter
    dsimp only at isParameter
    split at isParameter
    · obtain ⟨name, isName, isParameter⟩ := Option.bind_eq_some_iff.mp isParameter
      cases isParameter
      exact .name rfl (lookup_of_identifierName? isName)
    · obtain ⟨properties, areProperties, isParameter⟩ := Option.bind_eq_some_iff.mp isParameter
      cases isParameter
      exact .pattern (.inl rfl) nofun
    · obtain ⟨items, areItems, isParameter⟩ := Option.bind_eq_some_iff.mp isParameter
      cases isParameter
      exact .pattern (.inr rfl) nofun
    · obtain ⟨usual, isUsual, isParameter⟩ := Option.bind_eq_some_iff.mp isParameter
      obtain ⟨left, isLeft, isParameter⟩ := Option.bind_eq_some_iff.mp isParameter
      obtain ⟨pattern, isPlain, isParameter⟩ := Option.bind_eq_some_iff.mp isParameter
      obtain ⟨target, found, isTarget⟩ := exists_plainIn isLeft isPlain
      cases isParameter
      exact .usual rfl isUsual found isTarget
    · obtain ⟨argument, isArgument, isParameter⟩ := Option.bind_eq_some_iff.mp isParameter
      obtain ⟨pattern, isPlain, isParameter⟩ := Option.bind_eq_some_iff.mp isParameter
      obtain ⟨target, found, isTarget⟩ := exists_plainIn isArgument isPlain
      cases isParameter
      exact .rest rfl found isTarget
    · cases isParameter

theorem parameter?_usual {node : Node} {usual target : Value} {pattern : Pattern}
    (isKind : node.kind = .assignmentPattern)
    (isUsual : node.fields.lookup .right = some usual) (isTarget : node.fields.lookup .left = some target)
    (isPlain : target.parameter? = some ⟨.plain, pattern⟩) :
    (Value.node node).parameter? = some ⟨.usual usual, pattern⟩ := by
  obtain ⟨kind, fields, extra, attached⟩ := node
  obtain rfl : kind = .assignmentPattern := isKind
  have found : parameterIn? .left fields = some ⟨.plain, pattern⟩ := by
    rw [parameterIn?_eq]
    exact Option.bind_eq_some_iff.mpr ⟨target, isTarget, isPlain⟩
  have right : fields.lookup .right = some usual := isUsual
  rw [Value.parameter?, right, found]
  rfl

theorem parameter?_rest {node : Node} {target : Value} {pattern : Pattern} (isKind : node.kind = .restElement)
    (isTarget : node.fields.lookup .argument = some target) (isPlain : target.parameter? = some ⟨.plain, pattern⟩) :
    (Value.node node).parameter? = some ⟨.rest, pattern⟩ := by
  obtain ⟨kind, fields, extra, attached⟩ := node
  obtain rfl : kind = .restElement := isKind
  have found : parameterIn? .argument fields = some ⟨.plain, pattern⟩ := by
    rw [parameterIn?_eq]
    exact Option.bind_eq_some_iff.mpr ⟨target, isTarget, isPlain⟩
  rw [Value.parameter?, found]
  rfl

end Parts

section BoundNames

theorem PatternItems.names_add {parameter : Parameter} {others items : PatternItems}
    (added : others.add? parameter = some items) : items.names = parameter.pattern.names ++ others.names := by
  unfold add? at added
  split at added
  · cases added
    rfl
  · cases added
    rfl
  · cases added
    exact (List.append_nil _).symm
  · cases added

theorem PatternProperties.names_add {key : PropertyKey} {parameter : Parameter}
    {others properties : PatternProperties}
    (added : others.add? key parameter = some properties) :
    properties.names = parameter.pattern.names ++ others.names := by
  unfold add? at added
  split at added
  · cases added
    rfl
  · cases added
    rfl
  · cases added

theorem PatternProperties.names_addRest {target : Pattern} {others properties : PatternProperties}
    (added : others.addRest? target = some properties) : properties.names = target.names ++ others.names := by
  unfold addRest? at added
  split at added
  · cases added
    rfl
  · cases added

/-- The names of the parts of a list, given those of its first part and those of the rest. -/
theorem namesOfItems_cons {part : PatternPart} {item : Value} {rest : List Value} {names more : List String}
    (here : item.namesAs part = .ok (names.map Value.text))
    (behind : namesOfItems part rest = .ok (more.map Value.text)) :
    namesOfItems part (item :: rest) = .ok ((names ++ more).map Value.text) := by
  rw [namesOfItems, here, behind, List.map_append]
  rfl

theorem nameIn_of_identifierName? {fields : List (Field × Value)} {name : String}
    (isName : identifierName? fields = some name) :
    nameIn fields = .ok (.text name) := by
  simp only [nameIn, lookup_of_identifierName? isName]

mutual

/-- What a parameter or a part of a pattern binds are the names of its pattern. -/
theorem names_parameter? : ∀ {value : Value} {parameter : Parameter}, value.parameter? = some parameter →
    value.namesAs .pattern = .ok (parameter.pattern.names.map Value.text)
  | .node (.mk kind fields _ _), parameter, isParameter => by
    rw [Value.parameter?.eq_def] at isParameter
    rw [Value.namesAs.eq_def]
    dsimp only at isParameter ⊢
    split at isParameter
    · obtain ⟨name, isName, isParameter⟩ := Option.bind_eq_some_iff.mp isParameter
      cases isParameter
      simp only [nameIn_of_identifierName? isName]
      rfl
    · obtain ⟨properties, areProperties, isParameter⟩ := Option.bind_eq_some_iff.mp isParameter
      cases isParameter
      exact names_propertiesIn? areProperties
    · obtain ⟨items, areItems, isParameter⟩ := Option.bind_eq_some_iff.mp isParameter
      cases isParameter
      exact names_itemsIn? areItems
    · obtain ⟨usual, _, isParameter⟩ := Option.bind_eq_some_iff.mp isParameter
      obtain ⟨target, isTarget, isParameter⟩ := Option.bind_eq_some_iff.mp isParameter
      obtain ⟨pattern, isPlain, isParameter⟩ := Option.bind_eq_some_iff.mp isParameter
      obtain rfl := Parameter.plain?_eq_some isPlain
      have bound := names_parameterIn? isTarget
      cases isParameter
      exact bound
    · obtain ⟨target, isTarget, isParameter⟩ := Option.bind_eq_some_iff.mp isParameter
      obtain ⟨pattern, isPlain, isParameter⟩ := Option.bind_eq_some_iff.mp isParameter
      obtain rfl := Parameter.plain?_eq_some isPlain
      have bound := names_parameterIn? isTarget
      cases isParameter
      exact bound
    · cases isParameter
  | .scalar _, _, isParameter | .list _, _, isParameter | .object _, _, isParameter => by cases isParameter

theorem names_parameterIn? {wanted : Field} : ∀ {fields : List (Field × Value)} {parameter : Parameter},
    parameterIn? wanted fields = some parameter →
      namesInField wanted fields = .ok (parameter.pattern.names.map Value.text)
  | [], _, isParameter => by cases isParameter
  | (field, value) :: others, parameter, isParameter => by
    rw [parameterIn?] at isParameter
    rw [namesInField]
    split at isParameter
    · rename_i here
      rw [if_pos here]
      exact names_parameter? isParameter
    · rename_i elsewhere
      rw [if_neg elsewhere]
      exact names_parameterIn? isParameter

theorem names_propertiesIn? : ∀ {fields : List (Field × Value)} {properties : PatternProperties},
    propertiesIn? fields = some properties →
      namesInList .property .properties fields = .ok (properties.names.map Value.text)
  | [], _, areProperties => by cases areProperties
  | (field, value) :: others, properties, areProperties => by
    rw [propertiesIn?] at areProperties
    rw [namesInList]
    split at areProperties
    · rename_i here
      rw [if_pos here]
      exact names_listedProperties? areProperties
    · rename_i elsewhere
      rw [if_neg elsewhere]
      exact names_propertiesIn? areProperties

theorem names_listedProperties? : ∀ {value : Value} {properties : PatternProperties},
    listedProperties? value = some properties → namesListed .property value = .ok (properties.names.map Value.text)
  | .list _, _, areProperties => names_patternProperties? areProperties
  | .scalar _, _, areProperties | .node _, _, areProperties | .object _, _, areProperties => by cases areProperties

theorem names_patternProperties? : ∀ {items : List Value} {properties : PatternProperties},
    patternProperties? items = some properties →
      namesOfItems .property items = .ok (properties.names.map Value.text)
  | [], _, areProperties => by
    cases areProperties
    rfl
  | .node (.mk kind fields _ _) :: others, properties, areProperties => by
    rw [patternProperties?.eq_def] at areProperties
    dsimp only at areProperties
    split at areProperties
    · obtain ⟨behind, areOthers, areProperties⟩ := Option.bind_eq_some_iff.mp areProperties
      obtain ⟨key, _, areProperties⟩ := Option.bind_eq_some_iff.mp areProperties
      obtain ⟨parameter, isValue, added⟩ := Option.bind_eq_some_iff.mp areProperties
      rw [PatternProperties.names_add added]
      exact namesOfItems_cons (names_parameterIn? isValue) (names_patternProperties? areOthers)
    · obtain ⟨behind, areOthers, areProperties⟩ := Option.bind_eq_some_iff.mp areProperties
      obtain ⟨argument, isArgument, areProperties⟩ := Option.bind_eq_some_iff.mp areProperties
      obtain ⟨target, isPlain, added⟩ := Option.bind_eq_some_iff.mp areProperties
      obtain rfl := Parameter.plain?_eq_some isPlain
      rw [PatternProperties.names_addRest added]
      exact namesOfItems_cons (names_parameterIn? isArgument) (names_patternProperties? areOthers)
    · cases areProperties
  | .scalar _ :: _, _, areProperties | .list _ :: _, _, areProperties | .object _ :: _, _, areProperties => by
    cases areProperties

theorem names_itemsIn? : ∀ {fields : List (Field × Value)} {items : PatternItems},
    itemsIn? fields = some items → namesInList .pattern .elements fields = .ok (items.names.map Value.text)
  | [], _, areItems => by cases areItems
  | (field, value) :: others, items, areItems => by
    rw [itemsIn?] at areItems
    rw [namesInList]
    split at areItems
    · rename_i here
      rw [if_pos here]
      exact names_listedItems? areItems
    · rename_i elsewhere
      rw [if_neg elsewhere]
      exact names_itemsIn? areItems

theorem names_listedItems? : ∀ {value : Value} {items : PatternItems},
    listedItems? value = some items → namesListed .pattern value = .ok (items.names.map Value.text)
  | .list _, _, areItems => names_patternItems? areItems
  | .scalar _, _, areItems | .node _, _, areItems | .object _, _, areItems => by cases areItems

theorem names_patternItems? : ∀ {values : List Value} {items : PatternItems},
    patternItems? values = some items → namesOfItems .pattern values = .ok (items.names.map Value.text)
  | [], _, areItems => by
    cases areItems
    rfl
  | value :: others, items, areItems => by
    rw [patternItems?.eq_def] at areItems
    split at areItems
    · rename_i isEmpty
      cases isEmpty
    · rename_i same
      cases same
      obtain ⟨behind, areOthers, areItems⟩ := Option.bind_eq_some_iff.mp areItems
      cases areItems
      have hole : Value.null.namesAs .pattern = .ok (([] : List String).map Value.text) := rfl
      exact namesOfItems_cons hole (names_patternItems? areOthers)
    · rename_i same
      cases same
      obtain ⟨behind, areOthers, areItems⟩ := Option.bind_eq_some_iff.mp areItems
      obtain ⟨parameter, isParameter, added⟩ := Option.bind_eq_some_iff.mp areItems
      rw [PatternItems.names_add added]
      exact namesOfItems_cons (names_parameter? isParameter) (names_patternItems? areOthers)

end

/-- Parameters bind the names of their patterns. -/
theorem names_parameters? {items : List Value} {parameters : List Parameter}
    (areParameters : parameters? items = some parameters) :
    namesOfItems .pattern items = .ok ((boundBy parameters).map Value.text) := by
  induction items generalizing parameters with
  | nil =>
    cases areParameters
    rfl
  | cons item others ih =>
    obtain ⟨parameter, behind, isParameter, areOthers, rfl, _⟩ := parameters?_cons_eq_some.mp areParameters
    exact namesOfItems_cons (names_parameter? isParameter) (ih areOthers)

end BoundNames

end JsxRouting
