import JsxRouting.Proofs.BindingPatterns

namespace JsxRouting

/-- The name under which a function that is no arrow has its arguments. -/
def argumentsObject : String := "arguments"

/-- What an expression gives: `undefined`, or another value. -/
inductive Denoted (α : Type)
  | undefined
  | value (value : α)

/-- The first of the arguments: `undefined` if there is none. -/
def firstGiven {α : Type} (given : List (Denoted α)) : Denoted α := given.headD .undefined

/-- Where functions run: which values there are, and what is found in them. Default values are constants. -/
structure World (α : Type) where
  /-- What a default value gives. -/
  constant : Value → Denoted α
  /-- The key that a computed expression gives. -/
  computedKey : Value → String
  /-- Whether a value has members at all. -/
  isObject : α → Bool
  /-- What is under a key; reading it can fail. -/
  member : α → String → Option (Denoted α)
  /-- What is left of a value without some keys. -/
  others : α → List String → Option α
  /-- Whether a value has items. -/
  isIterable : α → Bool
  /-- The item at a place, `undefined` behind the last. -/
  item : α → Nat → Option (Denoted α)
  /-- An array of the items from a place on. -/
  itemsFrom : α → Nat → Option α
  /-- An array of what a rest parameter gets. -/
  array : List (Denoted α) → α
  /-- The object that holds the arguments of a function. -/
  arguments : List (Denoted α) → α
  first_array : ∀ given, member (array given) "0" = some (firstGiven given)
  first_arguments : ∀ given, member (arguments given) "0" = some (firstGiven given)

/-- What names stand for; the first entry of a name counts. -/
abbrev Scope (α : Type) := List (String × Denoted α)

variable {α : Type}

/-- The scope, if no name is declared twice. -/
def Scope.distinct? (scope : Scope α) : Option (Scope α) := if (scope.map (·.1)).Nodup then some scope else none

namespace World

variable (world : World α)

/-- The value, or the default value for what is `undefined`. -/
def orUsual : Denoted α → Option Value → Denoted α
  | .undefined, some usual => world.constant usual
  | denoted, _ => denoted

/-- The key that the key of a property or of a member stands for. -/
def keyText (key : PropertyKey) : String :=
  match key.key with
  | .node node =>
    match node.kind, node.get? .name, node.get? .value with
    | .identifier, some (.scalar (.text name)), _ => if key.computed then world.computedKey key.key else name
    | .literal, _, some (.scalar (.text text)) => text
    | .literal, _, some (.scalar (.int number)) => toString number
    | _, _, _ => world.computedKey key.key
  | other => world.computedKey other

end World

mutual

/-- What a pattern binds to a value. -/
def Pattern.bind (world : World α) : Pattern → Denoted α → Option (Scope α)
  | .name name, denoted => some [(name, denoted)]
  | .object properties, .value value => if world.isObject value then properties.bind world value [] else none
  | .array items, .value value => if world.isIterable value then items.bind world value 0 else none
  | _, .undefined => none

/-- What the properties of a pattern bind, after some keys were read. -/
def PatternProperties.bind (world : World α) : PatternProperties → α → List String → Option (Scope α)
  | .nil, _, _ => some []
  | .rest name, value, keys => do return [(name, .value (← world.others value keys))]
  | .cons key target usual others, value, keys => do
    let member ← world.member value (world.keyText key)
    let here ← target.bind world (world.orUsual member usual)
    let behind ← others.bind world value (keys ++ [world.keyText key])
    return here ++ behind

/-- What the items of a pattern bind, from a place on. -/
def PatternItems.bind (world : World α) : PatternItems → α → Nat → Option (Scope α)
  | .nil, _, _ => some []
  | .rest target, value, place => do target.bind world (.value (← world.itemsFrom value place))
  | .hole others, value, place => others.bind world value (place + 1)
  | .cons target usual others, value, place => do
    let item ← world.item value place
    let here ← target.bind world (world.orUsual item usual)
    let behind ← others.bind world value (place + 1)
    return here ++ behind

end

namespace World

variable (world : World α)

/-- What a parameter gets of the arguments that are left for it. -/
def received (mark : ParameterMark) (given : List (Denoted α)) : Denoted α :=
  match mark with
  | .plain => firstGiven given
  | .usual usual => world.orUsual (firstGiven given) (some usual)
  | .rest => .value (world.array given)

/-- What parameters bind to arguments. -/
def bindParameters : List Parameter → List (Denoted α) → Option (Scope α)
  | [], _ => some []
  | parameter :: others, given => do
    let here ← parameter.pattern.bind world (world.received parameter.mark given)
    let behind ← bindParameters others given.tail
    return here ++ behind

/-- What an identifier stands for. -/
def named? (scope : Scope α) (expression : Node) : Option (Denoted α) :=
  match expression.kind, expression.get? .name with
  | .identifier, some (.scalar (.text name)) => scope.lookup name
  | _, _ => none

/-- What an identifier gives, or a member of what it stands for. -/
def evaluate? (scope : Scope α) (expression : Node) : Option (Denoted α) :=
  match expression.kind, expression.get? .computed, expression.get? .object, expression.get? .property with
  | .memberExpression, some (.scalar (.bool computed)), some (.node object), some key =>
    match named? scope object with
    | some (.value value) => world.member value (world.keyText ⟨computed, key⟩)
    | _ => none
  | _, _, _, _ => named? scope expression

end World

/-- The pattern and the initial value of a statement that declares one constant. -/
def Node.constant? (statement : Node) : Option (Pattern × Node) :=
  match statement.kind, statement.get? .kind, statement.get? .declarations with
  | .variableDeclaration, some (.scalar (.text "const")), some (.list [.node declarator]) =>
    match declarator.kind, declarator.get? .id, declarator.get? .init with
    | .variableDeclarator, some target, some (.node init) => do return (← (← target.parameter?).plain?, init)
    | _, _, _ => none
  | _, _, _ => none

/-- The patterns of statements that declare a constant each. -/
def constantPatterns? (statements : List Node) : Option (List Pattern) :=
  statements.mapM fun statement => statement.constant?.map (·.1)

namespace World

variable (world : World α)

/-- What is seen after a statement that declares a constant. -/
def declare? (scope : Scope α) (statement : Node) : Option (Scope α) := do
  let (pattern, init) ← statement.constant?
  ((← pattern.bind world (← world.evaluate? scope init)) ++ scope).distinct?

/-- What a function has its arguments under, besides its parameters. -/
def ownArguments (function : Node) (given : List (Denoted α)) : Scope α :=
  if function.is .arrowFunctionExpression then [] else [(argumentsObject, .value (world.arguments given))]

/-- What the body of a function sees when the function is called. -/
def bodyScope? (function : Node) (given : List (Denoted α)) : Option (Scope α) := do
  ((← world.bindParameters (← function.parameters?) given) ++ world.ownArguments function given).distinct?

/-- What the body of a function sees behind statements that are put in front of it. -/
def scopeBehind? (function : Node) (statements : List Node) (given : List (Denoted α)) : Option (Scope α) := do
  statements.foldlM world.declare? (← world.bodyScope? function given)

end World

section Names

variable {world : World α}

mutual

/-- A pattern binds its names, in their order. -/
theorem Pattern.names_bind : ∀ {pattern : Pattern} {denoted : Denoted α} {scope : Scope α},
    pattern.bind world denoted = some scope → scope.map (·.1) = pattern.names
  | .name name, denoted, scope, bound => by
    cases bound
    rfl
  | .object properties, .value value, scope, bound => by
    rw [Pattern.bind] at bound
    split at bound
    · exact PatternProperties.names_bind bound
    · cases bound
  | .array items, .value value, scope, bound => by
    rw [Pattern.bind] at bound
    split at bound
    · exact PatternItems.names_bind bound
    · cases bound
  | .object _, .undefined, _, bound | .array _, .undefined, _, bound => by cases bound

theorem PatternProperties.names_bind : ∀ {properties : PatternProperties} {value : α} {keys : List String}
    {scope : Scope α}, properties.bind world value keys = some scope → scope.map (·.1) = properties.names
  | .nil, _, _, _, bound => by
    cases bound
    rfl
  | .rest name, _, _, _, bound => by
    obtain ⟨left, _, bound⟩ := Option.bind_eq_some_iff.mp bound
    cases bound
    rfl
  | .cons key target usual others, value, keys, _, bound => by
    obtain ⟨member, _, bound⟩ := Option.bind_eq_some_iff.mp bound
    obtain ⟨here, isTarget, bound⟩ := Option.bind_eq_some_iff.mp bound
    obtain ⟨behind, areOthers, bound⟩ := Option.bind_eq_some_iff.mp bound
    cases bound
    rw [List.map_append, Pattern.names_bind isTarget, PatternProperties.names_bind areOthers,
      PatternProperties.names]

theorem PatternItems.names_bind : ∀ {items : PatternItems} {value : α} {place : Nat}
    {scope : Scope α}, items.bind world value place = some scope → scope.map (·.1) = items.names
  | .nil, _, _, _, bound => by
    cases bound
    rfl
  | .rest target, _, _, _, bound => by
    obtain ⟨left, _, bound⟩ := Option.bind_eq_some_iff.mp bound
    exact Pattern.names_bind bound
  | .hole others, value, place, scope, bound => by
    have behind : others.bind world value (place + 1) = some scope := bound
    have named := PatternItems.names_bind behind
    exact named
  | .cons target usual others, value, place, _, bound => by
    obtain ⟨item, _, bound⟩ := Option.bind_eq_some_iff.mp bound
    obtain ⟨here, isTarget, bound⟩ := Option.bind_eq_some_iff.mp bound
    obtain ⟨behind, areOthers, bound⟩ := Option.bind_eq_some_iff.mp bound
    cases bound
    rw [List.map_append, Pattern.names_bind isTarget, PatternItems.names_bind areOthers, PatternItems.names]

end

/-- Parameters bind the names of their patterns. -/
theorem World.names_bindParameters {parameters : List Parameter} {given : List (Denoted α)} {scope : Scope α}
    (bound : world.bindParameters parameters given = some scope) :
    scope.map (·.1) = boundBy parameters := by
  induction parameters generalizing given scope with
  | nil =>
    cases bound
    rfl
  | cons parameter others ih =>
    obtain ⟨here, isHere, bound⟩ := Option.bind_eq_some_iff.mp bound
    obtain ⟨behind, areBehind, bound⟩ := Option.bind_eq_some_iff.mp bound
    cases bound
    rw [List.map_append, Pattern.names_bind isHere, ih areBehind]
    rfl

end Names

section Lookup

variable {first second : Scope α} {name : String}

theorem lookup_append_of_mem (second : Scope α) (member : name ∈ first.map (·.1)) :
    ∃ denoted, first.lookup name = some denoted ∧ (first ++ second).lookup name = some denoted := by
  obtain ⟨denoted, found⟩ : ∃ denoted, first.lookup name = some denoted := by
    obtain ⟨entry, isEntry, rfl⟩ := List.mem_map.mp member
    cases found : first.lookup entry.1 with
    | some denoted => exact ⟨denoted, rfl⟩
    | none => simpa using List.lookup_eq_none_iff.mp found entry isEntry
  exact ⟨denoted, found, by rw [List.lookup_append, found, Option.some_or]⟩

theorem lookup_append_of_notMem (absent : name ∉ first.map (·.1)) :
    (first ++ second).lookup name = second.lookup name := by
  have nothing : first.lookup name = none := by
    refine List.lookup_eq_none_iff.mpr fun entry isEntry => ?_
    have differs : name ≠ entry.1 := fun same => absent (same ▸ List.mem_map_of_mem isEntry)
    exact bne_iff_ne.mpr differs
  rw [List.lookup_append, nothing, Option.none_or]

end Lookup

namespace World

variable {world : World α} {scope : Scope α} {name : String}

theorem evaluate?_identifier : world.evaluate? scope (.identifier name) = scope.lookup name := rfl

theorem evaluate?_firstElement {value : α} (found : scope.lookup name = some (.value value)) :
    world.evaluate? scope (.firstElement (.identifier name)) = world.member value "0" := by
  have named : named? scope (.identifier name) = some (.value value) := found
  show (match named? scope (.identifier name) with
    | some (.value value) => world.member value (world.keyText ⟨true, .node Node.zeroLiteral⟩)
    | _ => none) = _
  rw [named]
  rfl

theorem names_ownArguments (function : Node) (given : List (Denoted α)) :
    (world.ownArguments function given).map (·.1) = [] ∨
      (world.ownArguments function given).map (·.1) = [argumentsObject] := by
  unfold ownArguments
  split
  · exact .inl rfl
  · exact .inr rfl

theorem ownArguments_of_kind {function after : Node} (sameKind : after.kind = function.kind)
    (given : List (Denoted α)) :
    world.ownArguments after given = world.ownArguments function given := by
  unfold ownArguments Node.is
  rw [sameKind]

/-- Besides distinct names none of which is that of the arguments, a function sees its arguments under that name. -/
theorem nodup_append_ownArguments (world : World α) {bindings : Scope α} (distinct : (bindings.map (·.1)).Nodup)
    (noArguments : argumentsObject ∉ bindings.map (·.1)) (function : Node) (given : List (Denoted α)) :
    ((bindings ++ world.ownArguments function given).map (·.1)).Nodup := by
  rw [List.map_append]
  rcases names_ownArguments function given with nothing | own
  · rwa [nothing, List.append_nil]
  · rw [own]
    refine List.nodup_append.mpr ⟨distinct, by simp, fun name member other isArguments same => noArguments ?_⟩
    rwa [← List.mem_singleton.mp isArguments, ← same]

theorem bodyScope?_eq {function : Node} {parameters : List Parameter}
    (areParameters : function.parameters? = some parameters)
    (distinct : (boundBy parameters).Nodup) (noArguments : argumentsObject ∉ boundBy parameters)
    (given : List (Denoted α)) :
    world.bodyScope? function given =
      (world.bindParameters parameters given).map (· ++ world.ownArguments function given) := by
  rw [bodyScope?, areParameters]
  cases bound : world.bindParameters parameters given with
  | none => simp [bound]
  | some bindings =>
    rw [← names_bindParameters bound] at distinct noArguments
    have apart := world.nodup_append_ownArguments distinct noArguments function given
    simp only [Option.bind_eq_bind, Option.bind_some, bound, Scope.distinct?, if_pos apart, Option.map_some]

end World

end JsxRouting
