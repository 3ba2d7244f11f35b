import JsxRouting.Proofs.FirstFailure
import JsxRouting.Proofs.RestoredData

namespace JsxRouting

namespace Json

/-- The `type` of an object. -/
def type? : Json → Option Json
  | .object members => members.lookup "type"
  | _ => none

/-- Whether the `type` of the object is the name of a kind. -/
def NamesKind (data : Json) : Prop := ∃ kind : Kind, data.type? = some (.text kind.name)

/-- What is said of a type that names no kind: a scalar is shown, and an array or object can name nothing. -/
def typeError : Json → Error
  | .scalar type => .unknownKind type
  | _ => .wrongShape

/-- Data that is reached in other data: in the items of arrays, and in the members of objects with a `type` that
have a key of the kind. -/
inductive Reaches : Json → Json → Prop
  | self {data : Json} : data.Reaches data
  | item {items : List Json} {item found : Json} : item ∈ items → item.Reaches found → (array items).Reaches found
  | member {members : Entries Json} {kind : Kind} {key : String} {value found : Json} :
      (object members).type? = some (.text kind.name) → key ∈ kind.keys → members.lookup key = some value →
      value.Reaches found → (object members).Reaches found

/-- The keys of the members that are read in an object with this type, in the order of the kind. -/
def readKeys (type : Json) : List String :=
  match Kind.ofType type with
  | .ok kind => kind.keys
  | .error _ => []

mutual

/-- The objects with a `type` that are reached: an object comes before those in its members, and these come in the
order of the keys of its kind. -/
def typedObjects : Json → List Json
  | .scalar _ => []
  | .array items => typedInItems items
  | .object members =>
    match members.lookup "type" with
    | none => []
    | some type => .object members :: (readKeys type).flatMap fun key =>
      ((typedInMembers members).lookup key).getD []

def typedInItems : List Json → List Json
  | [] => []
  | item :: rest => item.typedObjects ++ typedInItems rest

def typedInMembers : List (String × Json) → Entries (List Json)
  | [] => []
  | (key, value) :: rest => (key, value.typedObjects) :: typedInMembers rest

end

/-- The error of an object whose `type` names no kind. -/
def fault? (data : Json) : Option Error :=
  match data.type?.map Kind.ofType with
  | some (.error error) => some error
  | _ => none

end Json

section Types

theorem Kind.ofType_cases (type : Json) :
    (∃ kind : Kind, type = .text kind.name ∧ Kind.ofType type = .ok kind) ∨
      (∀ kind : Kind, type ≠ .text kind.name) ∧ Kind.ofType type = .error type.typeError := by
  by_cases named : ∃ kind : Kind, type = .text kind.name
  · obtain ⟨kind, rfl⟩ := named
    exact .inl ⟨kind, rfl, Kind.ofType_name kind⟩
  · refine .inr ⟨not_exists.mp named, ?_⟩
    cases outcome : Kind.ofType type with
    | ok kind => exact absurd ⟨kind, Kind.eq_text_of_ofType outcome⟩ named
    | error error =>
      unfold Kind.ofType at outcome
      split at outcome
      · split at outcome <;> cases outcome
        rfl
      · cases outcome
        rfl
      · rename_i noScalar
        cases outcome
        cases type with
        | scalar other => exact absurd rfl (noScalar other)
        | array | object => rfl

namespace Json

theorem fault?_eq_none_iff {data : Json} (typed : data.type?.isSome = true) :
    data.fault? = none ↔ data.NamesKind := by
  obtain ⟨type, isType⟩ := Option.isSome_iff_exists.mp typed
  unfold fault? NamesKind
  rw [isType, Option.map_some]
  rcases Kind.ofType_cases type with ⟨kind, rfl, isKind⟩ | ⟨noKind, failed⟩
  · rw [isKind]
    exact ⟨fun _ => ⟨kind, rfl⟩, fun _ => rfl⟩
  · rw [failed]
    exact ⟨nofun, fun ⟨kind, same⟩ => absurd (Option.some.inj same) (noKind kind)⟩

theorem fault?_eq_some_iff {data : Json} {error : Error} : data.fault? = some error ↔
    ¬ data.NamesKind ∧ ∃ type, data.type? = some type ∧ error = type.typeError := by
  unfold fault? NamesKind
  cases data.type? with
  | none => simp
  | some type =>
    rw [Option.map_some]
    rcases Kind.ofType_cases type with ⟨kind, rfl, isKind⟩ | ⟨noKind, failed⟩
    · rw [isKind]
      exact ⟨nofun, fun ⟨unnamed, _⟩ => absurd ⟨kind, rfl⟩ unnamed⟩
    · rw [failed]
      constructor
      · rintro ⟨⟩
        exact ⟨fun ⟨kind, same⟩ => noKind kind (Option.some.inj same), type, rfl, rfl⟩
      · rintro ⟨_, _, ⟨⟩, rfl⟩
        rfl

theorem readKeys_name (kind : Kind) : readKeys (.text kind.name) = kind.keys := by
  rw [readKeys, Kind.ofType_name]

theorem lookup_typedInMembers (members : Entries Json) (key : String) :
    (typedInMembers members).lookup key = (members.lookup key).map typedObjects := by
  induction members with
  | nil => rfl
  | cons entry rest ih =>
    rw [typedInMembers, List.lookup_cons, List.lookup_cons]
    split
    · rfl
    · exact ih

theorem typedInItems_eq (items : List Json) : typedInItems items = items.flatMap typedObjects := by
  induction items with
  | nil => rfl
  | cons item rest ih => rw [typedInItems, List.flatMap_cons, ih]

/-- An object with a `type` comes first, and behind it what is reached in its members. -/
theorem typedObjects_object {members : Entries Json} {type : Json} (isType : members.lookup "type" = some type) :
    (object members).typedObjects =
      .object members :: (readKeys type).flatMap fun key => ((members.lookup key).map typedObjects).getD [] := by
  simp only [typedObjects, isType, lookup_typedInMembers]

end Json

end Types

section Reached

namespace Json

theorem mem_typedObjects_of_reaches {data found : Json} (reaches : data.Reaches found)
    (typed : found.type?.isSome = true) : found ∈ data.typedObjects := by
  induction reaches with
  | @self data =>
    cases data with
    | scalar | array => cases typed
    | object members =>
      obtain ⟨type, isType⟩ := Option.isSome_iff_exists.mp typed
      rw [typedObjects_object isType]
      exact List.mem_cons_self
  | item member _ ih =>
    rw [typedObjects, typedInItems_eq]
    exact List.mem_flatMap.mpr ⟨_, member, ih typed⟩
  | member isType isKey isValue _ ih =>
    rw [typedObjects_object isType, readKeys_name]
    refine List.mem_cons_of_mem _ (List.mem_flatMap.mpr ⟨_, isKey, ?_⟩)
    rw [isValue]
    exact ih typed

mutual

theorem reaches_of_mem_typedObjects : ∀ (data : Json) {found : Json}, found ∈ data.typedObjects →
    data.Reaches found ∧ found.type?.isSome = true
  | .scalar _, _, member => by cases member
  | .array items, found, member => by
    obtain ⟨item, isItem, reaches, typed⟩ := reaches_of_mem_typedInItems items member
    exact ⟨.item isItem reaches, typed⟩
  | .object members, found, member => by
    cases isType : members.lookup "type" with
    | none =>
      simp only [typedObjects, isType] at member
      cases member
    | some type =>
      rw [typedObjects_object isType] at member
      obtain rfl | member := List.mem_cons.mp member
      · exact ⟨.self, by rw [type?, isType]; rfl⟩
      obtain ⟨key, isKey, inValue⟩ := List.mem_flatMap.mp member
      cases isValue : members.lookup key with
      | none =>
        rw [isValue] at inValue
        cases inValue
      | some value =>
        rw [isValue] at inValue
        have below := reaches_of_mem_typedInMembers members (mem_of_lookup isValue) inValue
        rcases Kind.ofType_cases type with ⟨kind, rfl, isKind⟩ | ⟨_, failed⟩
        · rw [readKeys_name] at isKey
          exact ⟨.member isType isKey isValue below.1, below.2⟩
        · rw [readKeys, failed] at isKey
          cases isKey

theorem reaches_of_mem_typedInItems : ∀ (items : List Json) {found : Json}, found ∈ typedInItems items →
    ∃ item ∈ items, item.Reaches found ∧ found.type?.isSome = true
  | [], _, member => by cases member
  | item :: rest, _, member => by
    obtain inItem | inRest := List.mem_append.mp member
    · exact ⟨item, List.mem_cons_self, reaches_of_mem_typedObjects item inItem⟩
    · obtain ⟨other, isOther, below⟩ := reaches_of_mem_typedInItems rest inRest
      exact ⟨other, List.mem_cons_of_mem _ isOther, below⟩

theorem reaches_of_mem_typedInMembers : ∀ (members : List (String × Json)) {key : String} {value found : Json},
    (key, value) ∈ members → found ∈ value.typedObjects → value.Reaches found ∧ found.type?.isSome = true
  | [], _, _, _, isEntry, _ => by cases isEntry
  | (_, first) :: rest, key, value, found, isEntry, member => by
    obtain same | isEntry := List.mem_cons.mp isEntry
    · obtain ⟨_, same⟩ := Prod.mk.inj same
      rw [same] at member ⊢
      exact reaches_of_mem_typedObjects first member
    · exact reaches_of_mem_typedInMembers rest isEntry member

end

/-- The list of the objects with a `type` holds those that are reached. -/
theorem mem_typedObjects {data found : Json} :
    found ∈ data.typedObjects ↔ data.Reaches found ∧ found.type?.isSome = true :=
  ⟨reaches_of_mem_typedObjects data, fun ⟨reaches, typed⟩ => mem_typedObjects_of_reaches reaches typed⟩

end Json

end Reached

section Reading

/-- Fields are read in their order. The mark of an element is no reading and adds no error. -/
theorem Node.fails_assembleFields {explicit : Bool} {readings : Entries (Except Error Value)}
    {errors : String → List Error}
    (each : ∀ key usual, FailsFirst ((readings.lookup key).getD (.ok usual)) (errors key))
    (schema : List (Field × Value)) :
    FailsFirst (assembleFields explicit readings schema)
      (((schema.map (·.1)).filter (· != .explicit)).flatMap fun field => errors field.toKey) := by
  induction schema with
  | nil => exact .pure []
  | cons entry rest ih =>
    obtain ⟨field, usual⟩ := entry
    have behind (value : Value) : FailsFirst (do return (field, value) :: (← assembleFields explicit readings rest))
        (((rest.map (·.1)).filter (· != .explicit)).flatMap fun field => errors field.toKey) :=
      ih.bind_ok fun values _ => ⟨(field, value) :: values, rfl⟩
    rw [assembleFields, List.map_cons]
    by_cases isMark : field = .explicit
    · subst isMark
      exact (FailsFirst.pure (Value.bool explicit)).bind fun value _ => behind value
    · have isKept : (field != Field.explicit) = true := bne_iff_ne.mpr isMark
      rw [if_neg isMark, List.filter_cons, if_pos isKept, List.flatMap_cons]
      exact (each field.toKey usual).bind fun value _ => behind value

/-- An object with a `type` is read with the error of its own type, or else with the first in its members. -/
theorem Node.fails_read_object {members : Entries Json} {type : Json} (isType : members.lookup "type" = some type)
    (each : ∀ entry ∈ members, FailsFirst (Value.read entry.2) (entry.2.typedObjects.filterMap Json.fault?)) :
    FailsFirst (Node.read (.object members)) ((Json.object members).typedObjects.filterMap Json.fault?) := by
  have isTyped : (Json.object members).type? = some type := isType
  have inMember (key : String) (usual : Value) :
    FailsFirst (((Value.readMembers members).lookup key).getD (.ok usual))
      (((members.lookup key).map Json.typedObjects).getD [] |>.filterMap Json.fault?) := by
    rw [lookup_readMembers]
    cases isValue : members.lookup key with
    | none => exact .pure usual
    | some value => exact each _ (mem_of_lookup isValue)
  rw [Json.typedObjects_object isType]
  simp only [Node.read, isType, Node.assemble]
  rcases Kind.ofType_cases type with ⟨kind, rfl, isKind⟩ | ⟨_, failed⟩
  · have fine : (Json.object members).fault? = none := by rw [Json.fault?, isTyped, Option.map_some, isKind]
    rw [isKind, List.filterMap_cons_none fine, List.filterMap_flatMap, Json.readKeys_name, Kind.keys,
      List.flatMap_map]
    exact (fails_assembleFields (fun key usual => inMember key usual) kind.schema).bind_ok fun fields _ => ⟨_, rfl⟩
  · have wrong : (Json.object members).fault? = some type.typeError := by
      rw [Json.fault?, isTyped, Option.map_some, failed]
    rw [failed, List.filterMap_cons_some wrong]
    rfl

mutual

/-- Reading fails with the error of the first object reached whose `type` names no kind. -/
theorem Value.fails_read : ∀ data : Json, FailsFirst (Value.read data) (data.typedObjects.filterMap Json.fault?)
  | .scalar value => .pure (Value.scalar value)
  | .array items => (Value.fails_readItems items).bind_ok fun values _ => ⟨.list values, rfl⟩
  | .object members => by
    cases isType : members.lookup "type" with
    | none =>
      simp only [Value.read, Json.typedObjects, isType]
      exact .pure _
    | some type =>
      rw [Value.read_object_of_type isType]
      have fails := Node.fails_read_object isType (Value.fails_readMembers members)
      rw [← List.append_nil (List.filterMap _ _)]
      exact fails.bind fun node _ => .pure (Value.node node)

theorem Value.fails_readItems : ∀ items : List Json,
    FailsFirst (Value.readItems items) ((Json.typedInItems items).filterMap Json.fault?)
  | [] => .pure []
  | item :: rest => by
    rw [Value.readItems, Json.typedInItems, List.filterMap_append]
    refine (Value.fails_read item).bind fun value _ => ?_
    exact (Value.fails_readItems rest).bind_ok fun values _ => ⟨value :: values, rfl⟩

theorem Value.fails_readMembers : ∀ members : List (String × Json), ∀ entry ∈ members,
    FailsFirst (Value.read entry.2) (entry.2.typedObjects.filterMap Json.fault?)
  | [], _, member => by cases member
  | (_, value) :: rest, entry, member => by
    obtain same | member := List.mem_cons.mp member
    · rw [same]
      exact Value.fails_read value
    · exact Value.fails_readMembers rest entry member

end

end Reading

section Outcome

theorem FailsFirst.eq_error_iff {α : Type} {run : Except Error α} {errors : List Error}
    (fails : FailsFirst run errors)
    {error : Error} : run = .error error ↔ ∃ rest, errors = error :: rest := by
  cases errors with
  | nil =>
    obtain ⟨value, rfl⟩ := fails
    exact ⟨nofun, nofun⟩
  | cons first rest =>
    obtain rfl : run = .error first := fails
    constructor
    · rintro ⟨⟩
      exact ⟨rest, rfl⟩
    · rintro ⟨_, same⟩
      rw [(List.cons.inj same).1]

theorem FailsFirst.exists_ok_iff {α : Type} {run : Except Error α} {errors : List Error}
    (fails : FailsFirst run errors) :
    (∃ value, run = .ok value) ↔ errors = [] := by
  cases errors with
  | nil => exact ⟨fun _ => rfl, fun _ => fails⟩
  | cons first rest =>
    obtain rfl : run = .error first := fails
    exact ⟨nofun, nofun⟩

namespace Node

variable {data : Json}

theorem read_untyped (untyped : data.type? = none) : Node.read data = .error (.notANode data.shape) := by
  cases data with
  | scalar | array => rfl
  | object members =>
    have noType : members.lookup "type" = none := untyped
    simp only [Node.read, noType]
    rfl

theorem fails_read (typed : data.type?.isSome = true) :
    FailsFirst (Node.read data) (data.typedObjects.filterMap Json.fault?) := by
  cases data with
  | scalar | array => cases typed
  | object members =>
    obtain ⟨type, isType⟩ := Option.isSome_iff_exists.mp typed
    exact fails_read_object isType (Value.fails_readMembers members)

theorem forall_fine_iff {objects : List Json} (inTyped : ∀ found ∈ objects, found ∈ data.typedObjects) :
    (∀ found ∈ objects, found.fault? = none) ↔ ∀ found ∈ objects, found.NamesKind :=
  forall₂_congr fun found member => Json.fault?_eq_none_iff (Json.mem_typedObjects.mp (inTyped found member)).2

theorem read_ok_iff (typed : data.type?.isSome = true) : (∃ node, Node.read data = .ok node) ↔
    ∀ found, data.Reaches found → found.type?.isSome = true → found.NamesKind := by
  rw [(fails_read typed).exists_ok_iff, List.filterMap_eq_nil_iff, forall_fine_iff fun _ member => member]
  exact forall_congr' fun found => by rw [Json.mem_typedObjects, and_imp]

theorem read_error_iff (typed : data.type?.isSome = true) {error : Error} : Node.read data = .error error ↔
    ∃ before found after type, data.typedObjects = before ++ found :: after ∧ (∀ other ∈ before, other.NamesKind) ∧
      found.type? = some type ∧ ¬ found.NamesKind ∧ error = type.typeError := by
  rw [(fails_read typed).eq_error_iff]
  constructor
  · rintro ⟨rest, isFirst⟩
    obtain ⟨before, found, after, split, fine, isFault, _⟩ := List.filterMap_eq_cons_iff.mp isFirst
    obtain ⟨unnamed, type, isType, isError⟩ := Json.fault?_eq_some_iff.mp isFault
    have inTyped : ∀ other ∈ before, other ∈ data.typedObjects :=
      fun _ member => split ▸ List.mem_append_left _ member
    exact ⟨before, found, after, type, split, (forall_fine_iff inTyped).mp fine, isType, unnamed, isError⟩
  · rintro ⟨before, found, after, type, split, named, isType, unnamed, isError⟩
    have inTyped : ∀ other ∈ before, other ∈ data.typedObjects :=
      fun _ member => split ▸ List.mem_append_left _ member
    have isFault := Json.fault?_eq_some_iff.mpr ⟨unnamed, type, isType, isError⟩
    exact ⟨_, List.filterMap_eq_cons_iff.mpr
      ⟨before, found, after, split, (forall_fine_iff inTyped).mpr named, isFault, rfl⟩⟩

/-- Data reads as a node if it is an object with a `type` and the type of every such object that is reached names a
kind. Data that is no such object is no node, and else the error is that of the first object reached whose type
names none. -/
theorem read_ends_by_types (data : Json) :
    ((∃ node, Node.read data = .ok node) ↔ data.type?.isSome = true ∧
        ∀ found, data.Reaches found → found.type?.isSome = true → found.NamesKind) ∧
      ((∃ shape, Node.read data = .error (.notANode shape)) ↔ data.type? = none) ∧
      (∀ error, Node.read data = .error error ↔
        (data.type? = none ∧ error = .notANode data.shape) ∨
          data.type?.isSome = true ∧ ∃ before found after type, data.typedObjects = before ++ found :: after ∧
            (∀ other ∈ before, other.NamesKind) ∧ found.type? = some type ∧ ¬ found.NamesKind ∧
              error = type.typeError) ∧
      ∀ found, found ∈ data.typedObjects ↔ data.Reaches found ∧ found.type?.isSome = true := by
  cases isTyped : data.type? with
  | none =>
    rw [read_untyped isTyped]
    refine ⟨⟨nofun, fun typed => nomatch typed.1⟩, ⟨fun _ => rfl, fun _ => ⟨_, rfl⟩⟩, fun error => ?_,
      fun _ => Json.mem_typedObjects⟩
    exact ⟨fun same => .inl ⟨rfl, (Except.error.inj same).symm⟩, fun wrong =>
      wrong.elim (fun same => by rw [same.2]) nofun⟩
  | some type =>
    have typed : data.type?.isSome = true := by rw [isTyped, Option.isSome_some]
    refine ⟨?_, ⟨?_, nofun⟩, fun error => ?_, fun _ => Json.mem_typedObjects⟩
    · rw [read_ok_iff typed]
      exact ⟨fun named => ⟨rfl, named⟩, (·.2)⟩
    · rintro ⟨shape, failed⟩
      obtain ⟨_, _, _, wrong, _, _, _, _, isError⟩ := (read_error_iff typed).mp failed
      cases wrong <;> cases isError
    · rw [read_error_iff typed]
      exact ⟨fun found => .inr ⟨rfl, found⟩, fun wrong => wrong.elim nofun (·.2)⟩

/-- The test of an `if` is read before its branches, whatever stands first in the data. -/
example : Node.read (.object [("alternate", .object [("type", .text "B")]), ("type", .text "IfStatement"),
    ("test", .object [("type", .text "A")])]) = .error (.unknownKind (.text "A")) := by rfl

end Node

end Outcome

end JsxRouting
