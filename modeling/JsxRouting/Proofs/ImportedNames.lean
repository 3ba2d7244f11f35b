import JsxRouting.Proofs.FirstFailure
import JsxRouting.Proofs.InjectedParts
import JsxRouting.Proofs.PropsScopes

namespace JsxRouting

/-- What a specifier imports and the name that it gives to it. -/
inductive Import
  /-- `import {exported as localName}` -/
  | named (exported localName : String)
  /-- `import {"exported" as localName}` -/
  | quoted (exported localName : String)
  /-- `import localName` -/
  | usual (localName : String)

namespace Import

/-- The name under which a module exports what is imported. -/
def exported : Import → String
  | named exported _ | quoted exported _ => exported
  | usual _ => "default"

def localName : Import → String
  | named _ localName | quoted _ localName | usual localName => localName

/-- The key under which a pattern finds what is imported. -/
def key : Import → Node
  | named exported _ => .identifier exported
  | quoted exported _ => .textLiteral exported
  | usual _ => .identifier "default"

/-- Whether the local name repeats an exported name that is written as an identifier. -/
def repeatsName : Import → Bool
  | named exported localName => exported == localName
  | quoted _ _ | usual _ => false

/-- The property of a pattern that binds what is imported. -/
def property (imported : Import) : Node :=
  .property imported.key (.identifier imported.localName) imported.repeatsName

end Import

namespace Value

/-- The text that names an identifier. -/
def identifierText? (value : Value) : Option String :=
  match value.givenName? with
  | some (.scalar (.text name)) => some name
  | _ => none

/-- The text that a literal is. -/
def literalText? (value : Value) : Option String :=
  match (value.nodeOf? .literal).bind (·.get? .value) with
  | some (.scalar (.text text)) => some text
  | _ => none

/-- What a specifier imports, if it binds one export to the name of an identifier. -/
def import? : Value → Option Import
  | .node specifier => do
    let localName ← (← specifier.get? .localName).identifierText?
    match specifier.kind with
    | .importSpecifier =>
      let imported ← specifier.get? .imported
      match imported.identifierText? with
      | some exported => return .named exported localName
      | none => return .quoted (← imported.literalText?) localName
    | .importDefaultSpecifier => return .usual localName
    | _ => none
  | _ => none

/-- Whether a value is a specifier that binds one export. -/
def bindsExport (item : Value) : Bool :=
  item.node?.any fun specifier => specifier.is .importSpecifier || specifier.is .importDefaultSpecifier

/-- Whether a value can be given as a specifier. Specifiers that bind one export have an identifier for their local
name and tell the export by an identifier or a text. -/
def CanSpecify (item : Value) : Prop :=
  (item = .null ∨ ∃ specifier, item = .node specifier) ∧
    (item.bindsExport = true → ∃ imported, item.import? = some imported)

/-- What is wrong about a specifier that binds no single export. -/
def misfit? (item : Value) : Option Error :=
  if item.bindsExport then none
  else
    match item.node?.map Node.kind with
    | some .importNamespaceSpecifier => some .namespaceImport
    | kind => some (.notASpecifier kind)

end Value

section Specifiers

/-- What binds no single export is no supported node, and the error names the kind of what was found. -/
theorem Value.exists_misfit {item : Value} (misfits : item.bindsExport = false) :
    ∃ error, item.misfit? = some error ∧ error.family = .unsupportedNode ∧
      error.nodeKind? = item.node?.map Node.kind := by
  rw [misfit?, misfits, if_neg Bool.false_ne_true]
  split
  · rename_i isNamespace
    exact ⟨_, rfl, rfl, isNamespace.symm⟩
  · exact ⟨_, rfl, rfl, rfl⟩

theorem Value.equals_text (text other : String) : (Value.text text).equals (.text other) = (text == other) := by
  have compared : (Value.text text).equals (.text other) = (Scalar.text text).same (.text other) := by
    unfold equals
    split
    · rename_i isNan
      cases isNan
    · rw [Value.same]
  rw [compared, Bool.eq_iff_iff, Scalar.text_same_iff, beq_iff_eq, Scalar.text.injEq, eq_comm]

theorem Value.exists_of_identifierText? {value : Value} {name : String}
    (isName : value.identifierText? = some name) :
    ∃ identifier, value = .node identifier ∧ identifier.kind = .identifier ∧
      identifier.get? .name = some (.text name) := by
  unfold identifierText? givenName? at isName
  split at isName
  · rename_i given
    cases isName
    split at given
    · rename_i identifier isIdentifier
      obtain ⟨rfl, isKind⟩ := nodeOf?_eq_some.mp isIdentifier
      exact ⟨identifier, rfl, isKind, given⟩
    · cases given
  · cases isName

theorem Value.exists_of_literalText? {value : Value} {text : String} (isText : value.literalText? = some text) :
    ∃ literal, value = .node literal ∧ literal.kind = .literal ∧ literal.get? .value = some (.text text) := by
  unfold literalText? at isText
  split at isText
  · rename_i found
    cases isText
    obtain ⟨literal, isLiteral, valued⟩ := Option.bind_eq_some_iff.mp found
    obtain ⟨rfl, isKind⟩ := nodeOf?_eq_some.mp isLiteral
    exact ⟨literal, rfl, isKind, valued⟩
  · cases isText

theorem localNameOf_eq {specifier : Node} {target : Value} {name : String}
    (isLocal : specifier.get? .localName = some target) (isName : target.identifierText? = some name) :
    localNameOf specifier = .ok (.text name) := by
  obtain ⟨identifier, rfl, _, named⟩ := Value.exists_of_identifierText? isName
  simp only [localNameOf, isLocal, named]

theorem importedProperty_named {imported : Value} {exported localName : String}
    (isName : imported.identifierText? = some exported) :
    importedProperty imported (.text localName) = .ok (Import.named exported localName).property := by
  obtain ⟨identifier, rfl, isIdentifier, named⟩ := Value.exists_of_identifierText? isName
  simp only [importedProperty, Node.is, isIdentifier, beq_self_eq_true, if_true, named, Option.getD_some,
    Value.equals_text]
  rfl

theorem importedProperty_quoted {imported : Value} {exported localName : String}
    (isText : imported.literalText? = some exported) :
    importedProperty imported (.text localName) = .ok (Import.quoted exported localName).property := by
  obtain ⟨literal, rfl, isLiteral, valued⟩ := Value.exists_of_literalText? isText
  simp only [importedProperty, Node.is, isLiteral, valued]
  rfl

/-- What is imported becomes the property that binds it. -/
theorem specifierProperty_of_import? {item : Value} {imported : Import} (isImport : item.import? = some imported) :
    specifierProperty item = .ok imported.property := by
  cases item with
  | scalar | list | object => cases isImport
  | node specifier =>
    obtain ⟨target, isLocal, isImport⟩ := Option.bind_eq_some_iff.mp isImport
    obtain ⟨localName, isName, isImport⟩ := Option.bind_eq_some_iff.mp isImport
    have isLocal := localNameOf_eq isLocal isName
    unfold specifierProperty
    split at isImport
    · rename_i isKind
      obtain ⟨key, isKey, isImport⟩ := Option.bind_eq_some_iff.mp isImport
      simp only [isKind, isLocal, isKey, Option.getD_some]
      split at isImport
      · rename_i exported isName
        cases isImport
        exact importedProperty_named isName
      · obtain ⟨exported, isText, isImport⟩ := Option.bind_eq_some_iff.mp isImport
        cases isImport
        exact importedProperty_quoted isText
    · rename_i isKind
      cases isImport
      simp only [isKind, isLocal]
      rfl
    · cases isImport

/-- A specifier either becomes a property or is reported. -/
theorem failsFirst_specifierProperty {item : Value} (canSpecify : item.CanSpecify) :
    FailsFirst (specifierProperty item) item.misfit?.toList := by
  obtain ⟨isItem, isImport⟩ := canSpecify
  cases binds : item.bindsExport with
  | true =>
    obtain ⟨imported, isImport⟩ := isImport binds
    rw [Value.misfit?, binds, if_pos rfl]
    exact ⟨_, specifierProperty_of_import? isImport⟩
  | false =>
    rw [Value.misfit?, binds, if_neg Bool.false_ne_true]
    obtain rfl | ⟨specifier, rfl⟩ := isItem
    · rfl
    · unfold specifierProperty
      simp only [Value.bindsExport, Value.node?, Option.any_some, Option.map_some, Node.is] at binds ⊢
      split
      · rename_i isImport
        rw [isImport] at binds
        cases binds
      · rename_i isDefault
        rw [isDefault] at binds
        cases binds
      · rename_i isNamespace
        rw [isNamespace]
        rfl
      · rename_i noNamespace
        split
        · rename_i isNamespace
          exact absurd (Option.some.inj isNamespace) noNamespace
        · rfl

end Specifiers

section Binding

/-- The pattern of imports, read as the binding of what is under their keys. -/
def Import.binding : List Import → PatternProperties
  | [] => .nil
  | imported :: others => .cons ⟨false, .node imported.key⟩ (.name imported.localName) none (binding others)

theorem Import.names_binding (imports : List Import) : (binding imports).names = imports.map localName := by
  induction imports with
  | nil => rfl
  | cons imported others ih =>
    rw [binding, PatternProperties.names, ih, Pattern.names, List.map_cons, List.singleton_append]

/-- The properties of imports are those of a pattern. -/
theorem Import.patternProperties?_map (imports : List Import) :
    patternProperties? (imports.map fun imported => .node imported.property) = some (binding imports) := by
  induction imports with
  | nil => rfl
  | cons imported others ih =>
    rw [List.map_cons, property, Node.property_eq, patternProperties?, ih]
    rfl

theorem Import.parameter?_objectPattern (imports : List Import) :
    (Value.node (.objectPattern (imports.map property))).parameter? = some ⟨.plain, .object (binding imports)⟩ := by
  have listed := patternProperties?_map imports
  rw [Node.objectPattern_eq, List.map_map, Value.parameter?, propertiesIn?, if_pos rfl, listedProperties?,
    Function.comp_def, listed]
  rfl

/-- The pattern of imports binds their local names. -/
theorem Import.boundNames_objectPattern (imports : List Import) :
    (Value.node (.objectPattern (imports.map property))).boundNames =
      .ok (imports.map fun imported => .text imported.localName) := by
  have bound := names_parameter? (parameter?_objectPattern imports)
  rw [Pattern.names, names_binding, List.map_map] at bound
  exact bound

/-- A property that is written once is an identifier that names the export and what is bound. -/
theorem Import.exists_of_isShorthand {imported : Import} (isShorthand : imported.property.isShorthand = true) :
    ∃ name, imported.property.identifierKey? = some (.text name) ∧
      imported.property.boundName? = some (.text name) := by
  cases imported with
  | named exported localName =>
    obtain rfl : exported = localName := beq_iff_eq.mp isShorthand
    exact ⟨exported, rfl, rfl⟩
  | quoted | usual => cases isShorthand

variable {α : Type} (world : World α)

/-- A key of the pattern stands for the name of the export. -/
theorem Import.keyText_key (imported : Import) : world.keyText ⟨false, .node imported.key⟩ = imported.exported := by
  cases imported <;> rfl

/-- What an import binds in a module: its local name stands for what the module has under the exported name. -/
def Import.bound (module : α) (imported : Import) : Option (String × Denoted α) :=
  (world.member module imported.exported).map fun found => (imported.localName, found)

/-- The pattern binds what the imports bind, whatever keys were read before. -/
theorem Import.bind_binding (module : α) (imports : List Import) (keys : List String) :
    (binding imports).bind world module keys = imports.mapM (bound world module) := by
  induction imports generalizing keys with
  | nil => rfl
  | cons imported others ih =>
    rw [binding, PatternProperties.bind, keyText_key, List.mapM_cons, bound]
    simp only [ih]
    cases world.member module imported.exported with
    | none => rfl
    | some found =>
      have kept : world.orUsual found none = found := by cases found <;> rfl
      simp only [Option.map_some, Option.bind_eq_bind, Option.bind_some, Pattern.bind, kept, List.singleton_append]

end Binding

section Patterns

variable {items : List Value}

/-- Specifiers that bind one export each are imports, and become the properties of these. -/
theorem exists_imports (canSpecify : ∀ item ∈ items, item.CanSpecify)
    (bindAll : ∀ item ∈ items, item.bindsExport = true) :
    ∃ imports, items.mapM Value.import? = some imports ∧
      items.mapM specifierProperty = .ok (imports.map Import.property) := by
  induction items with
  | nil => exact ⟨[], rfl, rfl⟩
  | cons item others ih =>
    obtain ⟨canSpecify, canOthers⟩ := List.forall_mem_cons.mp canSpecify
    obtain ⟨binds, bindOthers⟩ := List.forall_mem_cons.mp bindAll
    obtain ⟨imported, isImport⟩ := canSpecify.2 binds
    obtain ⟨imports, areImports, properties⟩ := ih canOthers bindOthers
    refine ⟨imported :: imports, ?_, ?_⟩
    · rw [List.mapM_cons, isImport, areImports]
      rfl
    · rw [List.mapM_cons, specifierProperty_of_import? isImport, properties]
      rfl

/-- The pattern of specifiers fails with what is wrong about the first of them that binds no single export. -/
theorem failsFirst_specifiersPattern (canSpecify : ∀ item ∈ items, item.CanSpecify) :
    FailsFirst (specifiersPattern (.list items)) (items.filterMap Value.misfit?) := by
  rw [List.filterMap_eq_flatMap_toList]
  have properties := FailsFirst.mapM fun item member => failsFirst_specifierProperty (canSpecify item member)
  exact properties.bind_ok fun properties _ => ⟨.objectPattern properties, rfl⟩

/-- Import specifiers have a pattern exactly if each of them binds one export, and otherwise the first that does not
is reported. The pattern binds their local names in order. Taking a module apart with it binds each local name to
what the module has under the exported name, and only identifiers that are repeated are written once. -/
theorem specifiersPattern_binds (canSpecify : ∀ item ∈ items, item.CanSpecify) :
    ((∃ pattern, specifiersPattern (.list items) = .ok pattern) ↔ ∀ item ∈ items, item.bindsExport = true) ∧
      (∀ before item after, items = before ++ item :: after → (∀ other ∈ before, other.bindsExport = true) →
        item.bindsExport = false → ∃ error, specifiersPattern (.list items) = .error error ∧
          error.family = .unsupportedNode ∧ error.nodeKind? = item.node?.map Node.kind) ∧
      ∀ pattern, specifiersPattern (.list items) = .ok pattern →
        ∃ imports, items.mapM Value.import? = some imports ∧
        (Value.node pattern).boundNames = .ok (imports.map fun imported => .text imported.localName) ∧
        (∃ binding, (Value.node pattern).parameter? = some ⟨.plain, binding⟩ ∧
          ∀ {α : Type} (world : World α) (module : α), world.isObject module = true →
            binding.bind world (.value module) = imports.mapM fun imported =>
              (world.member module imported.exported).map fun found => (imported.localName, found)) ∧
        ∀ part ∈ pattern.parts, part.isShorthand = true →
          ∃ name, part.identifierKey? = some (.text name) ∧ part.boundName? = some (.text name) := by
  have fails := failsFirst_specifiersPattern canSpecify
  have bindAll_of_ok {pattern : Node} (ran : specifiersPattern (.list items) = .ok pattern) :
      ∀ item ∈ items, item.bindsExport = true := by
    refine fun item member => Bool.of_not_eq_false fun misfits => ?_
    obtain ⟨error, isMisfit, _⟩ := Value.exists_misfit misfits
    obtain ⟨_, failed⟩ :=
      fails.exists_error_iff.mpr (List.ne_nil_of_mem (List.mem_filterMap.mpr ⟨item, member, isMisfit⟩))
    cases ran.symm.trans failed
  have ran_of_bindAll (bindAll : ∀ item ∈ items, item.bindsExport = true) :
      ∃ imports, items.mapM Value.import? = some imports ∧
        specifiersPattern (.list items) = .ok (.objectPattern (imports.map Import.property)) := by
    obtain ⟨imports, areImports, properties⟩ := exists_imports canSpecify bindAll
    refine ⟨imports, areImports, ?_⟩
    simp only [specifiersPattern, Value.elements, bind, Except.bind, properties]
    rfl
  refine ⟨⟨?_, fun bindAll => ?_⟩, ?_, fun pattern ran => ?_⟩
  · rintro ⟨_, ran⟩
    exact bindAll_of_ok ran
  · obtain ⟨imports, _, ran⟩ := ran_of_bindAll bindAll
    exact ⟨_, ran⟩
  · rintro before item after rfl bindBefore misfits
    obtain ⟨error, isMisfit, unsupported⟩ := Value.exists_misfit misfits
    refine ⟨error, fails.error_of_first (fun other member => ?_) isMisfit, unsupported⟩
    rw [Value.misfit?, bindBefore other member, if_pos rfl]
  · obtain ⟨imports, areImports, isPattern⟩ := ran_of_bindAll (bindAll_of_ok ran)
    cases ran.symm.trans isPattern
    refine ⟨imports, areImports, Import.boundNames_objectPattern imports,
      ⟨_, Import.parameter?_objectPattern imports, fun world module isObject => ?_⟩,
        fun part member isShorthand => ?_⟩
    · rw [Pattern.bind, isObject, if_pos rfl]
      exact Import.bind_binding world module imports []
    · rw [Node.parts_objectPattern] at member
      obtain ⟨imported, _, rfl⟩ := List.mem_map.mp member
      exact Import.exists_of_isShorthand isShorthand

/-- `import g, {a, b as c, "d-e" as f}` binds what its pattern binds in an object. Where a namespace is imported
behind `a`, it is reported, whatever else is. -/
theorem specifiersPattern_binds_mixed :
    let named (imported : Node) (name : String) : Value :=
      .node (.make .importSpecifier [(.imported, .node imported), (.localName, .node (.identifier name))])
    let usual : Value := .node (.make .importDefaultSpecifier [(.localName, .node (.identifier "g"))])
    let all : Value := .node (.make .importNamespaceSpecifier [(.localName, .node (.identifier "ns"))])
    let numbers (entries : List (String × Int)) : List (String × Denoted SmallValue) :=
      entries.map fun (name, number) => (name, .value (.number number))
    (∃ pattern binding, specifiersPattern (.list [usual, named (.identifier "a") "a", named (.identifier "b") "c",
        named (.textLiteral "d-e") "f"]) = .ok pattern ∧
      (Value.node pattern).boundNames = .ok [.text "g", .text "a", .text "c", .text "f"] ∧
      (Value.node pattern).parameter? = some ⟨.plain, binding⟩ ∧
      binding.bind smallWorld (.value (.object (numbers [("a", 1), ("b", 2), ("d-e", 3), ("default", 4)]))) =
        some (numbers [("g", 4), ("a", 1), ("c", 2), ("f", 3)])) ∧
      ∃ error, specifiersPattern (.list [named (.identifier "a") "a", all, .null]) = .error error ∧
        error.nodeKind? = some .importNamespaceSpecifier := by
  intro named usual all numbers
  constructor
  · have canSpecify : ∀ item ∈ [usual, named (.identifier "a") "a", named (.identifier "b") "c",
        named (.textLiteral "d-e") "f"], item.CanSpecify := by
      simp only [List.forall_mem_cons]
      exact ⟨⟨.inr ⟨_, rfl⟩, fun _ => ⟨_, rfl⟩⟩, ⟨.inr ⟨_, rfl⟩, fun _ => ⟨_, rfl⟩⟩,
        ⟨.inr ⟨_, rfl⟩, fun _ => ⟨_, rfl⟩⟩, ⟨.inr ⟨_, rfl⟩, fun _ => ⟨_, rfl⟩⟩, nofun⟩
    obtain ⟨succeeds, _, binds⟩ := specifiersPattern_binds canSpecify
    obtain ⟨pattern, ran⟩ := succeeds.mpr (by decide)
    obtain ⟨imports, areImports, names, ⟨binding, isPattern, bound⟩, _⟩ := binds pattern ran
    cases areImports
    exact ⟨pattern, binding, ran, names, isPattern, bound smallWorld _ rfl⟩
  · have canSpecify : ∀ item ∈ [named (.identifier "a") "a", all, .null], item.CanSpecify := by
      simp only [List.forall_mem_cons]
      exact ⟨⟨.inr ⟨_, rfl⟩, fun _ => ⟨_, rfl⟩⟩, ⟨.inr ⟨_, rfl⟩, nofun⟩, ⟨.inl rfl, nofun⟩, nofun⟩
    obtain ⟨_, fails, _⟩ := specifiersPattern_binds canSpecify
    obtain ⟨error, failed, _, isKind⟩ := fails [named (.identifier "a") "a"] all [.null] rfl (by decide) (by decide)
    exact ⟨error, failed, isKind⟩

end Patterns

end JsxRouting
