import JsxRouting.Proofs.FoundNames
import JsxRouting.Proofs.RootStatements

namespace JsxRouting

theorem Frame.boundName?_componentBinding (name : Scalar) :
    (componentBinding name).boundName? = some (.scalar name) := by
  unfold componentBinding
  split <;> rfl

namespace Findings

variable {known : NameSet} {elements : List Node}

/-- The layout has no fallback: it is no tag, and of the components it is left out. -/
theorem layout_not_in_componentsLiteral {usesProvider : Bool} {props : Option Node} {part : Node}
    (member : part ∈ ((ofElements known elements).componentsLiteral usesProvider props).parts) :
    part.key? ≠ some (.text layoutComponent) ∧
      ∀ value, part.get? .value = some (.node value) → value.standInName? ≠ some (.text layoutComponent) := by
  obtain ⟨tag, isTag, rfl⟩ | ⟨component, _, noLayout, rfl⟩ | ⟨source, _, rfl⟩ :=
    (mem_parts_componentsLiteral _ _ _).mp member
  · have noLayout : tag ≠ .text layoutComponent := by
      rintro rfl
      exact text_not_mem_tags (by decide +kernel) (by decide) isTag
    refine ⟨fun isKey => ?_, fun value isValue => ?_⟩
    · exact noLayout (Value.scalar.inj (Option.some.inj isKey))
    · cases isValue
      nofun
  · refine ⟨fun isKey => ?_, fun value isValue => ?_⟩
    · exact noLayout (Value.scalar.inj (Option.some.inj isKey))
    · cases isValue
      exact fun isName => noLayout (Option.some.inj isName)
  · exact ⟨nofun, nofun⟩

/-- The pattern binds the layout from its own key alone, unless the layout is found as an object. -/
theorem layout_in_bindingPattern_iff {findings : Findings} :
    (∀ part ∈ findings.bindingPattern.parts, part.boundName? = some (.text layoutComponent) →
      part.key? = some (.text layoutKey) ∧ part.isShorthand = false) ↔
        .text layoutComponent ∉ findings.objects := by
  constructor
  · intro fromKey isObject
    have member : Frame.objectBinding (.text layoutComponent) ∈ findings.bindingPattern.parts :=
      (mem_parts_bindingPattern _).mpr (.inr ⟨_, isObject, rfl⟩)
    have isKey := (fromKey _ member rfl).1
    exact absurd (Value.scalar.inj (Option.some.inj isKey)) (by decide)
  · intro noObject part member isBound
    obtain ⟨component, _, rfl⟩ | ⟨object, isObject, rfl⟩ := (mem_parts_bindingPattern _).mp member
    · rw [Frame.boundName?_componentBinding] at isBound
      obtain rfl := Value.scalar.inj (Option.some.inj isBound)
      exact ⟨rfl, rfl⟩
    · obtain rfl := Value.scalar.inj (Option.some.inj isBound)
      exact absurd isObject noObject

end Findings

/-- In a routed program, no components object has an entry for the layout or calls the helper with its name. What a
function binds to the name of the layout it binds from the layout's own key, unless a dotted name in the function
begins with the layout and the layout is not known. -/
theorem routeProgram_layout_iff {options : Options} {known : Option NameSet} {tree : Node} {routed : Routed}
    (program : tree.kind = .program) (run : routeProgram options known tree = .ok routed) :
    ∃ topScope, tree.knownNames known = .ok topScope ∧
      (∀ position literal, routed.Initialises tree position literal → ∀ part ∈ literal.parts,
        part.key? ≠ some (.text layoutComponent) ∧
          ∀ value, part.get? .value = some (.node value) → value.standInName? ≠ some (.text layoutComponent)) ∧
      ∀ position place function, tree.outermostAt? .plain position = some (place, function) →
        ((∀ pattern, routed.Destructures tree position pattern → ∀ part ∈ pattern.parts,
            part.boundName? = some (.text layoutComponent) →
              part.key? = some (.text layoutKey) ∧ part.isShorthand = false) ↔
          ∀ element ∈ function.jsxElements Node.isRouted .plain, element.chainRoot? = some (.text layoutComponent) →
            topScope.contains (.text layoutComponent) = true) := by
  obtain ⟨topScope, isScope, outermost⟩ := routeProgram_outermost program run
  refine ⟨topScope, isScope, fun position literal initialises part member => ?_,
    fun position place function found => ?_⟩
  · obtain ⟨place, function, props, _, rfl⟩ := eq_componentsLiteral_of_initialises outermost initialises
    exact Findings.layout_not_in_componentsLiteral member
  · have isObject : .text layoutComponent ∈ (Findings.within topScope function).objects ↔ _ :=
      Findings.text_mem_objects_iff
    have noObject : .text layoutComponent ∉ (Findings.within topScope function).objects ↔
        ∀ element ∈ function.jsxElements Node.isRouted .plain, element.chainRoot? = some (.text layoutComponent) →
          topScope.contains (.text layoutComponent) = true := by
      rw [isObject]
      simp only [not_and, forall_exists_index, and_imp, Bool.not_eq_false]
    rw [← noObject, ← Findings.layout_in_bindingPattern_iff]
    constructor
    · intro all part member isBound
      refine all _ (destructures_bindingPattern outermost found ?_) part member isBound
      rintro ⟨noComponents, noObjects⟩
      rw [Findings.parts_bindingPattern, noComponents, noObjects] at member
      cases member
    · intro all pattern destructures
      rw [eq_bindingPattern_of_destructures outermost found destructures]
      exact all

/-- For `<MDXLayout />` and `<Other.part />` the layout is bound from its own key. -/
theorem routeProgram_layout_wrapped :
    let page := Node.programOf [.mixedNames layoutComponent "Other"]
    page.kind = .program ∧ ∃ routed, routeProgram {} none page = .ok routed ∧
      ∃ pattern, routed.Destructures page [.item .body 0] pattern ∧
        (∃ part ∈ pattern.parts, part.boundName? = some (.text layoutComponent)) ∧
        ∀ part ∈ pattern.parts, part.boundName? = some (.text layoutComponent) →
          part.key? = some (.text layoutKey) ∧ part.isShorthand = false := by
  intro page
  have program : page.kind = .program := rfl
  obtain ⟨routed, run⟩ : ∃ routed, routeProgram {} none page = .ok routed := ⟨_, rfl⟩
  obtain ⟨topScope, _, _, patterns⟩ := routeProgram_layout_iff program run
  let findings : Findings := ⟨[], [.text layoutComponent], [.text "Other"]⟩
  have destructures : routed.Destructures page [.item .body 0] findings.bindingPattern := by
    cases run
    exact ⟨.plain, _, _, rfl, rfl, List.mem_cons_of_mem _ List.mem_cons_self⟩
  refine ⟨program, routed, run, _, destructures, ⟨_, List.mem_cons_self, rfl⟩, ?_⟩
  refine (patterns [.item .body 0] _ (Node.mixedNames layoutComponent "Other") rfl).mpr ?_ _ destructures
  intro element member isRoot
  have roots : .text layoutComponent ∈
      ((Node.mixedNames layoutComponent "Other").jsxElements Node.isRouted .plain).filterMap Node.chainRoot? :=
    List.mem_filterMap.mpr ⟨element, member, isRoot⟩
  exact absurd (List.mem_singleton.mp roots) (by decide)

/-- For `<MDXLayout.part />` the layout is bound as a shorthand. -/
theorem routeProgram_layout_shorthand :
    let page := Node.programOf
      [.functionNamed "F" [] [.expressionStatement (.emptyElement (.jsxMember layoutComponent "part"))]]
    ∃ routed pattern part, routeProgram {} none page = .ok routed ∧
      routed.Destructures page [.item .body 0] pattern ∧ part ∈ pattern.parts ∧
      part.boundName? = some (.text layoutComponent) ∧ part.key? = some (.text layoutComponent) ∧
      part.isShorthand = true :=
  ⟨_, (Findings.mk [] [] [.text layoutComponent]).bindingPattern, _, rfl,
    ⟨.plain, _, _, rfl, rfl, List.mem_cons_of_mem _ List.mem_cons_self⟩, List.mem_cons_self, rfl, rfl, rfl⟩

namespace Findings

variable {known : NameSet} {elements : List Node}

/-- The keys of a components object are names of identifiers exactly if all tags are. -/
theorem identifierKeys_componentsLiteral_iff {usesProvider : Bool} {props : Option Node} :
    (∀ part ∈ ((ofElements known elements).componentsLiteral usesProvider props).parts, ∀ name,
      part.identifierKey? = some name → name.isIdentifierName = .ok true) ↔
      ∀ element ∈ elements, ∀ tag, element.tag? = some tag → (Value.scalar tag).isIdentifierName = .ok true := by
  have tags : (∀ tag ∈ (ofElements known elements).tags, (Value.scalar tag).isIdentifierName = .ok true) ↔
      ∀ element ∈ elements, ∀ tag, element.tag? = some tag → (Value.scalar tag).isIdentifierName = .ok true := by
    refine forall_isIdentifierName_firstOccurrences.trans ?_
    simp only [List.mem_filterMap, forall_exists_index, and_imp]
    exact forall_comm.trans (forall_congr' fun element => forall_comm)
  rw [← tags]
  constructor
  · intro all tag isTag
    exact all _ ((mem_parts_componentsLiteral _ _ _).mpr (.inl ⟨tag, isTag, rfl⟩)) _ rfl
  · intro valid part member name isKey
    obtain ⟨tag, isTag, rfl⟩ | ⟨component, isComponent, _, rfl⟩ | ⟨source, _, rfl⟩ :=
      (mem_parts_componentsLiteral _ _ _).mp member
    · cases isKey
      exact valid tag isTag
    · cases isKey
      obtain ⟨text, rfl, identifier, _⟩ := exists_of_mem_components component isComponent
      exact congrArg Except.ok identifier
    · cases isKey

/-- The keys and the names of a pattern are names of identifiers exactly if the unknown first parts of all dotted
names are. -/
theorem identifiers_bindingPattern_iff :
    (∀ name, ((∃ part ∈ (ofElements known elements).bindingPattern.parts, part.identifierKey? = some name) ∨
        ∃ names, (Value.node (ofElements known elements).bindingPattern).boundNames = .ok names ∧ name ∈ names) →
      name.isIdentifierName = .ok true) ↔
      ∀ element ∈ elements, ∀ root, element.chainRoot? = some root → known.contains root = false →
        (Value.scalar root).isIdentifierName = .ok true := by
  have objects : (∀ object ∈ (ofElements known elements).objects, (Value.scalar
    object).isIdentifierName = .ok true) ↔
      ∀ element ∈ elements, ∀ root, element.chainRoot? = some root → known.contains root = false →
        (Value.scalar root).isIdentifierName = .ok true := by
    refine forall_isIdentifierName_firstOccurrences.trans ?_
    simp only [List.mem_filter, List.mem_filterMap, forall_exists_index, and_imp, Bool.not_eq_true']
    exact forall_comm.trans (forall_congr' fun element => forall_comm)
  have components : ∀ component ∈ (ofElements known elements).components,
      (Value.scalar component).isIdentifierName = .ok true := by
    intro component isComponent
    obtain ⟨text, rfl, identifier, _⟩ := exists_of_mem_components component isComponent
    exact congrArg Except.ok identifier
  rw [← objects]
  constructor
  · intro all object isObject
    exact all _ (.inl ⟨_, (mem_parts_bindingPattern _).mpr (.inr ⟨object, isObject, rfl⟩), rfl⟩)
  · rintro valid name (⟨part, member, isKey⟩ | ⟨names, bound, member⟩)
    · obtain ⟨component, isComponent, rfl⟩ | ⟨object, isObject, rfl⟩ := (mem_parts_bindingPattern _).mp member
      · unfold Frame.componentBinding at isKey
        split at isKey
        · cases isKey
          decide +kernel
        · cases isKey
          exact components component isComponent
      · cases isKey
        exact valid object isObject
    · cases bound.symm.trans (boundNames_bindingPattern _)
      obtain ⟨found, inBoth, rfl⟩ := List.mem_map.mp member
      obtain isComponent | isObject := List.mem_append.mp inBoth
      · exact components found isComponent
      · exact valid found isObject

end Findings

/-- In a routed program, the identifiers that are keys of the components object of a function have names of
identifiers exactly if the tags in the function are such names. Those that are keys or bound in its pattern do
exactly if the unknown first parts of the dotted names in it are. -/
theorem routeProgram_identifiers_iff {options : Options} {known : Option NameSet} {tree : Node} {routed : Routed}
    (program : tree.kind = .program) (run : routeProgram options known tree = .ok routed) :
    ∃ topScope, tree.knownNames known = .ok topScope ∧
      ∀ position place function, tree.outermostAt? .plain position = some (place, function) →
        ((∀ literal, routed.Initialises tree position literal → ∀ part ∈ literal.parts, ∀ name,
            part.identifierKey? = some name → name.isIdentifierName = .ok true) ↔
          ∀ element ∈ function.jsxElements Node.isRouted .plain, ∀ tag, element.tag? = some tag →
            (Value.scalar tag).isIdentifierName = .ok true) ∧
        ((∀ pattern, routed.Destructures tree position pattern → ∀ name,
            ((∃ part ∈ pattern.parts, part.identifierKey? = some name) ∨
              ∃ names, (Value.node pattern).boundNames = .ok names ∧ name ∈ names) →
            name.isIdentifierName = .ok true) ↔
          ∀ element ∈ function.jsxElements Node.isRouted .plain, ∀ root, element.chainRoot? = some root →
            topScope.contains root = false → (Value.scalar root).isIdentifierName = .ok true) := by
  obtain ⟨topScope, isScope, outermost⟩ := routeProgram_outermost program run
  refine ⟨topScope, isScope, fun position place function found => ⟨⟨fun all => ?_, fun valid => ?_⟩, ?_⟩⟩
  · intro element member tag isTag
    have something : (Findings.within topScope function).isEmpty = false := by
      refine Bool.eq_false_iff.mpr fun nothing => ?_
      cases isTag.symm.trans (Findings.tag?_of_isEmpty nothing member)
    obtain ⟨props, initialises⟩ := exists_initialises outermost found something
    exact Findings.identifierKeys_componentsLiteral_iff.mp (all _ initialises) element member tag isTag
  · intro literal initialises
    obtain ⟨_, _, props, foundOther, rfl⟩ := eq_componentsLiteral_of_initialises outermost initialises
    cases found.symm.trans foundOther
    exact Findings.identifierKeys_componentsLiteral_iff.mpr valid
  · rw [← Findings.identifiers_bindingPattern_iff]
    constructor
    · intro all name named
      refine all _ (destructures_bindingPattern outermost found ?_) name named
      rintro ⟨noComponents, noObjects⟩
      unfold Findings.within at noComponents noObjects
      obtain ⟨part, member, _⟩ | ⟨names, bound, member⟩ := named
      · rw [Findings.parts_bindingPattern, noComponents, noObjects] at member
        cases member
      · rw [Findings.boundNames_bindingPattern, noComponents, noObjects] at bound
        cases bound
        cases member
    · intro all pattern destructures
      rw [eq_bindingPattern_of_destructures outermost found destructures]
      exact all

/-- For `<b />` and `<Other.part />` all keys and all names are names of identifiers. -/
theorem routeProgram_identifiers_plain :
    let page := Node.programOf [.mixedNames "b" "Other"]
    page.kind = .program ∧ ∃ routed, routeProgram {} none page = .ok routed ∧
      ∃ literal pattern, routed.Initialises page [.item .body 0] literal ∧
        routed.Destructures page [.item .body 0] pattern ∧
        (∃ part ∈ literal.parts, part.identifierKey? = some (.text "b")) ∧
        (∀ part ∈ literal.parts, ∀ name, part.identifierKey? = some name → name.isIdentifierName = .ok true) ∧
        (∃ part ∈ pattern.parts, part.identifierKey? = some (.text "Other")) ∧
        ∀ name, ((∃ part ∈ pattern.parts, part.identifierKey? = some name) ∨
          ∃ names, (Value.node pattern).boundNames = .ok names ∧ name ∈ names) →
            name.isIdentifierName = .ok true := by
  intro page
  have program : page.kind = .program := rfl
  obtain ⟨routed, run⟩ : ∃ routed, routeProgram {} none page = .ok routed := ⟨_, rfl⟩
  obtain ⟨topScope, _, identifiers⟩ := routeProgram_identifiers_iff program run
  obtain ⟨literals, patterns⟩ := identifiers [.item .body 0] _ (Node.mixedNames "b" "Other") rfl
  let findings : Findings := ⟨[.text "b"], [], [.text "Other"]⟩
  have initialises : routed.Initialises page [.item .body 0] (findings.componentsLiteral false none) := by
    cases run
    exact ⟨.plain, _, _, rfl, rfl, rfl, List.mem_cons_self⟩
  have destructures : routed.Destructures page [.item .body 0] findings.bindingPattern := by
    cases run
    exact ⟨.plain, _, _, rfl, rfl, List.mem_cons_of_mem _ List.mem_cons_self⟩
  refine ⟨program, routed, run, _, _, initialises, destructures, ⟨_, List.mem_cons_self, rfl⟩, ?_,
    ⟨_, List.mem_cons_self, rfl⟩, ?_⟩
  · refine literals.mpr ?_ _ initialises
    intro element member tag isTag
    have tags : tag ∈ ((Node.mixedNames "b" "Other").jsxElements Node.isRouted .plain).filterMap Node.tag? :=
      List.mem_filterMap.mpr ⟨element, member, isTag⟩
    obtain rfl := List.mem_singleton.mp tags
    decide +kernel
  · refine patterns.mpr ?_ _ destructures
    intro element member root isRoot _
    have roots : root ∈ ((Node.mixedNames "b" "Other").jsxElements Node.isRouted .plain).filterMap
      Node.chainRoot? :=
      List.mem_filterMap.mpr ⟨element, member, isRoot⟩
    obtain rfl := List.mem_singleton.mp roots
    decide +kernel

-- `-` is compared with every range of letters.
set_option maxRecDepth 10000 in
/-- For `<b-ar />` and `<c-ar.part />` the tag is the name of an identifier that is a key, and `c-ar` is such a key
and is bound. -/
theorem routeProgram_identifiers_hyphen :
    let page := Node.programOf [.mixedNames "b-ar" "c-ar"]
    ∃ routed literal pattern part binding, routeProgram {} none page = .ok routed ∧
      routed.Initialises page [.item .body 0] literal ∧ part ∈ literal.parts ∧
      part.identifierKey? = some (.text "b-ar") ∧ (Value.text "b-ar").isIdentifierName = .ok false ∧
      routed.Destructures page [.item .body 0] pattern ∧ binding ∈ pattern.parts ∧
      binding.identifierKey? = some (.text "c-ar") ∧ (Value.node pattern).boundNames = .ok [.text "c-ar"] ∧
      (Value.text "c-ar").isIdentifierName = .ok false := by
  let findings : Findings := ⟨[.text "b-ar"], [], [.text "c-ar"]⟩
  have noIdentifier : (Value.text "b-ar").isIdentifierName = .ok false ∧
      (Value.text "c-ar").isIdentifierName = .ok false := by decide +kernel
  refine ⟨_, findings.componentsLiteral false none, findings.bindingPattern, _, _, rfl, ?_, List.mem_cons_self, rfl,
    noIdentifier.1, ?_, List.mem_cons_self, rfl, rfl, noIdentifier.2⟩
  · exact ⟨.plain, _, _, rfl, rfl, rfl, List.mem_cons_self⟩
  · exact ⟨.plain, _, _, rfl, rfl, List.mem_cons_of_mem _ List.mem_cons_self⟩

end JsxRouting
