import JsxRouting.Proofs.Findings

namespace JsxRouting

/-- A text names a component exactly if it is the name of an identifier and does not begin with a lower-case
letter. -/
theorem componentName?_text (text : String) :
    componentName? (.text text) = .ok (if isIdentifierName text && !startsLowercase text then some text
      else none) := by
  unfold componentName?
  simp only [Value.isIdentifierName, bind, Except.bind, pure, Except.pure]
  cases isIdentifierName text <;> cases startsLowercase text <;> rfl

/-- Nothing but a text names a component. -/
theorem componentName?_eq_some {name : Value} {component : String}
    (named : componentName? name = .ok (some component)) :
    name = .text component := by
  unfold componentName? at named
  obtain ⟨isIdentifier, _, named⟩ := bind_eq_ok_iff.mp named
  cases isIdentifier with
  | false => cases named
  | true =>
    simp only [if_true] at named
    split at named
    · rename_i text _ _
      cases lower : startsLowercase text <;> rw [lower] at named <;> cases named
      rfl
    · cases named

theorem useOfPlainName_cases {name : Value} {explicit : Bool} {use : NameUse}
    (used : useOfPlainName name explicit = .ok use) :
    (∃ component, componentName? name = .ok (some component) ∧ use = .component component) ∨
      componentName? name = .ok none ∧ (use = .explicit name ∨ use = .tag name) := by
  obtain ⟨component, named, used⟩ := bind_eq_ok_iff.mp used
  cases component with
  | some component =>
    cases used
    exact .inl ⟨component, named, rfl⟩
  | none =>
    cases explicit <;> cases used
    · exact .inr ⟨named, .inr rfl⟩
    · exact .inr ⟨named, .inl rfl⟩

/-- A name is dotted or in a namespace, or it is an identifier that is used by its name. -/
theorem classify_plain_cases {name : Value} {explicit : Bool} {use : NameUse}
    (classified : classify name explicit = .ok use) :
    (∃ object, use = .object object) ∨ use = .namespaced ∨
      ∃ node plain, name = .node node ∧ node.kind = .jsxIdentifier ∧ node.get? .name = some plain ∧
        useOfPlainName plain explicit = .ok use := by
  unfold classify at classified
  split at classified
  · rename_i node
    split at classified
    · split at classified
      · split at classified
        · split at classified <;> cases classified
          exact .inl ⟨_, rfl⟩
        · cases classified
      · cases classified
      · cases classified
    · cases classified
      exact .inr (.inl rfl)
    · rename_i isIdentifier
      split at classified
      · rename_i plain isPlain
        exact .inr (.inr ⟨node, plain, rfl, isIdentifier, isPlain, classified⟩)
      · cases classified
    · cases classified
  · cases classified
  · cases classified

namespace Node

theorem exists_classify_of_nameUse {element : Node} {use : NameUse} (used : element.nameUse = .ok use) :
    ∃ opening name explicit, element.get? .openingElement = some (.node opening) ∧ opening.get? .name = some name ∧
      classify name explicit = .ok use := by
  unfold nameUse at used
  split at used
  · rename_i opening explicit isOpening _
    split at used
    · rename_i name isName
      exact ⟨opening, name, explicit.holds, isOpening, isName, used⟩
    · cases used
  · cases used

theorem tag?_eq_some {element : Node} {tag : Scalar} :
    element.tag? = some tag ↔ element.nameUse = .ok (.tag (.scalar tag)) := by
  unfold tag?
  split
  · rename_i used
    simp [used]
  · rename_i other
    exact ⟨nofun, fun used => absurd used (other tag)⟩

theorem component?_eq_some {element : Node} {name : Scalar} :
    element.component? = some name ↔ ∃ component, element.nameUse = .ok (.component component) ∧
      name = .text component := by
  unfold component?
  split
  · rename_i component used
    simp [used, eq_comm]
  · rename_i other
    exact ⟨nofun, fun ⟨component, used, _⟩ => absurd used (other component)⟩

/-- The name of a tag is not that of a component. -/
theorem componentName?_of_tag? {element : Node} {tag : Scalar} (isTag : element.tag? = some tag) :
    componentName? (.scalar tag) = .ok none := by
  obtain ⟨_, _, _, _, _, classified⟩ := exists_classify_of_nameUse (tag?_eq_some.mp isTag)
  obtain ⟨_, same⟩ | same | ⟨_, plain, _, _, _, used⟩ := classify_plain_cases classified
  · cases same
  · cases same
  · obtain ⟨_, _, same⟩ | ⟨none, same | same⟩ := useOfPlainName_cases used
    · cases same
    · cases same
    · cases same
      exact none

/-- The name of a component is that of an identifier, and begins with no lower-case letter. -/
theorem exists_of_component? {element : Node} {name : Scalar} (isComponent : element.component? = some name) :
    ∃ text, name = .text text ∧ isIdentifierName text = true ∧ startsLowercase text = false := by
  obtain ⟨component, used, rfl⟩ := component?_eq_some.mp isComponent
  obtain ⟨_, _, _, _, _, classified⟩ := exists_classify_of_nameUse used
  obtain ⟨_, same⟩ | same | ⟨_, plain, _, _, _, used⟩ := classify_plain_cases classified
  · cases same
  · cases same
  · obtain ⟨found, named, same⟩ | ⟨_, same | same⟩ := useOfPlainName_cases used
    · cases same
      obtain rfl := componentName?_eq_some named
      have chosen := (componentName?_text component).symm.trans named
      refine ⟨component, rfl, ?_⟩
      cases identifier : isIdentifierName component <;> cases lower : startsLowercase component <;>
        simp [identifier, lower] at chosen
      exact ⟨rfl, rfl⟩
    · cases same
    · cases same

end Node

namespace Findings

/-- What holds of a name whenever it holds of the same name holds of the first occurrences if it holds of all
names. -/
theorem forall_firstOccurrences {holds : Scalar → Prop} (congr : ∀ a b, a.same b = true → holds a → holds b)
    {names : List Scalar} : (∀ name ∈ firstOccurrences names, holds name) ↔ ∀ name ∈ names, holds name := by
  have transfer {list others : List Scalar} (sameNames : ∀ name, others.any (·.same name) = list.any (·.same name))
      (all : ∀ name ∈ others, holds name) : ∀ name ∈ list, holds name := by
    intro name member
    have there : list.any (·.same name) = true := List.any_eq_true.mpr ⟨name, member, Scalar.same_self name⟩
    obtain ⟨other, inOthers, same⟩ := List.any_eq_true.mp ((sameNames name).trans there)
    exact congr other name same (all other inOthers)
  exact ⟨transfer (any_same_firstOccurrences names), transfer fun name =>
    (any_same_firstOccurrences names name).symm⟩

/-- A text is found exactly if an element has it for its name. -/
theorem text_mem_firstOccurrences {names : List Scalar} {text : String} :
    .text text ∈ firstOccurrences names ↔ .text text ∈ names := by
  have found : (∀ name ∈ firstOccurrences names, name ≠ .text text) ↔ ∀ name ∈ names, name ≠ .text text := by
    refine forall_firstOccurrences fun a b same differs => ?_
    rintro rfl
    exact differs (Scalar.eq_text_of_same ((Scalar.same_comm _ _).trans same))
  constructor
  · intro inFirst
    by_contra absent
    exact found.mpr (fun name member same => absent (same ▸ member)) _ inFirst rfl
  · intro member
    by_contra absent
    exact found.mp (fun name inFirst same => absent (same ▸ inFirst)) _ member rfl

section Within

variable {known : NameSet} {elements : List Node}

/-- Components have the names of identifiers that begin with no lower-case letter. -/
theorem exists_of_mem_components : ∀ name ∈ (ofElements known elements).components,
    ∃ text, name = .text text ∧ isIdentifierName text = true ∧ startsLowercase text = false := by
  refine (forall_firstOccurrences fun a b same => ?_).mpr fun name member => ?_
  · rintro ⟨text, rfl, valid⟩
    exact ⟨text, Scalar.eq_text_of_same same, valid⟩
  · obtain ⟨inNames, _⟩ := List.mem_filter.mp member
    obtain ⟨element, _, isComponent⟩ := List.mem_filterMap.mp inNames
    exact Node.exists_of_component? isComponent

/-- A text that can name a component is not found as a tag. -/
theorem text_not_mem_tags {text : String} (identifier : isIdentifierName text = true)
    (lower : startsLowercase text = false) : .text text ∉ (ofElements known elements).tags := by
  intro inTags
  obtain ⟨element, _, isTag⟩ := List.mem_filterMap.mp (text_mem_firstOccurrences.mp inTags)
  have named := (componentName?_text text).symm.trans (Node.componentName?_of_tag? isTag)
  simp [identifier, lower] at named

/-- No name is found as a tag and as a component. -/
theorem not_mem_tags_of_mem_components {name : Scalar} (found : name ∈ (ofElements known elements).components) :
    name ∉ (ofElements known elements).tags := by
  obtain ⟨text, rfl, identifier, lower⟩ := exists_of_mem_components name found
  exact text_not_mem_tags identifier lower

/-- A text is found as an object exactly if a dotted name begins with it and it is not known. -/
theorem text_mem_objects_iff {text : String} :
    .text text ∈ (ofElements known elements).objects ↔
      (∃ element ∈ elements, element.chainRoot? = some (.text text)) ∧ known.contains (.text text) = false := by
  refine text_mem_firstOccurrences.trans (List.mem_filter.trans ?_)
  rw [List.mem_filterMap, Bool.not_eq_true']

end Within

/-- The name of an identifier is a text. -/
theorem exists_text_of_isIdentifierName {name : Scalar} (valid : (Value.scalar name).isIdentifierName = .ok true) :
    ∃ text, name = .text text := by
  by_contra noText
  have isData : (Value.scalar name).isIdentifierName =
      if (Value.scalar name).holds then .error .wrongShape else .ok false := by
    cases name with
    | text text => exact absurd ⟨text, rfl⟩ noText
    | null | bool | int | real => rfl
  rw [isData] at valid
  split at valid <;> cases valid

/-- First occurrences are names of identifiers exactly if all names are. -/
theorem forall_isIdentifierName_firstOccurrences {names : List Scalar} :
    (∀ name ∈ firstOccurrences names, (Value.scalar name).isIdentifierName = .ok true) ↔
      ∀ name ∈ names, (Value.scalar name).isIdentifierName = .ok true := by
  refine forall_firstOccurrences fun name other same valid => ?_
  obtain ⟨text, rfl⟩ := exists_text_of_isIdentifierName valid
  rwa [Scalar.eq_text_of_same same]

end Findings

end JsxRouting
