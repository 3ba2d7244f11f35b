import JsxRouting.Proofs.AlikeDeclarations
import JsxRouting.Proofs.ElementFaults

namespace JsxRouting

variable {likeness : Likeness}

theorem Value.Alike.getD {value other : Option Value}
    (alike : Option.Rel (Value.Alike likeness false) value other) :
    (value.getD .null).Alike likeness false (other.getD .null) := by
  cases alike with
  | none => exact .refl_scalar _
  | some alike => exact alike

theorem Value.Alike.nodeOf? {value other : Value} {closing : Bool}
    (alike : value.Alike likeness closing other) (kind : Kind) :
    Option.Rel (Node.Alike likeness closing) (value.nodeOf? kind) (other.nodeOf? kind) := by
  cases alike with
  | scalar | list | object => exact .none
  | node alike =>
    rw [Value.nodeOf?, Value.nodeOf?, alike.is]
    split
    · exact .some alike
    · exact .none

theorem Value.Alike.isNull {value other : Value} {closing : Bool} (alike : value.Alike likeness closing other) :
    other.isNull = value.isNull := by
  cases alike with
  | @scalar _ value other scalars =>
    have null := likeness.null_iff scalars
    cases value <;> cases other <;> first | rfl | cases null.mp rfl | cases null.mpr rfl
  | list | object | node => rfl

/-- What is neither a list nor a text has no first part, and is to hold nothing. -/
theorem firstParameter_scalar {value : Scalar} (noText : ∀ text, value ≠ .text text) :
    firstParameter (.scalar value) = if value.holds then .error .wrongShape else .ok .null := by
  cases value with
  | text text => exact absurd rfl (noText text)
  | null | bool | int | real => rfl

theorem firstParameter_alike {params others : Value} (alike : params.Alike likeness false others) :
    Agree (Value.Alike likeness false) (firstParameter params) (firstParameter others) := by
  have sameHolds := alike.holds
  cases alike with
  | @scalar _ value other scalars =>
    by_cases isText : ∃ text, value = .text text
    · obtain ⟨text, rfl⟩ := isText
      rw [(likeness.text_iff scalars text).mpr rfl]
      refine .refl fun first isFirst => ?_
      unfold firstParameter at isFirst
      dsimp only at isFirst
      split at isFirst <;> cases isFirst <;> exact .refl_scalar _
    · rw [firstParameter_scalar fun text isValue => isText ⟨text, isValue⟩,
        firstParameter_scalar fun text isOther => isText ⟨text, (likeness.text_iff scalars text).mp isOther⟩]
      rw [Value.holds, Value.holds] at sameHolds
      rw [sameHolds]
      split
      · exact .error _
      · exact .ok (.refl_scalar _)
  | list items =>
    cases items with
    | nil => exact .ok (.refl_scalar _)
    | cons first _ => exact .ok first
  | object | node =>
    simp only [firstParameter, sameHolds]
    split
    · exact .error _
    · exact .ok (.refl_scalar _)

/-- Readings of the props from functions that are alike. -/
structure PropsReading.Alike (likeness : Likeness) (closing : Bool) (reading other : PropsReading) : Prop where
  props : reading.props.Alike likeness false other.props
  prelude : List.Forall₂ (Node.Alike likeness false) reading.prelude other.prelude
  function : reading.function.Alike likeness closing other.function

namespace Node

variable {function other : Node} {closing : Bool} (isFunction : function.isFunction = true)
  (alike : function.Alike likeness closing other)

include isFunction alike

theorem setParams_alike {params others : Value} (values : params.Alike likeness false others) :
    (function.set .params params).Alike likeness closing (other.set .params others) :=
  alike.set (by decide) (.inr (Kind.fields_of_isFunction isFunction).2.1) (.of_ordinary (by rfl) values)

theorem setFirstParameter_alike {params others : Value} (values : params.Alike likeness false others)
    {first changed : Node}
    (firsts : first.Alike likeness false changed) :
    Agree (Node.Alike likeness closing) (function.setFirstParameter params first)
      (other.setFirstParameter others changed) := by
  cases values with
  | scalar | object | node => exact .error _
  | list items =>
    cases items with
    | nil => exact .error _
    | cons _ rest => exact .ok (setParams_alike isFunction alike (.list (.cons (.node firsts) rest)))

theorem readRestParameter_alike {params others : Value} (values : params.Alike likeness false others)
    {rest changed : Node}
    (isRest : rest.kind = .restElement) (rests : rest.Alike likeness false changed) :
    Agree (PropsReading.Alike likeness closing) (function.readRestParameter params rest)
      (other.readRestParameter others changed) := by
  have arguments := Value.Alike.getD (rests.get? (show Field.argument.isOrdinary = true from rfl))
  have replaced : (rest.set .argument (.node (identifier propsParameter))).Alike likeness false
      (changed.set .argument (.node (identifier propsParameter))) :=
    rests.set (by decide) (.inr (by rw [isRest]; decide)) (.node (by rfl) (identifier_alike _))
  unfold readRestParameter
  obtain ⟨absent, otherAbsent⟩ | ⟨name, otherName, isName, isOther, names⟩ :=
    rel_cases (arguments.nodeOf? .identifier)
  · simp only [absent, otherAbsent]
    exact (setFirstParameter_alike isFunction alike values replaced).bind fun _ _ functions =>
      .ok ⟨firstElement_alike (identifier_alike _), .cons (propsPrelude_alike arguments) .nil, functions⟩
  · simp only [isName, isOther]
    exact .ok ⟨firstElement_alike (identifierOf_alike (.getD (names.get? rfl))), .nil, alike⟩

theorem readDefaultParameter_alike {params others : Value} (values : params.Alike likeness false others)
    {withDefault changed : Node} (isDefault : withDefault.kind = .assignmentPattern)
    (defaults : withDefault.Alike likeness false changed) :
    Agree (PropsReading.Alike likeness closing) (function.readDefaultParameter params withDefault)
      (other.readDefaultParameter others changed) := by
  have targets := Value.Alike.getD (defaults.get? (show Field.left.isOrdinary = true from rfl))
  have replaced : (withDefault.set .left (.node (identifier propsParameter))).Alike likeness false
      (changed.set .left (.node (identifier propsParameter))) :=
    defaults.set (by decide) (.inr (by rw [isDefault]; decide)) (.node (by rfl) (identifier_alike _))
  unfold readDefaultParameter
  obtain ⟨absent, otherAbsent⟩ | ⟨name, otherName, isName, isOther, names⟩ :=
    rel_cases (targets.nodeOf? .identifier)
  · simp only [absent, otherAbsent]
    exact (setFirstParameter_alike isFunction alike values replaced).bind fun _ _ functions =>
      .ok ⟨identifier_alike _, .cons (propsPrelude_alike targets) .nil, functions⟩
  · simp only [isName, isOther]
    exact .ok ⟨identifierOf_alike (.getD (names.get? rfl)), .nil, alike⟩

theorem readArrowParameter_alike {params others first otherFirst : Value}
    (values : params.Alike likeness false others)
    (firsts : first.Alike likeness false otherFirst) :
    Agree (PropsReading.Alike likeness closing) (function.readArrowParameter params first)
      (other.readArrowParameter others otherFirst) := by
  unfold readArrowParameter
  dsimp only
  rw [firsts.isNull]
  split
  · cases values with
    | scalar | object | node => exact .error _
    | list items =>
      exact .ok ⟨identifier_alike _, .nil, setParams_alike isFunction alike
        (.list (List.rel_append items (.cons (.node (identifier_alike _)) .nil)))⟩
  · exact (setFirstParameter_alike isFunction alike values (identifier_alike _)).bind fun _ _ functions =>
      .ok ⟨identifier_alike _, .cons (propsPrelude_alike firsts) .nil, functions⟩

/-- Entry points that are alike read their props in the same way. -/
theorem readProps_alike : Agree (PropsReading.Alike likeness closing) function.readProps other.readProps := by
  obtain ⟨params, others, isParams, isOthers, values⟩ :=
    alike.exists_get? (Kind.fields_of_isFunction isFunction).2.1
  have values := values.ordinary rfl
  unfold readProps
  simp only [isParams, isOthers]
  refine (firstParameter_alike values).bind fun first otherFirst firsts => ?_
  have plain : Agree (PropsReading.Alike likeness closing)
      (if function.is .arrowFunctionExpression then function.readArrowParameter params first
        else .ok ⟨firstElement (identifier "arguments"), [], function⟩)
      (if other.is .arrowFunctionExpression then other.readArrowParameter others otherFirst
        else .ok ⟨firstElement (identifier "arguments"), [], other⟩) := by
    rw [alike.is]
    split
    · exact readArrowParameter_alike isFunction alike values firsts
    · exact .ok ⟨.of_made false rfl, .nil, alike⟩
  generalize (if function.is .arrowFunctionExpression then function.readArrowParameter params first
    else .ok ⟨firstElement (identifier "arguments"), [], function⟩) = reading at plain ⊢
  generalize (if other.is .arrowFunctionExpression then other.readArrowParameter others otherFirst
    else .ok ⟨firstElement (identifier "arguments"), [], other⟩) = otherReading at plain ⊢
  cases firsts with
  | scalar | list | object => exact plain
  | node parameters =>
    simp only [parameters.kind]
    split
    · exact .ok ⟨identifierOf_alike (.getD (parameters.get? rfl)), .nil, alike⟩
    · rename_i isRest
      exact readRestParameter_alike isFunction alike values isRest parameters
    · rename_i isDefault
      exact readDefaultParameter_alike isFunction alike values isDefault parameters
    · exact plain

end Node

/-- Functions that are alike and ready to receive declarations. -/
structure Prepared.Alike (likeness : Likeness) (closing : Bool) (prepared other : Prepared) : Prop where
  props : Option.Rel (Node.Alike likeness false) prepared.props other.props
  prelude : List.Forall₂ (Node.Alike likeness false) prepared.prelude other.prelude
  function : prepared.function.Alike likeness closing other.function

namespace Node

variable {function other : Node} {closing : Bool}

theorem prepare_alike (isFunction : function.isFunction = true) (alike : function.Alike likeness closing other)
    (isEntryPoint : Bool) :
    Agree (Prepared.Alike likeness closing) (function.prepare isEntryPoint) (other.prepare isEntryPoint) := by
  cases isEntryPoint with
  | true =>
    exact (readProps_alike isFunction alike).map fun _ _ reading =>
      ⟨.some reading.props, reading.prelude, reading.function⟩
  | false => exact .ok ⟨.none, .nil, alike⟩

/-- Statements that are alike are put in front of bodies that are alike. -/
theorem prependToBody_alike (isFunction : function.isFunction = true)
    (alike : function.Alike likeness closing other)
    {statements others : List Node} (fronts : List.Forall₂ (Node.Alike likeness false) statements others) :
    Agree (Node.Alike likeness closing) (function.prependToBody statements) (other.prependToBody others) := by
  have hasBody := (Kind.fields_of_isFunction isFunction).1
  obtain ⟨body, otherBody, isBody, isOther, bodies⟩ := alike.exists_get? hasBody
  have bodies := bodies.ordinary rfl
  have setBody {value changed : Value} (values : value.Alike likeness false changed) :
      (function.set .body value).Alike likeness closing (other.set .body changed) :=
    alike.set (by decide) (.inr hasBody) (.of_ordinary (by rfl) values)
  unfold prependToBody
  simp only [isBody, isOther]
  obtain ⟨noBlock, noOther⟩ | ⟨block, otherBlock, isBlock, isOtherBlock, blocks⟩ :=
    rel_cases (bodies.nodeOf? .blockStatement)
  · simp only [noBlock, noOther]
    have blocked := setBody (.node (block_alike (List.rel_append (nodes_alike fronts)
      (.cons (.node (returnStatement_alike bodies)) .nil))))
    rw [alike.is]
    split
    · rename_i isArrow
      rw [Node.is, beq_iff_eq] at isArrow
      exact .ok (blocked.set (by decide) (.inr (by rw [kind_set, isArrow]; decide)) (.refl_scalar _ _))
    · exact .ok blocked
  · simp only [isBlock, isOtherBlock]
    have isBlock := (Value.nodeOf?_eq_some.mp isBlock).2
    obtain ⟨absent, otherAbsent⟩ | ⟨list, otherList, isList, isOtherList, lists⟩ :=
      rel_cases (blocks.get? (show Field.body.isOrdinary = true from rfl))
    · simp only [absent, otherAbsent]
      exact .error _
    · simp only [isList, isOtherList]
      cases lists with
      | scalar | object | node => exact .error _
      | list items =>
        exact .ok (setBody (.node (blocks.set (by decide) (.inr (by rw [isBlock]; decide)) (.of_ordinary (by rfl)
          (.list (List.rel_append (nodes_alike fronts) items))))))

/-- Functions that are alike receive declarations for frames that are alike, or neither receives any. -/
theorem injectDeclarations_alike (isFunction : function.isFunction = true)
    (alike : function.Alike likeness closing other)
    {frame otherFrame : Frame} (frames : frame.Alike likeness otherFrame) (usesProvider : Bool) :
    Agree (Option.Rel (Node.Alike likeness closing)) (function.injectDeclarations frame usesProvider)
      (other.injectDeclarations otherFrame usesProvider) := by
  rw [injectDeclarations_eq, injectDeclarations_eq, frames.isEmpty, frames.isEntryPoint]
  split
  · exact .ok .none
  · refine (prepare_alike isFunction alike _).bind_of_ok fun prepared otherPrepared isReady ready => ?_
    have statements := List.rel_append ready.prelude (frames.findings.declarations usesProvider ready.props)
    obtain ⟨props, read⟩ := prepare_from isReady
    have isFunction : prepared.function.isFunction = true := (congrArg Kind.isFunction read.kind).trans isFunction
    exact (prependToBody_alike isFunction ready.function statements).bind fun _ _ functions => .ok (.some functions)

/-- Elements that are alike are routed in the same way. -/
theorem route_alike {element other : Node} (isElement : element.kind = .jsxElement)
    (alike : element.Alike likeness closing other) {tag otherTag : Value}
    (tags : tag.Alike likeness false otherTag) :
    Agree (Node.Alike likeness closing) (element.route tag) (other.route otherTag) := by
  have hasOpening : .openingElement ∈ element.kind.fields := by rw [isElement]; decide
  have hasClosing : .closingElement ∈ element.kind.fields := by rw [isElement]; decide
  obtain ⟨opening, otherOpening, isOpening, isOtherOpening, openings⟩ := alike.exists_get? hasOpening
  obtain ⟨closingPart, otherClosing, isClosing, isOtherClosing, closings⟩ := alike.exists_get? hasClosing
  unfold route
  rw [isOpening, isOtherOpening, isClosing, isOtherClosing]
  cases openings.ordinary rfl with
  | scalar | list | object => exact .error _
  | @node _ opening otherOpening parts =>
    obtain ⟨absent, otherAbsent⟩ | ⟨name, otherName, isName, isOther, names⟩ :=
      rel_cases (parts.get? (show Field.name.isOrdinary = true from rfl))
    · simp only [absent, otherAbsent]
      exact .error _
    · simp only [isName, isOther]
      have named : (opening.set .name (.node (routedName name))).Alike likeness false
          (otherOpening.set .name (.node (routedName otherName))) :=
        parts.set (by decide) (.inr (parts.mem_fields isName)) (.node (by rfl) (routedName_alike names))
      have opened := alike.set (by decide) (.inr hasOpening) (.node (by rfl) named)
      cases closings with
      | @value _ closingPart otherClosing closings =>
      cases closings with
      | @scalar _ value other scalars =>
        have null := likeness.null_iff scalars
        cases value <;> cases other <;>
          first | exact .ok opened | exact .error _ | cases null.mp rfl | cases null.mpr rfl
      | list | object => exact .error _
      | node ends =>
        have tagName : (make .jsxIdentifier [(.name, tag)]).Alike likeness false
          (make .jsxIdentifier [(.name, otherTag)]) :=
          .make (by decide) (.cons (.of_ordinary (by rfl) tags) .nil)
        exact .ok (opened.set (by decide) (.inr (by rw [kind_set]; exact hasClosing)) (.value (.node
          (ends.set (by decide) (.inl rfl) (.node (by rfl) (routedName_alike (.node tagName)))))))

theorem prependStatement_alike {program other : Node} (alike : program.Alike likeness false other)
    {statement : Node}
    (statements : statement.Alike likeness false statement) :
    Agree (Node.Alike likeness false) (program.prependStatement statement) (other.prependStatement statement) := by
  unfold prependStatement
  obtain ⟨absent, otherAbsent⟩ | ⟨body, otherBody, isBody, isOther, bodies⟩ :=
    rel_cases (alike.get? (show Field.body.isOrdinary = true from rfl))
  · rw [absent, otherAbsent]
    exact .error _
  · rw [isBody, isOther]
    cases bodies with
    | scalar | object | node => exact .error _
    | list items =>
      exact .ok (alike.set (by decide) (.inr (alike.mem_fields isBody)) (.of_ordinary (by rfl)
        (.list (.cons (.node statements) items))))

end Node

end JsxRouting
