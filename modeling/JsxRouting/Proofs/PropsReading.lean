import JsxRouting.Declarations.Props
import JsxRouting.Proofs.FieldAccess
import JsxRouting.Proofs.Outcomes

namespace JsxRouting

/-- The field with the pattern of a parameter around which something stays where it is. -/
def Node.patternField? (parameter : Node) : Option Field :=
  match parameter.kind with
  | .restElement => some .argument
  | .assignmentPattern => some .left
  | _ => none

/-- How the parameters of a function and the statements in front of its body can be after its props were
read. -/
inductive PropsReading.From (function : Node) : PropsReading → Prop
  | kept (props : Node) : From function ⟨props, [], function⟩
  | added {items : List Value} (props : Node) :
      function.get? .params = some (.list items) →
      From function ⟨props, [], function.set .params (.list (items ++ [.node (.identifier propsParameter)]))⟩
  /-- The pattern in the argument of a rest parameter or on the left of a default value. -/
  | within {parameter : Node} {rest : List Value} {field : Field} (props : Node) :
      function.get? .params = some (.list (.node parameter :: rest)) → parameter.patternField? = some field →
      From function ⟨props, [.propsPrelude ((parameter.get? field).getD .null)],
        function.set .params (.list (.node (parameter.set field (.node (.identifier propsParameter))) :: rest))⟩
  | whole {first : Value} {rest : List Value} (props : Node) :
      function.get? .params = some (.list (first :: rest)) →
      (∀ parameter, first = .node parameter → parameter.patternField? = none) →
      From function ⟨props, [.propsPrelude first],
        function.set .params (.list (.node (.identifier propsParameter) :: rest))⟩

namespace Node

theorem setFirstParameter_eq_ok {function after first : Node} {params : Value}
    (replaced : function.setFirstParameter params first = .ok after) :
    ∃ old rest, params = .list (old :: rest) ∧ after = function.set .params (.list (.node first :: rest)) := by
  unfold setFirstParameter at replaced
  split at replaced
  · rename_i old rest
    cases replaced
    exact ⟨old, rest, rfl, rfl⟩
  · cases replaced

theorem firstParameter_list {first old : Value} {rest : List Value}
    (isFirst : firstParameter (.list (old :: rest)) = .ok first) : old = first := by
  cases isFirst
  rfl

theorem readRestParameter_from {function parameter : Node} {params : Value} {reading : PropsReading}
    (isParams : function.get? .params = some params) (isFirst : firstParameter params = .ok (.node parameter))
    (isRest : parameter.kind = .restElement) (read : function.readRestParameter params parameter = .ok reading) :
    PropsReading.From function reading := by
  dsimp only [readRestParameter] at read
  split at read
  · cases read
    exact .kept _
  · obtain ⟨after, replaced, read⟩ := bind_eq_ok_iff.mp read
    cases read
    obtain ⟨old, rest, rfl, rfl⟩ := setFirstParameter_eq_ok replaced
    obtain rfl := firstParameter_list isFirst
    exact .within _ isParams (by rw [patternField?, isRest])

theorem readDefaultParameter_from {function parameter : Node} {params : Value} {reading : PropsReading}
    (isParams : function.get? .params = some params) (isFirst : firstParameter params = .ok (.node parameter))
    (isDefault : parameter.kind = .assignmentPattern)
    (read : function.readDefaultParameter params parameter = .ok reading) :
    PropsReading.From function reading := by
  dsimp only [readDefaultParameter] at read
  split at read
  · cases read
    exact .kept _
  · obtain ⟨after, replaced, read⟩ := bind_eq_ok_iff.mp read
    cases read
    obtain ⟨old, rest, rfl, rfl⟩ := setFirstParameter_eq_ok replaced
    obtain rfl := firstParameter_list isFirst
    exact .within _ isParams (by rw [patternField?, isDefault])

theorem readArrowParameter_from {function : Node} {params first : Value} {reading : PropsReading}
    (isParams : function.get? .params = some params) (isFirst : firstParameter params = .ok first)
    (noField : ∀ parameter, first = .node parameter → parameter.patternField? = none)
    (read : function.readArrowParameter params first = .ok reading) : PropsReading.From function reading := by
  dsimp only [readArrowParameter] at read
  split at read
  · split at read
    · cases read
      exact .added _ isParams
    · cases read
  · obtain ⟨after, replaced, read⟩ := bind_eq_ok_iff.mp read
    cases read
    obtain ⟨old, rest, rfl, rfl⟩ := setFirstParameter_eq_ok replaced
    obtain rfl := firstParameter_list isFirst
    exact .whole _ isParams noField

theorem readProps_from {function : Node} {reading : PropsReading} (read : function.readProps = .ok reading) :
    PropsReading.From function reading := by
  unfold readProps at read
  cases isParams : function.get? .params with
  | none =>
    rw [isParams] at read
    cases read
  | some params =>
    rw [isParams] at read
    obtain ⟨first, isFirst, read⟩ := bind_eq_ok_iff.mp read
    have plainFrom : (∀ parameter, first = .node parameter → parameter.patternField? = none) →
        (if function.is .arrowFunctionExpression then function.readArrowParameter params first
          else .ok ⟨firstElement (identifier "arguments"), [], function⟩) = .ok reading →
        PropsReading.From function reading := by
      intro noField read
      split at read
      · exact readArrowParameter_from isParams isFirst noField read
      · cases read
        exact .kept _
    dsimp only at read
    generalize (if function.is .arrowFunctionExpression then function.readArrowParameter params first
      else .ok ⟨firstElement (identifier "arguments"), [], function⟩) = plain at read plainFrom
    split at read
    · split at read
      · cases read
        exact .kept _
      · rename_i isRest
        exact readRestParameter_from isParams isFirst isRest read
      · rename_i isDefault
        exact readDefaultParameter_from isParams isFirst isDefault read
      · rename_i noRest noDefault
        refine plainFrom (fun parameter same => ?_) read
        cases same
        unfold patternField?
        split
        · exact absurd ‹_› noRest
        · exact absurd ‹_› noDefault
        · rfl
    · rename_i noNode
      exact plainFrom (fun parameter same => absurd same (noNode parameter)) read

end Node

namespace PropsReading.From

variable {function : Node} {reading : PropsReading}

theorem kind (read : reading.From function) : reading.function.kind = function.kind := by
  cases read <;> simp

/-- At most one statement is needed in front of the body. -/
theorem length_prelude (read : reading.From function) : reading.prelude.length ≤ 1 := by
  cases read <;> simp

theorem propsPrelude_of_mem (read : reading.From function) {statement : Node}
    (member : statement ∈ reading.prelude) :
    ∃ pattern, statement = .propsPrelude pattern := by
  cases read with
  | kept | added => cases member
  | within | whole => exact ⟨_, List.mem_singleton.mp member⟩

/-- Only the parameters change. -/
theorem get?_of_ne (read : reading.From function) {field : Field} (ne : field ≠ .params) :
    reading.function.get? field = function.get? field := by
  cases read with
  | kept => rfl
  | added | within | whole => exact Node.get?_set_of_ne function _ ne

end PropsReading.From

end JsxRouting
