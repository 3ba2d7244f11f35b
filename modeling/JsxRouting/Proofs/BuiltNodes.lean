import JsxRouting.Declarations.Injection
import JsxRouting.Proofs.FieldAccess

namespace JsxRouting

theorem Kind.ofName?_name (kind : Kind) : Kind.ofName? kind.name = some kind := by
  have found : ∀ kind ∈ Kind.all, Kind.ofName? kind.name = some kind := by decide +kernel
  exact found kind kind.mem_all

theorem Kind.ofType_name (kind : Kind) : Kind.ofType (.scalar (.text kind.name)) = .ok kind := by
  simp only [ofType, ofName?_name]

/-- Values under the names of fields are found as they are under the fields. -/
theorem lookup_map_toName (given : List (Field × Value)) (field : Field) :
    (given.map fun entry => (entry.1.toName, entry.2)).lookup field.toName = given.lookup field := by
  induction given with
  | nil => rfl
  | cons entry rest ih =>
    obtain ⟨first, value⟩ := entry
    have sameName : (field.toName == first.toName) = (field == first) := by
      rw [Bool.eq_iff_iff, beq_iff_eq, beq_iff_eq]
      exact Field.toName_injective.eq_iff
    simp only [List.map_cons, List.lookup_cons, sameName, ih]

/-- A node that is made from given values is what building it by the names of its kind and fields gives, which does
not fail. -/
theorem Node.build_eq_make (kind : Kind) (given : List (Field × Value)) (known : kind.knows given = true) :
    Node.build (.scalar (.text kind.name)) (given.map fun entry => (entry.1.toName, entry.2)) (.object []) =
      .ok (.make kind given known) := by
  have nothingUnexpected : ((given.map fun entry => (entry.1.toName, entry.2)).map (·.1)).filter
      (fun name => !(kind.fields.map (·.toName)).contains name) = [] := by
    refine List.filter_eq_nil_iff.mpr fun name member => ?_
    rw [List.map_map] at member
    obtain ⟨entry, inGiven, rfl⟩ := List.mem_map.mp member
    have own : entry.1 ∈ kind.fields := List.contains_iff_mem.mp (List.all_eq_true.mp known entry inGiven)
    have named : (kind.fields.map (·.toName)).contains entry.1.toName = true :=
      List.contains_iff_mem.mpr (List.mem_map_of_mem own)
    simp only [Function.comp_apply, named, Bool.not_true, Bool.false_eq_true, not_false_eq_true]
  unfold build
  rw [Kind.ofType_name]
  simp only [bind, Except.bind, nothingUnexpected, List.isEmpty_nil, if_true, lookup_map_toName]
  rfl

end JsxRouting
