import JsxRouting.Proofs.PlainData

namespace JsxRouting

/-- What the kind of an element does not know without an older mark that does not hold, and without `data` that held
nothing else. -/
def dropFalseMark (members : Entries Value) : Entries Value :=
  match members.lookup "data" with
  | some (.object data) =>
    match data.lookup olderExplicitMark with
    | some mark =>
      let kept := Entries.erase data olderExplicitMark
      if mark.holds then members
      else if kept.isEmpty then Entries.erase members "data"
      else Entries.insert members "data" (.object kept)
    | none => members
  | _ => members

/-- What is left of what a kind does not know when a node is written and read again. Only an element that is not
explicit loses a mark. -/
def settledExtra (kind : Kind) (explicit : Bool) (extra : Value) : Value :=
  match extra with
  | .object members => if kind = .jsxElement ∧ explicit = false then .object (dropFalseMark members) else extra
  | _ => extra

/-- The `data` of an element as it is kept apart from the mark: it holds something else, and an older mark holds
only in an explicit element. Anything but an object is no place for a mark. -/
def DataFits (explicit : Bool) : Option Json → Prop
  | none => True
  | some (.object data) =>
    data ≠ [] ∧ data.lookup explicitMark = none ∧ (Entries.holdsAt data olderExplicitMark = true → explicit = true)
  | some _ => explicit = false

/-- What a node of a kind with this mark does not know: members with keys that are not those of the kind. -/
structure ExtraFits (kind : Kind) (mark : Option Scalar) (members : Entries Json) : Prop where
  distinct : (Json.object members).hasDistinctKeys = true
  unknown : ∀ entry ∈ members, entry.1 ≠ "type" ∧ entry.1 ∉ kind.keys
  data : kind = .jsxElement → ∃ explicit, mark = some (.bool explicit) ∧ DataFits explicit (members.lookup "data")

/-- Members with keys that are not those of the kind, each of them once. -/
structure UnknownTo (kind : Kind) (members : Entries Json) : Prop where
  distinct : (Json.object members).hasDistinctKeys = true
  unknown : ∀ entry ∈ members, entry.1 ≠ "type" ∧ entry.1 ∉ kind.keys

theorem ExtraFits.unknownTo {kind : Kind} {mark : Option Scalar} {members : Entries Json}
    (fits : ExtraFits kind mark members) : UnknownTo kind members := ⟨fits.distinct, fits.unknown⟩

/-- The members of an object that the kind does not know. -/
def unknownMembers (kind : Kind) (members : Entries Json) : Entries Json :=
  members.filter fun member => member.1 != "type" && !kind.keys.contains member.1

/-- What is kept beside the fields of a node of the kind, and whether the node is marked. -/
def keptMembers (kind : Kind) (members : Entries Json) : Bool × Entries Json :=
  if kind = .jsxElement then takeExplicitMark (unknownMembers kind members)
    else (false, unknownMembers kind members)

/-- What is written behind the fields of a node of the kind. -/
def writtenMembers (kind : Kind) (explicit : Bool) (members : Entries Json) : Entries Json :=
  if kind = .jsxElement then markMembers explicit members else members

/-- The members with this `data`, or without any if it is empty. -/
def putData (data members : Entries Json) : Entries Json :=
  if data.isEmpty then Entries.erase members "data" else Entries.insert members "data" (.object data)

section Data

variable {members data : Entries Json}

theorem putData_nil (members : Entries Json) : putData [] members = Entries.erase members "data" := rfl

theorem putData_of_ne (members : Entries Json) (holdsOther : data ≠ []) :
    putData data members = Entries.insert members "data" (.object data) :=
  if_neg fun isEmpty => holdsOther (List.isEmpty_iff.mp isEmpty)

theorem putData_of_lookup (found : members.lookup "data" = some (.object data)) (holdsOther : data ≠ []) :
    putData data members = members := by
  rw [putData_of_ne _ holdsOther, Entries.insert_of_lookup found]

theorem putData_insert (data members : Entries Json) (value : Json) :
    putData data (Entries.insert members "data" value) = putData data members := by
  unfold putData
  rw [Entries.erase_insert, Entries.insert_insert]

theorem putData_append {front : Entries Json} (data members : Entries Json) (absent : front.lookup "data" = none) :
    putData data (front ++ members) = front ++ putData data members := by
  unfold putData
  split
  · have same := Entries.erase_of_absent absent
    unfold Entries.erase at same ⊢
    rw [List.filter_append, same]
  · exact Entries.insert_append _ _ absent

theorem takeExplicitMark_of_lookup (found : members.lookup "data" = some (.object data)) :
    takeExplicitMark members = (Entries.holdsAt data explicitMark || Entries.holdsAt data olderExplicitMark,
      putData (Entries.erase data explicitMark) members) := by
  simp only [takeExplicitMark, found, putData]
  split <;> rfl

theorem takeExplicitMark_of_noObject (noObject : ∀ data, members.lookup "data" ≠ some (.object data)) :
    takeExplicitMark members = (false, members) := by
  unfold takeExplicitMark
  split
  · rename_i found
    exact absurd found (noObject _)
  · rfl

theorem dataFits_of_noObject (noObject : ∀ data, members.lookup "data" ≠ some (.object data)) :
    DataFits false (members.lookup "data") := by
  unfold DataFits
  split
  · trivial
  · rename_i found
    exact absurd found (noObject _)
  · rfl

theorem markMembers_of_lookup (explicit : Bool) (found : members.lookup "data" = some (.object data)) :
    markMembers explicit members = putData (markData explicit data) members := by
  simp only [markMembers, found, putData]

theorem markMembers_of_absent (explicit : Bool) (absent : members.lookup "data" = none) :
    markMembers explicit members = putData (markData explicit []) members := by
  simp only [markMembers, absent, putData]

/-- Marking changes the `data` or nothing. -/
theorem markMembers_cases (explicit : Bool) (members : Entries Json) :
    markMembers explicit members = members ∨ ∃ data, markMembers explicit members = putData data members := by
  unfold markMembers
  split
  · exact .inr ⟨_, rfl⟩
  · exact .inr ⟨_, rfl⟩
  · exact .inl rfl

theorem mem_markMembers {explicit : Bool} {entry : String × Json} (member : entry ∈ markMembers explicit members) :
    entry.1 = "data" ∨ entry ∈ members := by
  obtain same | ⟨data, same⟩ := markMembers_cases explicit members
  · exact .inr (same ▸ member)
  · rw [same, putData] at member
    split at member
    · exact .inr (List.mem_filter.mp member).1
    · exact (Entries.mem_insert member).imp_left (congrArg Prod.fst)

theorem nodup_markMembers (explicit : Bool) (apart : (members.map (·.1)).Nodup) :
    ((markMembers explicit members).map (·.1)).Nodup := by
  obtain same | ⟨data, same⟩ := markMembers_cases explicit members
  · rwa [same]
  · rw [same, putData]
    split
    · exact apart.sublist (List.filter_sublist.map _)
    · exact Entries.nodup_insert apart _ _

theorem holdsAt_erase_of_ne (data : Entries Json) {key other : String} (ne : other ≠ key) :
    Entries.holdsAt (Entries.erase data key) other = Entries.holdsAt data other := by
  unfold Entries.holdsAt
  rw [Entries.lookup_erase_of_ne _ ne]

/-- Members fit after their `data` took a value that fits or was taken away. -/
theorem ExtraFits.put {mark : Option Scalar}
    (unknown : ∀ entry ∈ members, entry.1 ≠ "type" ∧ entry.1 ∉ Kind.jsxElement.keys)
    (distinct : (Json.object members).hasDistinctKeys = true) {explicit : Bool}
    (isMark : mark = some (.bool explicit))
    (values : (Json.object data).hasDistinctKeys = true)
    (fits : data ≠ [] → DataFits explicit (some (.object data))) :
    ExtraFits .jsxElement mark (putData data members) := by
  unfold putData
  split
  · refine ⟨hasDistinctKeys_filter distinct _, fun entry member => unknown entry (List.mem_filter.mp member).1,
      fun _ => ⟨explicit, isMark, ?_⟩⟩
    rw [Entries.lookup_erase_self]
    trivial
  · rename_i holdsOther
    refine ⟨hasDistinctKeys_insert distinct _ values, fun entry member => ?_, fun _ => ⟨explicit, isMark, ?_⟩⟩
    · obtain rfl | member := Entries.mem_insert member
      · exact (by decide : "data" ≠ "type" ∧ "data" ∉ Kind.jsxElement.keys)
      · exact unknown entry member
    · rw [Entries.lookup_insert_self]
      exact fits fun isEmpty => holdsOther (List.isEmpty_iff.mpr isEmpty)

/-- What is kept beside the fields of a node that is read fits. -/
theorem extraFits_keptMembers {kind : Kind} (distinct : (Json.object members).hasDistinctKeys = true)
    {mark : Option Scalar}
    (isMark : kind = .jsxElement → mark = some (.bool (keptMembers kind members).1)) :
    ExtraFits kind mark (keptMembers kind members).2 := by
  have distinctUnknown : (Json.object (unknownMembers kind members)).hasDistinctKeys = true :=
    hasDistinctKeys_filter distinct _
  have unknown : ∀ entry ∈ unknownMembers kind members, entry.1 ≠ "type" ∧ entry.1 ∉ kind.keys :=
    fun entry member => by
    simpa using (List.mem_filter.mp member).2
  by_cases isElement : kind = .jsxElement
  · subst isElement
    replace isMark := isMark rfl
    simp only [keptMembers, if_pos] at isMark ⊢
    generalize unknownMembers .jsxElement members = members at distinctUnknown unknown isMark
    by_cases isObject : ∃ data, members.lookup "data" = some (.object data)
    · obtain ⟨data, found⟩ := isObject
      rw [takeExplicitMark_of_lookup found] at isMark ⊢
      refine .put unknown distinctUnknown isMark
        (hasDistinctKeys_filter (hasDistinctKeys_of_lookup distinctUnknown found) _)
        fun holdsOther =>
          ⟨holdsOther, Entries.lookup_erase_self _ _, fun holds => Bool.or_eq_true_iff.mpr (.inr ?_)⟩
      rwa [holdsAt_erase_of_ne _ (by decide)] at holds
    · rw [takeExplicitMark_of_noObject fun data found => isObject ⟨data, found⟩] at isMark ⊢
      exact ⟨distinctUnknown, unknown, fun _ =>
        ⟨false, isMark, dataFits_of_noObject fun data found => isObject ⟨data, found⟩⟩⟩
  · rw [keptMembers, if_neg isElement]
    exact ⟨distinctUnknown, unknown, fun same => absurd same isElement⟩

/-- What is written behind other members does not depend on them, if the `data` is not among them. -/
theorem markMembers_append {front : Entries Json} (explicit : Bool) (members : Entries Json)
    (absent : front.lookup "data" = none) :
    markMembers explicit (front ++ members) = front ++ markMembers explicit members := by
  have sameData : (front ++ members).lookup "data" = members.lookup "data" := by
    rw [Entries.lookup_append, absent, Option.none_or]
  unfold markMembers
  rw [sameData]
  split
  · exact putData_append _ _ absent
  · exact putData_append _ _ absent
  · rfl

end Data

section Settling

variable {members data : Entries Json}

theorem takeExplicitMark_of_unmarked (found : members.lookup "data" = some (.object data)) (holdsOther : data ≠ [])
    (unmarked : data.lookup explicitMark = none) :
    takeExplicitMark members = (Entries.holdsAt data olderExplicitMark, members) := by
  have noMark : Entries.holdsAt data explicitMark = false := by
    unfold Entries.holdsAt
    rw [unmarked]
  rw [takeExplicitMark_of_lookup found, noMark, Bool.false_or, Entries.erase_of_absent unmarked,
    putData_of_lookup found holdsOther]

/-- An older mark that holds is left where it is, and else the newer one is put in. -/
theorem takeExplicitMark_markMembers_true (fits : DataFits true (members.lookup "data")) :
    takeExplicitMark (markMembers true members) = (true, members) := by
  cases found : members.lookup "data" with
  | none =>
    have marked : markMembers true members = Entries.insert members "data" (.object [(explicitMark, .bool true)]) :=
      markMembers_of_absent true found
    rw [marked, takeExplicitMark_of_lookup (Entries.lookup_insert_self _ _ _)]
    refine Prod.ext rfl ?_
    have emptied : Entries.erase [(explicitMark, Json.bool true)] explicitMark = [] := rfl
    rw [putData_insert, emptied, putData_nil, Entries.erase_of_absent found]
  | some value =>
    rw [found] at fits
    cases value with
    | scalar => cases fits
    | array => cases fits
    | object data =>
      obtain ⟨holdsOther, unmarked, _⟩ := fits
      rw [markMembers_of_lookup true found, markData, if_pos rfl]
      by_cases older : Entries.holdsAt data olderExplicitMark = true
      · rw [if_pos older, putData_of_lookup found holdsOther,
          takeExplicitMark_of_unmarked found holdsOther unmarked, older]
      · have isMarked := Entries.lookup_insert_self data explicitMark (.bool true)
        have markedHolds : Entries.insert data explicitMark (.bool true) ≠ [] := fun isEmpty => by
          rw [isEmpty] at isMarked
          cases isMarked
        rw [if_neg older, putData_of_ne _ markedHolds,
          takeExplicitMark_of_lookup (Entries.lookup_insert_self _ _ _),
          putData_insert, Entries.erase_insert, Entries.erase_of_absent unmarked,
            putData_of_lookup found holdsOther]
        refine Prod.ext (Bool.or_eq_true_iff.mpr (.inl ?_)) rfl
        unfold Entries.holdsAt
        rw [isMarked]
        rfl

/-- What an element that is not explicit is written with, by what its `data` is. -/
theorem markMembers_false_cases (fits : DataFits false (members.lookup "data")) :
    markMembers false members = members ∧ (∀ data, members.lookup "data" ≠ some (.object data)) ∨
      ∃ data, members.lookup "data" = some (.object data) ∧ data ≠ [] ∧ data.lookup explicitMark = none ∧
        Entries.holdsAt data olderExplicitMark = false ∧
        markMembers false members = putData (Entries.erase data olderExplicitMark) members := by
  cases found : members.lookup "data" with
  | none =>
    refine .inl ⟨?_, nofun⟩
    have marked : markMembers false members = putData [] members := markMembers_of_absent false found
    rw [marked, putData_nil, Entries.erase_of_absent found]
  | some value =>
    rw [found] at fits
    cases value with
    | scalar => exact .inl ⟨by simp only [markMembers, found], nofun⟩
    | array => exact .inl ⟨by simp only [markMembers, found], nofun⟩
    | object data =>
      obtain ⟨holdsOther, unmarked, older⟩ := fits
      exact .inr ⟨data, rfl, holdsOther, unmarked, Bool.eq_false_iff.mpr fun holds =>
        Bool.false_ne_true (older holds),
        markMembers_of_lookup false found⟩

/-- Without an older mark there is nothing to lose. -/
theorem markMembers_false_markMembers (fits : DataFits false (members.lookup "data")) :
    takeExplicitMark (markMembers false members) = (false, markMembers false members) ∧
      markMembers false (markMembers false members) = markMembers false members := by
  obtain ⟨same, noObject⟩ | ⟨data, found, holdsOther, unmarked, older, marked⟩ := markMembers_false_cases fits
  · rw [same]
    exact ⟨takeExplicitMark_of_noObject noObject, same⟩
  · rw [marked]
    by_cases isEmpty : Entries.erase data olderExplicitMark = []
    · have gone := Entries.lookup_erase_self members "data"
      rw [isEmpty, putData_nil,
        takeExplicitMark_of_noObject fun _ => by rw [gone]; nofun, markMembers_of_absent false gone]
      exact ⟨rfl, Entries.erase_of_absent gone⟩
    · have there : (putData (Entries.erase data olderExplicitMark) members).lookup "data" =
          some (.object (Entries.erase data olderExplicitMark)) := by
        rw [putData_of_ne _ isEmpty, Entries.lookup_insert_self]
      have noOlder := Entries.lookup_erase_self data olderExplicitMark
      have stillUnmarked : (Entries.erase data olderExplicitMark).lookup explicitMark = none := by
        rwa [Entries.lookup_erase_of_ne _ (by decide)]
      have noMark : markData false (Entries.erase data olderExplicitMark) = Entries.erase data olderExplicitMark :=
        Entries.erase_of_absent noOlder
      rw [takeExplicitMark_of_unmarked there isEmpty stillUnmarked, markMembers_of_lookup false there, noMark,
        putData_of_lookup there isEmpty]
      refine ⟨Prod.ext ?_ rfl, rfl⟩
      unfold Entries.holdsAt
      rw [noOlder]

/-- An element that is not explicit is written without an older mark. -/
theorem dropFalseMark_ofJsonMembers (fits : DataFits false (members.lookup "data")) :
    dropFalseMark (ofJsonMembers members) = ofJsonMembers (markMembers false members) := by
  unfold dropFalseMark
  rw [lookup_ofJsonMembers]
  obtain ⟨same, noObject⟩ | ⟨data, found, holdsOther, -, older, marked⟩ := markMembers_false_cases fits
  · rw [same]
    cases found : members.lookup "data" with
    | none => rfl
    | some value =>
      cases value with
      | scalar => rfl
      | array => rfl
      | object data => exact absurd found (noObject data)
  · rw [marked, found]
    simp only [Option.map_some, Value.ofJson, lookup_ofJsonMembers]
    unfold Entries.holdsAt at older
    cases isMark : data.lookup olderExplicitMark with
    | none =>
      rw [Entries.erase_of_absent isMark, putData_of_lookup found holdsOther]
      rfl
    | some mark =>
      rw [isMark] at older
      have noMark : (Value.ofJson mark).holds = false := (holds_ofJson mark).trans older
      simp only [Option.map_some, noMark, if_neg Bool.false_ne_true, erase_ofJsonMembers,
        isEmpty_ofJsonMembers, putData]
      split
      · rfl
      · exact insert_ofJsonMembers members "data" (.object (Entries.erase data olderExplicitMark))

/-- What is left of members when they are written and read again. -/
def settledMembers (kind : Kind) (explicit : Bool) (members : Entries Json) : Entries Json :=
  if kind = .jsxElement ∧ explicit = false then markMembers false members else members

/-- The mark that is written is the mark that is read. -/
theorem takeExplicitMark_markMembers {explicit : Bool} (fits : DataFits explicit (members.lookup "data")) :
    takeExplicitMark (markMembers explicit members) = (explicit, settledMembers .jsxElement explicit members) := by
  cases explicit with
  | false => exact (markMembers_false_markMembers fits).1
  | true => exact takeExplicitMark_markMembers_true fits

section Fitting

variable {kind : Kind} {mark : Option Scalar}

theorem ExtraFits.data_of_not_explicit (fits : ExtraFits kind mark members)
    (loses : kind = .jsxElement ∧ mark.any Scalar.holds = false) :
    mark = some (.bool false) ∧ DataFits false (members.lookup "data") := by
  obtain ⟨explicit, rfl, dataFits⟩ := fits.data loses.1
  obtain rfl : explicit = false := loses.2
  exact ⟨rfl, dataFits⟩

theorem ExtraFits.settledExtra (fits : ExtraFits kind mark members) :
    settledExtra kind (mark.any Scalar.holds) (.object (ofJsonMembers members)) =
      .object (ofJsonMembers (settledMembers kind (mark.any Scalar.holds) members)) := by
  unfold JsxRouting.settledExtra settledMembers
  by_cases loses : kind = .jsxElement ∧ mark.any Scalar.holds = false
  · simp only [if_pos loses, dropFalseMark_ofJsonMembers (fits.data_of_not_explicit loses).2]
  · simp only [if_neg loses]

theorem ExtraFits.settledMembers (fits : ExtraFits kind mark members) :
    ExtraFits kind mark (settledMembers kind (mark.any Scalar.holds) members) := by
  unfold JsxRouting.settledMembers
  split
  · rename_i loses
    obtain ⟨isMark, dataFits⟩ := fits.data_of_not_explicit loses
    obtain ⟨rfl, -⟩ := loses
    obtain ⟨same, _⟩ | ⟨data, found, _, unmarked, _, marked⟩ := markMembers_false_cases dataFits
    · rwa [same]
    · rw [marked]
      refine .put fits.unknown fits.distinct isMark
        (hasDistinctKeys_filter (hasDistinctKeys_of_lookup fits.distinct found) _)
        fun holdsOther => ⟨holdsOther, ?_, fun holds => ?_⟩
      · rwa [Entries.lookup_erase_of_ne _ (by decide)]
      · unfold Entries.holdsAt at holds
        rw [Entries.lookup_erase_self] at holds
        cases holds
  · exact fits

theorem ExtraFits.settledMembers_settledMembers (fits : ExtraFits kind mark members) :
    JsxRouting.settledMembers kind (mark.any Scalar.holds)
      (JsxRouting.settledMembers kind (mark.any Scalar.holds) members) =
      JsxRouting.settledMembers kind (mark.any Scalar.holds) members := by
  unfold JsxRouting.settledMembers
  by_cases loses : kind = .jsxElement ∧ mark.any Scalar.holds = false
  · simp only [if_pos loses, (markMembers_false_markMembers (fits.data_of_not_explicit loses).2).2]
  · simp only [if_neg loses]

end Fitting

end Settling

end JsxRouting
