import JsxRouting.Pass.Run
import JsxRouting.Proofs.AlikeFunctions
import JsxRouting.Proofs.AlikeScopes

namespace JsxRouting

variable {likeness : Likeness}

/-- Progress that is alike, whatever was noted on the way. -/
structure Progress.Alike (likeness : Likeness) (progress other : Progress) : Prop where
  frames : List.Forall₂ (Frame.Alike likeness) progress.stack.frames other.stack.frames
  needsHelper : other.needsHelper = progress.needsHelper
  needsProvider : other.needsProvider = progress.needsProvider

/-- Passes with the same options and with names of the top scope that are alike. -/
structure Pass.Alike (likeness : Likeness) (pass other : Pass) : Prop where
  options : other.options = pass.options
  topScope : pass.topScope.Alike likeness other.topScope

/-- Places of the same sort, beside names that are alike. -/
inductive Place.Alike (likeness : Likeness) : Place → Place → Prop
  | plain : Alike likeness .plain .plain
  | initOf {name other : Value} : name.Alike likeness false other → Alike likeness (.initOf name) (.initOf other)
  | routedPart : Alike likeness .routedPart .routedPart

section Progress

theorem modifyLast_alike {change otherChange : Frame → Frame} {list others : List Frame}
    (frames : List.Forall₂ (Frame.Alike likeness) list others)
    (changes : ∀ frame other, frame.Alike likeness other → (change frame).Alike likeness (otherChange other)) :
    List.Forall₂ (Frame.Alike likeness) (ScopeStack.modifyLast change list)
      (ScopeStack.modifyLast otherChange others) := by
  induction frames with
  | nil => exact .nil
  | cons frame rest ih =>
    cases rest with
    | nil => exact .cons (changes _ _ frame) .nil
    | cons => exact .cons frame ih

theorem getLast?_alike {list others : List Frame} (frames : List.Forall₂ (Frame.Alike likeness) list others) :
    Option.Rel (Frame.Alike likeness) list.getLast? others.getLast? := by
  induction frames with
  | nil => exact .none
  | cons frame rest ih =>
    cases rest with
    | nil => exact .some frame
    | cons => rwa [List.getLast?_cons_cons, List.getLast?_cons_cons]

namespace Progress

variable {progress other : Progress} (alike : progress.Alike likeness other)

include alike

theorem Alike.note (notice otherNotice : Notice) : (progress.note notice).Alike likeness (other.note otherNotice) :=
  ⟨alike.frames, alike.needsHelper, alike.needsProvider⟩

theorem Alike.record (part : Frame.Part) {name changed : Scalar} (scalars : likeness.scalars name changed) :
    (progress.record part name).Alike likeness (other.record part changed) :=
  ⟨modifyLast_alike alike.frames fun _ _ frame => frame.insert part scalars, alike.needsHelper, alike.needsProvider⟩

theorem Alike.push (isEntryPoint : Bool) :
    (progress.push isEntryPoint).Alike likeness (other.push isEntryPoint) := by
  refine ⟨.cons ⟨rfl, fun part => ?_⟩ alike.frames, alike.needsHelper, alike.needsProvider⟩
  cases part <;> exact .refl _

theorem Alike.isEmpty : other.stack.isEmpty = progress.stack.isEmpty := by
  have frames := alike.frames
  unfold ScopeStack.isEmpty
  generalize progress.stack.frames = list at frames ⊢
  generalize other.stack.frames = others at frames ⊢
  cases frames <;> rfl

end Progress

end Progress

section Steps

variable {pass other : Pass} (passes : pass.Alike likeness other)

include passes

/-- Elements that are alike are recorded alike, and told to be routed under tags that are alike. -/
theorem trackElement_alike {root otherRoot : Frame} (roots : root.Alike likeness otherRoot) {element changed : Node}
    {closing : Bool} (isElement : element.kind = .jsxElement) (elements : element.Alike likeness closing changed)
    {progress otherProgress : Progress} (states : progress.Alike likeness otherProgress) :
    Agree (fun result other => Option.Rel likeness.scalars result.1 other.1 ∧ result.2.Alike likeness other.2)
      (pass.trackElement root element progress) (other.trackElement otherRoot changed otherProgress) := by
  unfold Pass.trackElement
  refine (elements.nameUse isElement).bind fun use otherUse uses => ?_
  cases uses with
  | object names =>
    refine names.asName.bind fun name otherName scalars => ?_
    have recorded : otherRoot.objects.contains otherName = root.objects.contains name :=
      (roots.get .objects).contains scalars
    rw [passes.topScope.contains scalars, recorded]
    split
    · exact .ok ⟨.none, states⟩
    · exact .ok ⟨.none, (states.record .objects scalars).note _ _⟩
  | component name =>
    have scalars := likeness.scalars_refl (.text name)
    have recorded : otherRoot.components.contains (.text name) = root.components.contains (.text name) :=
      (roots.get .components).contains scalars
    simp only [passes.topScope.contains scalars, recorded, states.needsHelper]
    split
    · exact .ok ⟨.none, states⟩
    · have needs (needed : Bool) : Progress.Alike likeness { progress with needsHelper := needed }
          { otherProgress with needsHelper := needed } := ⟨states.frames, rfl, states.needsProvider⟩
      exact .ok ⟨.none, ((needs _).record .components scalars).note _ _⟩
  | tag names =>
    refine names.asName.bind fun name otherName scalars => ?_
    have recorded : otherRoot.tags.contains otherName = root.tags.contains name :=
      (roots.get .tags).contains scalars
    refine (Node.route_alike isElement elements (.scalar scalars)).bind fun _ _ _ => ?_
    rw [recorded]
    split
    · exact .ok ⟨.some scalars, states⟩
    · exact .ok ⟨.some scalars, (states.record .tags scalars).note _ _⟩
  | namespaced | explicit => exact .ok ⟨.none, states⟩

end Steps

section Places

variable {place otherPlace : Place}

theorem Value.Alike.givenName? {value other : Value} (alike : value.Alike likeness false other) :
    Option.Rel (Value.Alike likeness false) value.givenName? other.givenName? := by
  unfold Value.givenName?
  obtain ⟨absent, otherAbsent⟩ | ⟨_, _, found, otherFound, names⟩ := rel_cases (alike.nodeOf? .identifier)
  · simp only [absent, otherAbsent]
    exact .none
  · simp only [found, otherFound]
    exact names.get? rfl

/-- In fields that are alike, the initial value of a variable stands beside names that are alike. -/
theorem Place.Alike.ofInit {fields others : List (Field × Value)}
    (alike : List.Forall₂ (FieldAlike likeness) fields others) :
    Place.Alike likeness (.ofInit fields) (.ofInit others) := by
  unfold Place.ofInit
  obtain ⟨absent, otherAbsent⟩ | ⟨_, _, found, otherFound, targets⟩ := rel_cases (lookup_alike alike .id)
  · rw [absent, otherAbsent]
    exact .plain
  · rw [found, otherFound]
    obtain ⟨unnamed, otherUnnamed⟩ | ⟨_, _, named, otherNamed, names⟩ := rel_cases (targets.ordinary rfl).givenName?
    · simp only [unnamed, otherUnnamed]
      exact .plain
    · simp only [named, otherNamed]
      exact .initOf names

theorem Place.Alike.hidesName (places : place.Alike likeness otherPlace) :
    otherPlace.hidesName = place.hidesName := by
  cases places <;> rfl

theorem Place.Alike.inField (places : place.Alike likeness otherPlace) (kind : Kind)
    {fields others : List (Field × Value)}
    (alike : List.Forall₂ (FieldAlike likeness) fields others) (routed : Bool) (field : Field) :
    Option.Rel (Place.Alike likeness) (place.inField kind fields routed field)
      (otherPlace.inField kind others routed field) := by
  unfold Place.inField
  rw [places.hidesName]
  split
  · exact .none
  · split
    · exact .some (.ofInit alike)
    · split
      · exact .some .routedPart
      · exact .some .plain

/-- The name that a function declares, or else the one of its place. -/
def Node.declaredNameOr (node : Node) (ofPlace : Option Value) : Option Value :=
  match node.is .functionDeclaration, node.get? .id with
  | true, some id => if (id.nodeOf? .identifier).isSome then id.givenName? else ofPlace
  | _, _ => ofPlace

theorem Node.declaredNameOr_alike {node other : Node} {closing : Bool} (nodes : node.Alike likeness closing other)
    {ofPlace otherOfPlace : Option Value}
    (ofPlaces : Option.Rel (Value.Alike likeness false) ofPlace otherOfPlace) :
    Option.Rel (Value.Alike likeness false) (node.declaredNameOr ofPlace) (other.declaredNameOr otherOfPlace) := by
  unfold declaredNameOr
  rw [nodes.is]
  cases isDeclaration : node.is .functionDeclaration with
  | false => exact ofPlaces
  | true =>
    have isDeclaration : node.kind = .functionDeclaration := beq_iff_eq.mp isDeclaration
    obtain ⟨id, otherId, isId, isOther, ids⟩ :=
      nodes.exists_get? (show Field.id ∈ node.kind.fields by rw [isDeclaration]; decide)
    have ids := ids.ordinary rfl
    simp only [isId, isOther]
    obtain ⟨absent, otherAbsent⟩ | ⟨_, _, found, otherFound, _⟩ := rel_cases (ids.nodeOf? .identifier)
    · simp only [absent, otherAbsent]
      exact ofPlaces
    · simp only [found, otherFound]
      exact ids.givenName?

/-- Functions that are alike are known by names that are alike. -/
theorem Node.functionName_alike {node other : Node} {closing : Bool} (nodes : node.Alike likeness closing other)
    (places : place.Alike likeness otherPlace) :
    Option.Rel (Value.Alike likeness false) (node.functionName place) (other.functionName otherPlace) := by
  cases places with
  | initOf names => exact Node.declaredNameOr_alike nodes (.some names)
  | plain | routedPart => exact Node.declaredNameOr_alike nodes .none

theorem Node.isEntryPoint_alike {node other : Node} {closing : Bool} (nodes : node.Alike likeness closing other)
    (places : place.Alike likeness otherPlace) : other.isEntryPoint otherPlace = node.isEntryPoint place := by
  unfold Node.isEntryPoint
  obtain ⟨unnamed, otherUnnamed⟩ | ⟨_, _, named, otherNamed, names⟩ := rel_cases (functionName_alike nodes places)
  · rw [unnamed, otherUnnamed]
  · rw [named, otherNamed]
    cases names with
    | @scalar _ value other scalars =>
      have texts := likeness.text_iff scalars
      cases value with
      | text text => rw [(texts text).mpr rfl]
      | null | bool | int | real =>
        cases other with
        | text text => cases (texts text).mp rfl
        | null | bool | int | real => rfl
    | list | object | node => rfl

end Places

section Steps

variable {pass other : Pass} (passes : pass.Alike likeness other) {place otherPlace : Place}
  (places : place.Alike likeness otherPlace) {node changed : Node} {closing : Bool}
  (nodes : node.Alike likeness closing changed)

include passes nodes

include places in
/-- What is chosen for routing when nodes that are alike are entered; only an element is. -/
theorem enter_alike : AgreeFrom (Progress.Alike likeness)
    (fun tag other => Option.Rel likeness.scalars tag other ∧ (tag.isSome = true → node.kind = .jsxElement))
    (pass.enter place node) (other.enter otherPlace changed) := by
  intro progress after states
  unfold Pass.enter
  have isFunction : changed.isFunction = node.isFunction := congrArg Kind.isFunction nodes.kind
  rw [isFunction, nodes.is]
  split
  · rw [states.isEmpty, Node.isEntryPoint_alike nodes places]
    exact .ok ⟨⟨.none, nofun⟩, states.push _⟩
  · split
    · rename_i isElement
      have isElement : node.kind = .jsxElement := beq_iff_eq.mp isElement
      have roots := getLast?_alike states.frames
      unfold ScopeStack.root?
      generalize progress.stack.frames.getLast? = root at roots ⊢
      generalize after.stack.frames.getLast? = otherRoot at roots ⊢
      cases roots with
      | none => exact .ok ⟨⟨.none, nofun⟩, states⟩
      | some roots =>
        exact (trackElement_alike passes roots isElement nodes states).imp fun _ _ both =>
          ⟨⟨both.1, fun _ => isElement⟩, both.2⟩
    · exact .ok ⟨⟨.none, nofun⟩, states⟩

/-- Functions that are alike are left alike, with what their frames declare in them. -/
theorem leaveFunction_alike (isFunction : node.isFunction = true) :
    AgreeFrom (Progress.Alike likeness) (Node.Alike likeness closing) (pass.leaveFunction place node)
      (other.leaveFunction otherPlace changed) := by
  intro progress after states
  unfold Pass.leaveFunction
  obtain ⟨⟨frames⟩, needsHelper, needsProvider, notices⟩ := progress
  obtain ⟨⟨otherFrames⟩, otherHelper, otherProvider, otherNotices⟩ := after
  cases states.frames with
  | nil => exact .error _
  | @cons frame otherFrame rest otherRest frames rests =>
    have left : Progress.Alike likeness ⟨⟨rest⟩, needsHelper, needsProvider, notices⟩
        ⟨⟨otherRest⟩, otherHelper, otherProvider, otherNotices⟩ := ⟨rests, states.needsHelper, states.needsProvider⟩
    have isEmpty : ScopeStack.isEmpty ⟨otherRest⟩ = ScopeStack.isEmpty ⟨rest⟩ := left.isEmpty
    simp only [ScopeStack.pop?, isEmpty, passes.options]
    split
    · refine (Node.injectDeclarations_alike isFunction nodes frames _).bind
        fun injected otherInjected functions => ?_
      cases functions with
      | none => exact .ok ⟨nodes, left⟩
      | some functions =>
        have sameProvider : otherProvider = needsProvider := states.needsProvider
        exact .ok ⟨functions, rests, states.needsHelper, congrArg (· || pass.options.usesProvider) sameProvider⟩
    · exact .ok ⟨nodes, left⟩

theorem leave_alike {tag otherTag : Option Scalar} (tags : Option.Rel likeness.scalars tag otherTag)
    (isElement : tag.isSome = true → node.kind = .jsxElement) :
    AgreeFrom (Progress.Alike likeness) (Node.Alike likeness closing) (pass.leave place tag node)
      (other.leave otherPlace otherTag changed) := by
  unfold Pass.leave
  cases tags with
  | some scalars => exact .lift (Node.route_alike (isElement rfl) nodes (.scalar scalars))
  | none =>
    have isFunction : changed.isFunction = node.isFunction := congrArg Kind.isFunction nodes.kind
    simp only [isFunction]
    split
    · rename_i isFunction
      exact leaveFunction_alike passes nodes isFunction
    · exact .pure nodes

end Steps

section Walk

/-- A value without nodes stays as it is. -/
theorem Value.transform_of_nodes_nil {m : Type → Type} [Monad m] [LawfulMonad m]
    (transformer : Transformer m) (place : Place)
    {value : Value} (noNodes : value.nodes = []) : value.transform transformer place = pure value := by
  cases value with
  | scalar | object => rfl
  | node child => cases noNodes
  | list items =>
    have kept : transformItems transformer items = pure items := by
      induction items with
      | nil => rfl
      | cons item rest ih =>
        cases item with
        | node child => cases noNodes
        | scalar | list | object => simp only [transformItems, ih noNodes, pure_bind]
    rw [Value.transform, kept, pure_bind]

/-- What the walk of a field is to keep beside the likeness: the scalar that it holds, if it holds one. -/
def ValuesAfter (likeness : Likeness) (closing : Bool) (before value other : Value) : Prop :=
  value.Alike likeness closing other ∧ value.scalar? = before.scalar?

/-- Walked fields that are alike, with the names of the fields and the mark that there were. -/
structure FieldsAfter (likeness : Likeness) (before fields others : List (Field × Value)) : Prop where
  alike : List.Forall₂ (FieldAlike likeness) fields others
  names : fields.map (·.1) = before.map (·.1)
  mark : markIn fields = markIn before

theorem FieldsAfter.cons {field : Field} {before value other : Value} {rest fields others : List (Field × Value)}
    (alike : FieldAlike likeness (field, value) (field, other)) (scalar : value.scalar? = before.scalar?)
    (after : FieldsAfter likeness rest fields others) :
    FieldsAfter likeness ((field, before) :: rest) ((field, value) :: fields) ((field, other) :: others) := by
  refine ⟨.cons alike after.alike, congrArg (field :: ·) after.names, ?_⟩
  have mark := after.mark
  unfold markIn at mark ⊢
  rw [List.lookup_cons, List.lookup_cons]
  split
  · exact scalar
  · exact mark

variable {pass other : Pass}

mutual

theorem Node.Alike.transform (passes : pass.Alike likeness other) :
    ∀ {node changed : Node} {closing : Bool} {place otherPlace : Place},
    node.Alike likeness closing changed → place.Alike likeness otherPlace →
    AgreeFrom (Progress.Alike likeness) (Node.Alike likeness closing) (node.transform pass.transformer place)
      (changed.transform other.transformer otherPlace)
  | .mk kind fields extra attached, _, _, _, _, .mk names alike extras bare, places => by
    rw [Node.transform, Node.transform]
    refine .bind (enter_alike passes places (.mk names alike extras bare)) fun tag otherTag tags => ?_
    have sameRouted : otherTag.isSome = tag.isSome := by
      cases tags.1 <;> rfl
    refine .bind (FieldsAfter.transform passes alike fun field => ?_) fun walked otherWalked after => ?_
    · rw [sameRouted]
      exact places.inField kind alike tag.isSome field
    · exact leave_alike passes (.mk (after.names.trans names) after.alike (by rwa [after.mark]) bare) tags.1 tags.2

theorem FieldsAfter.transform (passes : pass.Alike likeness other) :
    ∀ {fields others : List (Field × Value)} {placeOf otherPlaceOf : Field → Option Place},
    List.Forall₂ (FieldAlike likeness) fields others →
    (∀ field, Option.Rel (Place.Alike likeness) (placeOf field) (otherPlaceOf field)) →
    AgreeFrom (Progress.Alike likeness) (FieldsAfter likeness fields)
      (transformFields pass.transformer placeOf fields)
      (transformFields other.transformer otherPlaceOf others)
  | [], _, _, _, .nil, _ => .pure ⟨.nil, rfl, rfl⟩
  | (field, value) :: _, _ :: _, _, _, .cons (.value alike) tails, places => by
    rw [transformFields, transformFields]
    have behind {walked otherWalked : Value}
      (after : ValuesAfter likeness (field == .closingElement) value walked otherWalked) :
        AgreeFrom (Progress.Alike likeness) (FieldsAfter likeness _) (_ >>= _) (_ >>= _) :=
      .bind (FieldsAfter.transform passes tails places) fun _ _ rest => .pure (rest.cons (.value after.1) after.2)
    obtain ⟨outside, otherOutside⟩ | ⟨_, _, placed, otherPlaced, place⟩ := rel_cases (places field)
    · rw [outside, otherOutside]
      exact behind ⟨alike, rfl⟩
    · rw [placed, otherPlaced]
      exact .bind (ValuesAfter.transform passes alike place) fun _ _ after => behind after
  | (_, _) :: _, _ :: _, _, _, .cons (.raw ignores noNodes noOther) tails, places => by
    rw [transformFields, transformFields]
    have behind : AgreeFrom (Progress.Alike likeness) (FieldsAfter likeness _) (_ >>= _) (_ >>= _) :=
      .bind (FieldsAfter.transform passes tails places) fun _ _ rest =>
        .pure (rest.cons (.raw ignores noNodes noOther) rfl)
    obtain ⟨outside, otherOutside⟩ | ⟨_, _, placed, otherPlaced, _⟩ := rel_cases (places .raw)
    · rw [outside, otherOutside]
      exact behind
    · rw [placed, otherPlaced]
      simp only [Value.transform_of_nodes_nil _ _ noNodes, Value.transform_of_nodes_nil _ _ noOther]
      exact behind

theorem ValuesAfter.transform (passes : pass.Alike likeness other) :
    ∀ {value changed : Value} {closing : Bool} {place otherPlace : Place},
    value.Alike likeness closing changed → place.Alike likeness otherPlace →
    AgreeFrom (Progress.Alike likeness) (ValuesAfter likeness closing value)
      (value.transform pass.transformer place)
      (changed.transform other.transformer otherPlace)
  | .scalar _, _, _, _, _, .scalar scalars, _ => .pure ⟨.scalar scalars, rfl⟩
  | .object _, _, _, _, _, .object objects, _ => .pure ⟨.object objects, rfl⟩
  | .node _, _, _, _, _, .node child, places => by
    rw [Value.transform, Value.transform]
    exact .bind (Node.Alike.transform passes child places) fun _ _ walked => .pure ⟨.node walked, rfl⟩
  | .list _, _, _, _, _, .list items, _ => by
    rw [Value.transform, Value.transform]
    exact .bind (transformItems_alike passes items) fun _ _ walked => .pure ⟨.list walked, rfl⟩

theorem transformItems_alike (passes : pass.Alike likeness other) : ∀ {items others : List Value},
    List.Forall₂ (Value.Alike likeness false) items others →
    AgreeFrom (Progress.Alike likeness) (List.Forall₂ (Value.Alike likeness false))
      (transformItems pass.transformer items) (transformItems other.transformer others)
  | [], _, .nil => .pure .nil
  | .node _ :: _, _, .cons (.node child) rest => by
    rw [transformItems, transformItems]
    exact .bind (Node.Alike.transform passes child .plain) fun _ _ walked =>
      .bind (transformItems_alike passes rest) fun _ _ walkedRest => .pure (.cons (.node walked) walkedRest)
  | .scalar _ :: _, _, .cons (.scalar scalars) rest => by
    rw [transformItems, transformItems]
    · exact .bind (transformItems_alike passes rest) fun _ _ walkedRest =>
        .pure (.cons (.scalar scalars) walkedRest)
    all_goals nofun
  | .list _ :: _, _, .cons (.list items) rest => by
    rw [transformItems, transformItems]
    · exact .bind (transformItems_alike passes rest) fun _ _ walkedRest => .pure (.cons (.list items) walkedRest)
    all_goals nofun
  | .object _ :: _, _, .cons (.object objects) rest => by
    rw [transformItems, transformItems]
    · exact .bind (transformItems_alike passes rest) fun _ _ walkedRest =>
        .pure (.cons (.object objects) walkedRest)
    all_goals nofun

end

end Walk

section Programs

/-- Results of the pass with trees that are alike. -/
def Routed.Alike (likeness : Likeness) (routed other : Routed) : Prop := routed.tree.Alike likeness false other.tree

theorem isMade_providerBinding {source : Option String} {format : OutputFormat} {binding : Node}
    (given : providerBinding source format = .ok binding) : binding.all Node.isMade = true := by
  cases format with
  | functionBody =>
    cases given
    rfl
  | program =>
    cases source with
    | none => cases given
    | some source =>
      cases given
      rfl

theorem addHelper_alike {progress otherProgress : Progress} (states : progress.Alike likeness otherProgress)
    {tree other : Node}
    (trees : tree.Alike likeness false other) :
    Agree (Routed.Alike likeness) (Pass.addHelper progress tree) (Pass.addHelper otherProgress other) := by
  unfold Pass.addHelper
  rw [states.needsHelper]
  split
  · exact (Node.prependStatement_alike trees Node.missingComponentFunction_alike).bind fun _ _ trees => .ok trees
  · exact .ok trees

theorem addProvider_alike (options : Options) {progress otherProgress : Progress}
    (states : progress.Alike likeness otherProgress) {routed other : Routed} (trees : routed.Alike likeness other) :
    Agree (Routed.Alike likeness) (Pass.addProvider options progress routed)
      (Pass.addProvider options otherProgress other) := by
  unfold Pass.addProvider
  rw [states.needsProvider]
  split
  · have bindings : Agree (fun binding other => binding = other ∧ binding.all Node.isMade = true)
        (providerBinding options.source options.format) (providerBinding options.source options.format) :=
      .refl fun _ given => ⟨rfl, isMade_providerBinding given⟩
    refine bindings.bind fun binding _ same => ?_
    obtain ⟨rfl, made⟩ := same
    exact (Node.prependStatement_alike trees (.of_made false made)).bind fun _ _ trees => .ok trees
  · exact .ok trees

/-- A pass that runs on trees that are alike fails on both with the same error, or makes of them trees that are
alike. -/
theorem Pass.run_alike {pass otherPass : Pass} (passes : pass.Alike likeness otherPass) {tree other : Node}
    (trees : tree.Alike likeness false other) :
    Agree (Routed.Alike likeness) (pass.run tree) (otherPass.run other) := by
  unfold Pass.run
  rw [passes.options]
  refine (Node.Alike.transform passes trees .plain {} {} ⟨.nil, rfl, rfl⟩).bind fun result otherResult walked => ?_
  exact (addHelper_alike walked.2 walked.1).bind fun _ _ helped => addProvider_alike pass.options walked.2 helped

theorem routeProgram_alike (options : Options) (known : Option NameSet) {tree other : Node}
    (trees : tree.Alike likeness false other) :
    Agree (Routed.Alike likeness) (routeProgram options known tree) (routeProgram options known other) := by
  unfold routeProgram
  cases known with
  | some names => exact Pass.run_alike ⟨rfl, .refl names⟩ trees
  | none =>
    refine trees.topScope.bind fun names others sets => ?_
    have passes : Pass.Alike likeness ⟨options, names⟩ ⟨options, others⟩ := ⟨rfl, sets⟩
    exact Pass.run_alike passes trees

end Programs

end JsxRouting
