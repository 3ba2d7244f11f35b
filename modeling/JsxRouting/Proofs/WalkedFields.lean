import JsxRouting.Proofs.FollowedWalks
import JsxRouting.Proofs.RoutedAhead

namespace JsxRouting

/-- A value in which its nodes stand at this place: a node stands there itself, the items of a list have no place of
their own. -/
def Value.placeOfNodes (place : Place) : Value → Place
  | .node _ => place
  | _ => .plain

theorem Place.inField_of_shown {place : Place} (shown : place.hidesName = false) (kind : Kind)
    (fields : List (Field × Value)) (routed : Bool) :
    place.inField kind fields routed = Place.plain.inField kind fields routed := by
  funext field
  simp [inField, shown, show Place.plain.hidesName = false from rfl]

@[simp] theorem Value.placeOfNodes_plain (value : Value) : value.placeOfNodes .plain = .plain := by
  cases value <;> rfl

namespace Store

variable {store : Store} {id : Nat} {cell : Cell}

theorem lt_size_of_cell? (isCell : store.cell? id = some cell) : id < store.size :=
  (Array.getElem?_eq_some_iff.mp isCell).1

theorem kindOf_of_cell? (isCell : store.cell? id = some cell) : store.kindOf id = .ok cell.kind := by
  rw [kindOf, isCell]

/-- A node that does not initialise a variable stands at a plain place. -/
theorem placeOf_plain {child : Nat} (isCell : store.cell? id = some cell)
    (noInit : cell.kind = .variableDeclarator → (cell.get? .init).bind Slot.node? ≠ some child) :
    store.placeOf child (some id) = .ok .plain := by
  simp only [placeOf, isCell]
  rw [if_neg fun init => noInit init.1 init.2]

/-- The initial value of a variable stands where the target of the variable tells. -/
theorem placeOf_init {child : Nat} {slot : Slot} {target : Value} (isCell : store.cell? id = some cell)
    (declarator : cell.kind = .variableDeclarator) (isInit : cell.get? .init = some (.node child))
    (isSlot : cell.get? .id = some slot) (isTarget : slot.read store.tree? = some target) :
    store.placeOf child (some id) = .ok (.ofInit [(.id, target)]) := by
  simp [placeOf, isCell, declarator, isInit, isSlot, isTarget, Slot.node?]

/-- The walk finds no node in a part of an element whose name is not entered: there is no such part in the store. -/
theorem hidesName_of_placeOf {parent : Option Nat} {place : Place} (isPlace : store.placeOf id parent = .ok place) :
    place.hidesName = false := by
  cases parent with
  | none =>
    cases isPlace
    rfl
  | some around =>
    simp only [placeOf] at isPlace
    split at isPlace
    · cases isPlace
    · split at isPlace
      · split at isPlace
        · cases isPlace
          exact Place.hidesName_ofInit _
        · cases isPlace
      · cases isPlace
        rfl

theorem walkField_of_cell {Memory : Type} {walkChild : Field → Nat → Walking Memory → Except Error (Walking Memory)}
    {memory : Memory} {field : Field} {slot : Slot} (isCell : store.cell? id = some cell)
    (isSlot : cell.get? field = some slot) :
    walkField walkChild id ⟨store, memory⟩ field =
      slot.nodes.foldlM (fun state child => walkChild field child state) ⟨store, memory⟩ := by
  simp only [walkField, nodesIn, isCell, isSlot]
  rfl

end Store

namespace Pass

variable (pass : Pass)

/-- The walk of a node, to some depth, does what the pass does with the tree that was loaded there, as long as the
node around it tells the same place. -/
def WalksNodes (fuel : Nat) : Prop :=
  ∀ (node : Node) (base store : Store) (place : Place) (parent : Option Nat) (field : Option Field)
    (progress : Progress),
    node.all Node.hasDeclaredNames = true → node.routedDepth ≤ fuel →
    (node.load base).2.Keeps (base.size ≤ ·) store →
    (∀ {later}, store.KeepsOutside base.size (node.load base).2.size later →
      later.placeOf (node.load base).1 parent = .ok place) →
    Follows base.size (node.load base).2.size store (fun after later => later.tree? (node.load base).1 = some after)
      (node.transform pass.transformer place progress)
      (pass.visitor.walk fuel parent field (node.load base).1 ⟨store, progress⟩)

section Fields

variable {pass} {fuel : Nat} (walks : pass.WalksNodes fuel)

include walks

/-- The walk of the nodes in a list does what the pass does with the list. -/
theorem follows_items (items : List Value) (base store : Store) (parent : Nat) (field : Field) (progress : Progress)
    (named : allInItems Node.hasDeclaredNames items = true) (enough : routedDepthOfItems items ≤ fuel)
    (keeps : (loadItems items base).2.Keeps (base.size ≤ ·) store)
    (placed : ∀ {child later}, child ∈ (loadItems items base).1.filterMap Slot.node? →
      store.KeepsOutside base.size (loadItems items base).2.size later →
      later.placeOf child (some parent) = .ok .plain) :
    Follows base.size (loadItems items base).2.size store
      (fun after later => readSlots later.tree? (loadItems items base).1 = some after)
      (transformItems pass.transformer items progress)
      (((loadItems items base).1.filterMap Slot.node?).foldlM
        (fun state child => pass.visitor.walk fuel (some parent) (some field) child state) ⟨store, progress⟩) := by
  induction items generalizing base store progress with
  | nil => exact .pure progress fun _ => rfl
  | cons item rest ih =>
    rw [allInItems, Bool.and_eq_true] at named
    rw [routedDepthOfItems, Nat.max_le] at enough
    have here := (Value.grows_load item base).size
    have behind := grows_loadItems rest (item.load base).2
    have first : (item.load base).2.Keeps (base.size ≤ ·) store := behind.keeps keeps (Nat.le_refl _)
    have others (after : Store) (progress : Progress)
        (kept : store.KeepsOutside base.size (item.load base).2.size after)
        (within : ∀ child ∈ (loadItems rest (item.load base).2).1.filterMap Slot.node?,
          child ∈ (loadItems (item :: rest) base).1.filterMap Slot.node?) :=
      ih (item.load base).2 after progress named.2 enough.2 (keeps.behind kept here)
        fun member keepsLater => placed (within _ member) (kept.outside_trans keepsLater here behind.size)
    cases item with
    | node child =>
      refine (walks child base store .plain (some parent) (some field) progress named.1 enough.1 first ?_).both
        (fun _ renews => others _ _ renews.keeps ?_) ?_ here behind.size keeps.size
      · exact fun keepsLater =>
          placed (List.mem_cons_self ..) (keepsLater.outside_trans (.refl _ _) here behind.size)
      · exact fun child member => List.mem_cons_of_mem _ member
      · exact fun isTree areOthers => readSlots_cons (congrArg (Option.map Value.node) isTree) areOthers
    | scalar | list | object =>
      refine ((others store progress (.refl store _) fun child member => member).widen here (Nat.le_refl _)
        fun kept keepsLater areOthers => ?_).map id
      exact readSlots_cons (Value.read_load _ base (first.ahead kept keepsLater behind.size)) areOthers

/-- The walk of a field does what the pass does with its value. -/
theorem follows_field (value : Value) (base store : Store) (place : Place) {parent : Nat} {cell : Cell}
    {field : Field} (progress : Progress) (named : value.all Node.hasDeclaredNames = true)
    (enough : value.routedDepth ≤ fuel)
    (keeps : (value.load base).2.Keeps (base.size ≤ ·) store) (isCell : store.cell? parent = some cell)
    (isSlot : cell.get? field = some (value.load base).1)
    (placed : ∀ {child later}, child ∈ (value.load base).1.nodes →
      store.KeepsOutside base.size (value.load base).2.size later →
      later.placeOf child (some parent) = .ok (value.placeOfNodes place)) :
    Follows base.size (value.load base).2.size store
      (fun after later => (value.load base).1.read later.tree? = some after)
      (value.transform pass.transformer place progress)
      (walkField (fun field => pass.visitor.walk fuel (some parent) (some field)) parent
        ⟨store, progress⟩ field) := by
  rw [Store.walkField_of_cell isCell isSlot]
  cases value with
  | scalar value => exact .pure progress fun _ => rfl
  | object members =>
    refine .pure progress fun kept => Value.read_load (.object members) base (keeps.trans kept ?_)
    exact fun id below above => .inl ⟨above, below⟩
  | list items =>
    exact (follows_items walks items base store parent field progress named enough keeps placed).map
      fun areItems => congrArg (Option.map Value.list) areItems
  | node child =>
    have alone : (Value.load (.node child) base).1.nodes = [(child.load base).1] := rfl
    rw [alone, List.foldlM_cons]
    simp only [List.foldlM_nil, bind_pure]
    exact (walks child base store place (some parent) (some field) progress named enough keeps
      (placed (List.mem_singleton_self _))).map fun isTree => congrArg (Option.map Value.node) isTree

/-- The walk of fields does what the pass does with them, if none of them is the initial value of a variable. -/
theorem follows_fields (fields : List (Field × Value)) (base store : Store) {parent : Nat} {cell : Cell}
    (progress : Progress) (named : allInFields Node.hasDeclaredNames fields = true)
    (enough : routedDepthOfFields fields ≤ fuel) (keeps : (loadFields fields base).2.Keeps (base.size ≤ ·) store)
    (isCell : store.cell? parent = some cell)
    (outside : ¬ (base.size ≤ parent ∧ parent < (loadFields fields base).2.size))
    (held : ∀ entry ∈ (loadFields fields base).1, cell.get? entry.1 = some entry.2)
    (noDeclarator : cell.kind ≠ .variableDeclarator) :
    Follows base.size (loadFields fields base).2.size store
      (fun after later => readFields later.tree? (loadFields fields base).1 = some after)
      (transformFields pass.transformer (fun _ => some .plain) fields progress)
      (((loadFields fields base).1.map (·.1)).foldlM
        (walkField (fun field => pass.visitor.walk fuel (some parent) (some field)) parent) ⟨store, progress⟩) := by
  induction fields generalizing base store progress with
  | nil => exact .pure progress fun _ => rfl
  | cons entry rest ih =>
    obtain ⟨field, value⟩ := entry
    rw [allInFields, Bool.and_eq_true] at named
    rw [routedDepthOfFields, Nat.max_le] at enough
    have here := (Value.grows_load value base).size
    have behind := grows_loadFields rest (value.load base).2
    have notHere : ¬ (base.size ≤ parent ∧ parent < (value.load base).2.size) :=
      fun inside => outside ⟨inside.1, Nat.lt_of_lt_of_le inside.2 behind.size⟩
    have stays {later : Store} (kept : store.KeepsOutside base.size (value.load base).2.size later) :
        later.cell? parent = some cell := (kept.cell? (Store.lt_size_of_cell? isCell) notHere).trans isCell
    have first := follows_field walks value base store .plain progress named.1 enough.1
      (behind.keeps keeps (Nat.le_refl _)) isCell (held _ (List.mem_cons_self ..)) fun _ kept => by
        rw [Value.placeOfNodes_plain]
        exact Store.placeOf_plain (stays kept) fun declarator => absurd declarator noDeclarator
    have others {after : Store} {progress : Progress}
        (kept : store.KeepsOutside base.size (value.load base).2.size after) :=
      ih (value.load base).2 after progress named.2 enough.2 (keeps.behind kept here) (stays kept)
        (fun inside => outside ⟨Nat.le_trans here inside.1, inside.2⟩)
        fun entry member => held entry (List.mem_cons_of_mem _ member)
    exact first.both (fun _ renews => others renews.keeps)
      (fun isValue areOthers => readFields_cons isValue areOthers) here behind.size keeps.size

/-- The walk of the initial value of a variable does what the pass does with it, once the target of the variable has
been walked. -/
theorem follows_init (value : Value) (base store : Store) {parent : Nat} {cell : Cell} {slot : Slot}
    {target : Value} (progress : Progress) (named : value.all Node.hasDeclaredNames = true)
    (enough : value.routedDepth ≤ fuel) (keeps : (value.load base).2.Keeps (base.size ≤ ·) store)
    (isCell : store.cell? parent = some cell)
    (outside : ¬ (base.size ≤ parent ∧ parent < (value.load base).2.size))
    (declarator : cell.kind = .variableDeclarator) (isInit : cell.get? .init = some (value.load base).1)
    (isSlot : cell.get? .id = some slot)
    (isTarget : ∀ {later}, store.KeepsOutside base.size (value.load base).2.size later →
      slot.read later.tree? = some target) :
    Follows base.size (value.load base).2.size store
      (fun after later => (value.load base).1.read later.tree? = some after)
      (value.transform pass.transformer (.ofInit [(.id, target)]) progress)
      (walkField (fun field => pass.visitor.walk fuel (some parent) (some field)) parent
        ⟨store, progress⟩ .init) := by
  refine follows_field walks value base store _ progress named enough keeps isCell isInit
    fun {child later} member kept => ?_
  have isCell := (kept.cell? (Store.lt_size_of_cell? isCell) outside).trans isCell
  cases value with
  | node node =>
    obtain rfl := List.mem_singleton.mp member
    exact Store.placeOf_init isCell declarator isInit isSlot (isTarget kept)
  | list items => exact Store.placeOf_plain isCell fun _ init => by rw [isInit] at init; cases init
  | scalar | object => cases member

/-- The walk of the fields of a variable does what the pass does with them. -/
theorem follows_declarator (target value : Value) (base store : Store) {parent : Nat} {cell : Cell}
    (progress : Progress) (named : allInFields Node.hasDeclaredNames [(.id, target), (.init, value)] = true)
    (enough : routedDepthOfFields [(.id, target), (.init, value)] ≤ fuel)
    (keeps : (loadFields [(.id, target), (.init, value)] base).2.Keeps (base.size ≤ ·) store)
    (isCell : store.cell? parent = some cell)
    (outside : ¬ (base.size ≤ parent ∧ parent < (loadFields [(.id, target), (.init, value)] base).2.size))
    (held : ∀ entry ∈ (loadFields [(.id, target), (.init, value)] base).1, cell.get? entry.1 = some entry.2)
    (declarator : cell.kind = .variableDeclarator) :
    Follows base.size (loadFields [(.id, target), (.init, value)] base).2.size store
      (fun after later => readFields later.tree? (loadFields [(.id, target), (.init, value)] base).1 = some after)
      (transformFields pass.transformer
        (Place.plain.inField .variableDeclarator [(.id, target), (.init, value)] false)
        [(.id, target), (.init, value)] progress)
      ([Field.id, Field.init].foldlM
        (walkField (fun field => pass.visitor.walk fuel (some parent) (some field)) parent) ⟨store, progress⟩) := by
  simp only [allInFields, Bool.and_eq_true, and_true] at named
  simp only [routedDepthOfFields, Nat.max_zero, Nat.max_le] at enough
  let between := (target.load base).2
  let high := (value.load between).2.size
  have here : base.size ≤ between.size := (Value.grows_load target base).size
  have behind : between.Grows (value.load between).2 := Value.grows_load value between
  have within : high ≤ store.size := keeps.size
  have isSlot : cell.get? .id = some (target.load base).1 := held _ (List.mem_cons_self ..)
  have isInit : cell.get? .init = some (value.load between).1 :=
    held _ (List.mem_cons_of_mem _ (List.mem_cons_self ..))
  have stays {later : Store} (kept : store.KeepsOutside base.size between.size later) :
      later.cell? parent = some cell := by
    refine (kept.cell? (Store.lt_size_of_cell? isCell) fun inside => outside ?_).trans isCell
    exact ⟨inside.1, Nat.lt_of_lt_of_le inside.2 behind.size⟩
  have first := follows_field walks target base store .plain progress named.1 enough.1
    (behind.keeps keeps (Nat.le_refl _)) isCell isSlot fun {child _} member kept => by
      rw [Value.placeOfNodes_plain]
      refine Store.placeOf_plain (stays kept) fun _ init => ?_
      -- The initial value was loaded behind the target.
      rw [isInit] at init
      exact Nat.not_le_of_lt (Value.bounds_load member).2 (Value.bounds_load (Slot.mem_nodes_of_node? init)).1
  have second (memory : Progress) {result : Value} {after : Store}
      (renews : store.Renews base.size between.size
        (fun later => (target.load base).1.read later.tree? = some result) after) :=
    follows_init walks value between after memory named.2 enough.2 (keeps.behind renews.keeps here)
      (stays renews.keeps) (fun inside => outside ⟨Nat.le_trans here inside.1, inside.2⟩) declarator isInit isSlot
      fun kept => renews.reads (kept.mono fun _ _ inside => by omega)
  have samePlace {result : Value} {memory : Progress}
      (ran : target.transform pass.transformer .plain progress = .ok (result, memory)) :
      Place.ofInit [(.id, result)] = .ofInit [(.id, target), (.init, value)] := by
    simp only [Place.ofInit, List.lookup_cons_self, givenName?_transform named.1 ran]
  simp only [List.foldlM_cons, List.foldlM_nil, bind_pure]
  refine first.both (fun {result memory after} ran renews => ?_)
    (fun isTarget areOthers => readFields_cons isTarget areOthers) here behind.size keeps.size
  have follows := second memory renews
  rw [samePlace ran] at follows
  exact follows.map fun isValue => readFields_cons isValue rfl

/-- The walk of all fields of a node does what the pass does with them. -/
theorem follows_ownFields {kind : Kind} (fields : List (Field × Value)) (base store : Store) {parent : Nat}
    {cell : Cell} (progress : Progress) (own : fields.map (·.1) = kind.fields)
    (named : allInFields Node.hasDeclaredNames fields = true) (enough : routedDepthOfFields fields ≤ fuel)
    (keeps : (loadFields fields base).2.Keeps (base.size ≤ ·) store) (isCell : store.cell? parent = some cell)
    (outside : ¬ (base.size ≤ parent ∧ parent < (loadFields fields base).2.size)) (isKind : cell.kind = kind)
    (areFields : cell.fields = (loadFields fields base).1) :
    Follows base.size (loadFields fields base).2.size store
      (fun after later => readFields later.tree? (loadFields fields base).1 = some after)
      (transformFields pass.transformer (Place.plain.inField kind fields false) fields progress)
      (kind.fields.foldlM
        (walkField (fun field => pass.visitor.walk fuel (some parent) (some field)) parent) ⟨store, progress⟩) := by
  have held : ∀ entry ∈ (loadFields fields base).1, cell.get? entry.1 = some entry.2 := fun entry member => by
    have found : cell.fields.lookup entry.1 = some entry.2 :=
      lookup_of_mem (by rw [areFields, names_loadFields, own]; exact kind.nodup_fields) (areFields ▸ member)
    rw [Cell.get?, found]
  by_cases declarator : kind = .variableDeclarator
  · subst declarator
    obtain ⟨⟨_, target⟩, others, rfl, rfl, otherNames⟩ := List.map_eq_cons_iff.mp own
    obtain ⟨⟨_, value⟩, rfl, rfl⟩ := List.map_eq_singleton_iff.mp otherNames
    exact follows_declarator walks target value base store progress named enough keeps isCell outside held isKind
  · have plain : Place.plain.inField kind fields false = fun _ => some .plain := by
      funext field
      simp [Place.inField, Place.hidesName, declarator]
    rw [plain, ← own, ← names_loadFields fields base]
    exact follows_fields walks fields base store progress named enough keeps isCell outside held
      (isKind ▸ declarator)

/-- The walk of the fields of a node turns the node into the one with the fields that the pass makes of them. -/
theorem follows_body (node : Node) (base store : Store) {id : Nat} (progress : Progress)
    (named : node.all Node.hasDeclaredNames = true) (enough : routedDepthOfFields node.fields ≤ fuel)
    (keeps : (node.loadCell base).2.Keeps (base.size ≤ ·) store)
    (isCell : store.cell? id = some (node.loadCell base).1)
    (outside : ¬ (base.size ≤ id ∧ id < (node.loadCell base).2.size)) :
    Follows base.size (node.loadCell base).2.size store
      (fun fields later => later.cell? id = some (node.loadCell base).1 →
        later.tree? id = some (.mk node.kind fields node.extra node.attached))
      (transformFields pass.transformer (Place.plain.inField node.kind node.fields false) node.fields progress)
      (node.kind.fields.foldlM
        (walkField (fun field => pass.visitor.walk fuel (some id) (some field)) id) ⟨store, progress⟩) := by
  obtain ⟨kind, fields, extra, attached⟩ := node
  let inFields := loadFields fields base
  let inExtra := extra.load inFields.2
  let inAttached := loadMembers attached inExtra.2
  have own : fields.map (·.1) = kind.fields :=
    beq_iff_eq.mp (Bool.and_eq_true_iff.mp
      (Node.hasDeclaredForms_of_hasDeclaredNames _ (Node.check_of_all named))).1
  have beforeExtra : inFields.2.Grows inExtra.2 := Value.grows_load extra _
  have beforeAttached : inExtra.2.Grows inAttached.2 := grows_loadMembers attached _
  have behindFields := beforeExtra.trans beforeAttached
  have here : base.size ≤ inFields.2.size := (grows_loadFields fields base).size
  refine (follows_ownFields walks fields base store progress own (Node.allInFields_of_all named) enough
    (behindFields.keeps keeps (Nat.le_refl _)) isCell
    (fun inside => outside ⟨inside.1, Nat.lt_of_lt_of_le inside.2 behindFields.size⟩) rfl rfl).widen (Nat.le_refl _)
    behindFields.size fun {others after later} kept keepsLater areFields isCell => ?_
  -- What stands beside the fields was loaded behind them and is not walked.
  have rest : inAttached.2.Keeps (inFields.2.size ≤ ·) later :=
    (keeps.behind kept here).trans keepsLater fun _ below behind => .inl ⟨Nat.le_trans here behind, below⟩
  exact Store.tree?_of_cell isCell (Cell.read_of_parts areFields
    (Value.read_load extra inFields.2 (beforeAttached.keeps rest (Nat.le_refl _)))
    (read_loadMembers attached inExtra.2 ((Store.Grows.refl _).keeps rest beforeExtra.size)))

end Fields

end Pass

end JsxRouting
