import JsxRouting.Proofs.WalkedFields

namespace JsxRouting

namespace Pass

variable (pass : Pass)

section Calls

variable {pass}

/-- What is done when a node is entered of which the tree and the place are known. -/
theorem call_enter {store : Store} {id : Nat} {parent : Option Nat} {node : Node} {place : Place}
    (isTree : store.tree? id = some node) (isPlace : store.placeOf id parent = .ok place) (field : Option Field)
    (progress : Progress) :
    pass.visitor.call ⟨.enter, id, parent, field⟩ ⟨store, progress⟩ =
      pass.enter place node progress >>= fun (tag, progress) =>
        match tag with
        | some tag => (node.route (.scalar tag)).map fun changed => ⟨store.replace id changed, progress⟩
        | none => .ok ⟨store, progress⟩ := by
  simp only [visitor, isTree, isPlace]
  rfl

/-- What is done when a node is left of which the tree and the place are known. -/
theorem call_leave {store : Store} {id : Nat} {parent : Option Nat} {node : Node} {place : Place}
    (isTree : store.tree? id = some node) (isPlace : store.placeOf id parent = .ok place) (field : Option Field)
    (progress : Progress) :
    pass.visitor.call ⟨.leave, id, parent, field⟩ ⟨store, progress⟩ =
      if node.isFunction then
        (pass.leaveFunction place node progress).map fun (changed, progress) => ⟨store.replace id changed, progress⟩
      else .ok ⟨store, progress⟩ := by
  simp only [visitor, isTree, isPlace]
  change (if node.isFunction = true then _ else _) = _
  cases node.isFunction with
  | false => rfl
  | true => cases pass.leaveFunction place node progress <;> rfl

/-- When a node is left, the walk does what the pass does with the node as it is by then. -/
theorem follows_leave {low high lower higher : Nat} {start entered : Store} {id : Nat} {parent : Option Nat}
    {place : Place} {cell : Cell} {node : Node} {action : PassM (List (Field × Value))} {progress : Progress}
    {walked : Except Error (Walking Progress)} (field : Option Field)
    (body : Follows lower higher entered
      (fun fields later => later.cell? id = some cell →
        later.tree? id = some (.mk node.kind fields node.extra node.attached)) (action progress) walked)
    (kept : start.KeepsOutside low high entered)
    (ranges : ∀ other, lower ≤ other → other < higher → low ≤ other ∧ other < high ∨ start.size ≤ other)
    (inside : low ≤ id ∧ id < high) (outside : ¬ (lower ≤ id ∧ id < higher)) (isCell : entered.cell? id = some cell)
    (placed : ∀ {later}, start.KeepsOutside low high later → later.placeOf id parent = .ok place) :
    Follows low high start (fun after later => later.tree? id = some after)
      ((do pass.leave place none (.mk node.kind (← action) node.extra node.attached) : PassM Node) progress)
      (walked >>= pass.visitor.call ⟨.leave, id, parent, field⟩) := by
  change Follows low high start _ (action progress >>= fun (fields, progress) =>
    pass.leave place none (.mk node.kind fields node.extra node.attached) progress) _
  cases ran : action progress with
  | error error =>
    rw [ran] at body
    obtain rfl := body
    rfl
  | ok outcome =>
    obtain ⟨fields, memory⟩ := outcome
    rw [ran] at body
    obtain ⟨after, rfl, renews⟩ := body
    let left : Node := .mk node.kind fields node.extra node.attached
    have isNode : id < entered.size := Store.lt_size_of_cell? isCell
    have isCell : after.cell? id = some cell := (renews.keeps.cell? isNode outside).trans isCell
    have stays : start.KeepsOutside low high after :=
      kept.trans renews.keeps fun other below isOutside within => by
        have := ranges other within.1 within.2
        omega
    have isTree : after.tree? id = some left := renews.reads (.refl after _) isCell
    change Follows low high start _ (pass.leave place none left memory)
      (pass.visitor.call ⟨.leave, id, parent, field⟩ ⟨after, memory⟩)
    rw [call_leave isTree (placed stays), leave]
    cases left.isFunction with
    | false =>
      refine ⟨after, rfl, stays, fun keepsLater => renews.reads (keepsLater.mono fun other _ inRange => ?_) ?_⟩
      · obtain within | behind := inRange
        · exact ranges other within.1 within.2
        · exact .inr (Nat.le_trans kept.size behind)
      · exact (keepsLater.cell? (Store.lt_size_of_cell? isCell) (.inl inside)).trans isCell
    | true =>
      simp only [if_true]
      cases pass.leaveFunction place left memory with
      | error error => rfl
      | ok outcome =>
        obtain ⟨changed, left⟩ := outcome
        refine ⟨after.replace id changed, rfl, ?_, fun keepsLater => ?_⟩
        · exact stays.trans (after.keeps_replace id changed) fun other _ isOutside same => isOutside (same ▸ inside)
        · refine Store.tree?_replace (Store.lt_size_of_cell? isCell) (keepsLater.mono fun other _ inRange => ?_)
          obtain rfl | behind := inRange
          · exact .inl inside
          · exact .inr (Nat.le_trans stays.size behind)

/-- From where a node was entered until it is left, the walk does what the pass does. -/
theorem follows_within {fuel low high : Nat} (walks : pass.WalksNodes fuel) {start entered base : Store} {id : Nat}
    {parent : Option Nat} {place : Place} (node : Node) (field : Option Field) (progress : Progress)
    (named : node.all Node.hasDeclaredNames = true) (enough : node.routedDepth ≤ fuel + 1)
    (keeps : (node.loadCell base).2.Keeps (base.size ≤ ·) entered)
    (isCell : entered.cell? id = some (node.loadCell base).1)
    (outside : ¬ (base.size ≤ id ∧ id < (node.loadCell base).2.size))
    (kept : start.KeepsOutside low high entered)
    (ranges : ∀ other, base.size ≤ other → other < (node.loadCell base).2.size →
      low ≤ other ∧ other < high ∨ start.size ≤ other)
    (inside : low ≤ id ∧ id < high)
    (placed : ∀ {later}, start.KeepsOutside low high later → later.placeOf id parent = .ok place) :
    Follows low high start (fun after later => later.tree? id = some after)
      ((do
        let fields ← transformFields pass.transformer (Place.plain.inField node.kind node.fields false) node.fields
        pass.leave place none (.mk node.kind fields node.extra node.attached) : PassM Node) progress)
      (entered.kindOf id >>= fun kind =>
        kind.fields.foldlM (walkField (fun field => pass.visitor.walk fuel (some id) (some field)) id)
          ⟨entered, progress⟩ >>= pass.visitor.call ⟨.leave, id, parent, field⟩) := by
  have enoughIn : routedDepthOfFields node.fields ≤ fuel :=
    Nat.le_of_lt_succ (Nat.lt_of_lt_of_le node.routedDepth_fields_lt enough)
  have body := follows_body walks node base entered progress named enoughIn keeps isCell outside
  rw [Store.kindOf_of_cell? isCell, node.kind_loadCell]
  exact follows_leave field body kept ranges inside outside isCell placed

end Calls

/-- Only an element that can be routed is chosen for it. -/
theorem routingTag_of_enter {place : Place} {node : Node} {progress after : Progress} {tag : Scalar}
    (entered : pass.enter place node progress = .ok (some tag, after)) :
    node.kind = .jsxElement ∧ node.routingTag = .ok (some tag) := by
  unfold enter at entered
  split at entered
  · cases entered
  · split at entered
    · rename_i isElement
      split at entered
      · rename_i root isRoot
        rw [pass.trackElement_eq node isRoot] at entered
        obtain ⟨found, isFound, same⟩ := map_eq_ok_iff.mp entered
        cases same
        exact ⟨beq_iff_eq.mp isElement, isFound⟩
      · cases entered
    · cases entered

theorem transform_eq (node : Node) (place : Place) (progress : Progress) :
    node.transform pass.transformer place progress =
      pass.enter place node progress >>= fun (tag, progress) => (do
        let fields ← transformFields pass.transformer (place.inField node.kind node.fields tag.isSome) node.fields
        pass.leave place tag (.mk node.kind fields node.extra node.attached) : PassM Node) progress := by
  cases node
  exact pass.transform_mk ..

/-- The walk of a tree does what the pass does with the tree. -/
theorem walksNodes (fuel : Nat) : pass.WalksNodes fuel := by
  induction fuel with
  | zero =>
    intro node base store place parent field progress named enough
    cases node
    cases enough
  | succ fuel ih =>
    intro node base store place parent field progress named enough keeps placed
    have isPlace := placed (.refl store _)
    have isCell := Node.cell?_load keeps
    have keepsCell := (node.grows_loadCell_load base).keeps keeps (Nat.le_refl _)
    have size := node.size_load base
    have before := node.le_load base
    have cellSize : (node.loadCell base).2.size = (node.load base).1 := by rw [node.load_eq]
    rw [transform_eq, Visitor.walk, call_enter (node.tree?_load base keeps) isPlace]
    cases entered : pass.enter place node progress with
    | error error => rfl
    | ok outcome =>
      obtain ⟨tag, memory⟩ := outcome
      cases tag with
      | none =>
        have follows := follows_within ih node field memory named enough keepsCell isCell (by omega) (.refl store _)
          (fun _ _ _ => by omega) (by omega) placed
        rwa [← Place.inField_of_shown (Store.hidesName_of_placeOf isPlace)] at follows
      | some tag =>
        obtain ⟨isElement, tagged⟩ := routingTag_of_enter pass entered
        obtain ⟨parts, rfl, rfl⟩ := Node.exists_namedElement
          (node.all_imp Node.hasDeclaredForms_of_hasDeclaredNames named) isElement tagged
        have inStore : (parts.node.load base).1 < store.size := Store.lt_size_of_cell? isCell
        -- The walk goes on in the routed element, whose parts were added to the store by now.
        have follows := follows_within ih parts.routed field memory (parts.all_routed named)
          (Nat.le_trans parts.routedDepth_routed enough) (Store.keeps_loadCell_replace _ inStore)
          (Store.cell?_replace _ inStore) (by omega)
          ((store.keeps_replace _ parts.routed).mono fun other _ outside same => by omega)
          (fun other above _ => .inr above) (show base.size ≤ _ ∧ _ < (parts.node.load base).2.size by omega) placed
        rw [← parts.transform_ahead] at follows
        change Follows _ _ _ _ _ ((parts.node.route (.text parts.name)).map _ >>= fun entered => _)
        rw [parts.route]
        exact follows

/-- The pass goes through a tree as a walk that changes the tree in place does: the names of elements are exchanged
ahead of the walk, which then goes on into the new names, and functions are changed behind it. -/
theorem runInPlace_eq {tree : Node} (named : tree.all Node.hasDeclaredNames = true) :
    pass.runInPlace tree = pass.run tree := by
  have follows := pass.walksNodes tree.routedDepth tree {} (tree.load {}).2 .plain none none {}
    named (Nat.le_refl _) (.refl _ _) fun _ => rfl
  change (pass.visitor.walk tree.routedDepth none none (tree.load {}).1 ⟨(tree.load {}).2, {}⟩ >>=
    fun walked => _) =
    tree.transform pass.transformer .plain {} >>= fun (tree, progress) => _
  cases ran : tree.transform pass.transformer .plain {} with
  | error error =>
    rw [ran] at follows
    rw [show pass.visitor.walk _ _ _ _ _ = .error error from follows]
    rfl
  | ok outcome =>
    rw [ran] at follows
    obtain ⟨after, walked, renews⟩ := follows
    have isTree := renews.reads (.refl after _)
    rw [walked]
    simp only [bind, Except.bind, isTree]

end Pass

/-- To route a program is to walk it in place, once its top scope is known. -/
theorem routeProgram_eq_inPlace (options : Options) (known : Option NameSet) {tree : Node}
    (named : tree.all Node.hasDeclaredNames = true) :
    routeProgram options known tree =
      tree.knownNames known >>= fun topScope => Pass.runInPlace ⟨options, topScope⟩ tree := by
  rw [routeProgram_eq]
  exact bind_congr fun topScope => (Pass.runInPlace_eq _ named).symm

/-- `function F() { return <b></b> }` is walked in place. -/
example :
    let bold := Node.closedElement (.jsxName "b") (.jsxName "b")
    (Node.programOf [.functionNamed "F" [] [.returnStatement (.node bold)]]).all Node.hasDeclaredNames = true := rfl

end JsxRouting
