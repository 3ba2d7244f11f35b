import JsxRouting.Proofs.StoredTrees
import JsxRouting.Walk

namespace JsxRouting

mutual

/-- The visits of a walk through a tree. -/
def Node.visitsBelow (parent : Option Kind) (field : Option Field) : Node → List Visit
  | .mk kind fields _ _ =>
    ⟨.enter, kind, parent, field⟩ :: (visitsInFields kind fields ++ [⟨.leave, kind, parent, field⟩])

def visitsInFields (kind : Kind) : List (Field × Value) → List Visit
  | [] => []
  | (field, value) :: rest => value.visitsIn kind field ++ visitsInFields kind rest

/-- The visits in a field of a node. Lists in a list are not walked. -/
def Value.visitsIn (kind : Kind) (field : Field) : Value → List Visit
  | .node child => child.visitsBelow (some kind) (some field)
  | .list items => visitsInItems kind field items
  | _ => []

def visitsInItems (kind : Kind) (field : Field) : List Value → List Visit
  | [] => []
  | .node child :: rest => child.visitsBelow (some kind) (some field) ++ visitsInItems kind field rest
  | _ :: rest => visitsInItems kind field rest

end

/-- What items answer, one behind the other. -/
def gather {α β : Type} (ask : α → Except Error (List β)) : List α → Except Error (List β)
  | [] => .ok []
  | item :: rest => do return (← ask item) ++ (← gather ask rest)

/-- The calls of a walk that changes nothing. -/
def Store.calls (store : Store) : Nat → Option Nat → Option Field → Nat → Except Error (List Visitor.Call)
  | 0, _, _, _ => .error .endless
  | fuel + 1, parent, field, id => do
    let kind ← store.kindOf id
    let inner ← gather (fun field => do
      gather (fun child => store.calls fuel (some id) (some field) child) (← store.nodesIn id field)) kind.fields
    return ⟨.enter, id, parent, field⟩ :: (inner ++ [⟨.leave, id, parent, field⟩])

/-- The nodes that are entered, in order. -/
def enteredNodes (calls : List Visitor.Call) : List Nat := (calls.filter (·.moment == .enter)).map (·.node)

theorem enteredNodes_append (calls others : List Visitor.Call) :
    enteredNodes (calls ++ others) = enteredNodes calls ++ enteredNodes others := by
  simp [enteredNodes]

/-- A node is entered before the nodes that are entered from it. -/
theorem enteredNodes_around (id : Nat) (parent : Option Nat) (field : Option Field) (inner : List Visitor.Call) :
    enteredNodes (⟨.enter, id, parent, field⟩ :: (inner ++ [⟨.leave, id, parent, field⟩])) = id ::
      enteredNodes inner := by
  simp [enteredNodes]

section Quiet

variable {Memory : Type} (visitor : Visitor Memory)

namespace Visitor

/-- Whether a visitor lets the walk go on at these calls, and changes nothing but its memory. -/
def IsQuiet (store : Store) (calls : List Call) : Prop :=
  ∀ call ∈ calls, ∀ memory, ∃ next, visitor.call call ⟨store, memory⟩ = .ok ⟨store, next⟩

/-- The calls made one after the other. -/
def callAll (calls : List Call) (state : Walking Memory) : Except Error (Walking Memory) :=
  calls.foldlM (fun state call => visitor.call call state) state

theorem callAll_append (calls others : List Call) (state : Walking Memory) :
    visitor.callAll (calls ++ others) state = visitor.callAll calls state >>= visitor.callAll others :=
  List.foldlM_append

/-- Whether a visitor lets every walk through a store go on, and changes nothing but its memory. -/
def ChangesNothing (store : Store) : Prop :=
  ∀ call visit memory, store.visit call = .ok visit → ∃ next, visitor.call call ⟨store, memory⟩ = .ok ⟨store, next⟩

variable {visitor} {store : Store} {calls others : List Call}

theorem ChangesNothing.isQuiet (nothing : visitor.ChangesNothing store) {visits : List Visit}
    (areVisits : calls.mapM store.visit = .ok visits) : visitor.IsQuiet store calls := by
  induction calls generalizing visits with
  | nil => exact nofun
  | cons call rest ih =>
    rw [List.mapM_cons] at areVisits
    obtain ⟨visit, isVisit, areVisits⟩ := bind_eq_ok_iff.mp areVisits
    obtain ⟨others, areOthers, -⟩ := bind_eq_ok_iff.mp areVisits
    exact List.forall_mem_cons.mpr ⟨fun memory => nothing call visit memory isVisit, ih areOthers⟩

theorem IsQuiet.mono (quiet : visitor.IsQuiet store others) (within : calls ⊆ others) :
    visitor.IsQuiet store calls :=
  fun call member => quiet call (within member)

/-- Calls of a quiet visitor succeed and leave the store. -/
theorem IsQuiet.callAll (quiet : visitor.IsQuiet store calls) (memory : Memory) :
    ∃ next, visitor.callAll calls ⟨store, memory⟩ = .ok ⟨store, next⟩ := by
  induction calls generalizing memory with
  | nil => exact ⟨memory, rfl⟩
  | cons call rest ih =>
    obtain ⟨next, called⟩ := quiet call (by simp) memory
    obtain ⟨final, called'⟩ := ih (quiet.mono (by simp)) next
    refine ⟨final, ?_⟩
    rw [Visitor.callAll, List.foldlM_cons, called]
    exact called'

/-- If walking each item makes the calls of the item, walking the items makes them one behind the other. -/
theorem foldlM_eq_callAll {α : Type} {step : Walking Memory → α → Except Error (Walking Memory)}
    {ask : α → Except Error (List Call)} {items : List α} (each : ∀ item calls memory, ask item = .ok calls →
      visitor.IsQuiet store calls → step ⟨store, memory⟩ item = visitor.callAll calls ⟨store, memory⟩)
        (memory : Memory)
    (gathered : gather ask items = .ok calls) (quiet : visitor.IsQuiet store calls) :
    items.foldlM step ⟨store, memory⟩ = visitor.callAll calls ⟨store, memory⟩ := by
  induction items generalizing calls memory with
  | nil =>
    cases gathered
    rfl
  | cons item rest ih =>
    obtain ⟨here, isHere, gathered⟩ := bind_eq_ok_iff.mp gathered
    obtain ⟨behind, isBehind, gathered⟩ := bind_eq_ok_iff.mp gathered
    cases gathered
    have quietHere : visitor.IsQuiet store here := quiet.mono (by simp)
    have quietBehind : visitor.IsQuiet store behind := quiet.mono (by simp)
    obtain ⟨next, called⟩ := quietHere.callAll memory
    rw [List.foldlM_cons, each item here memory isHere quietHere, callAll_append, called]
    exact ih next isBehind quietBehind

/-- A quiet visitor is called as if it were not there. -/
theorem walk_eq_callAll : ∀ {fuel : Nat} {parent : Option Nat} {field : Option Field} {id : Nat} {calls : List Call}
    (memory : Memory), store.calls fuel parent field id = .ok calls → visitor.IsQuiet store calls →
    visitor.walk fuel parent field id ⟨store, memory⟩ = visitor.callAll calls ⟨store, memory⟩
  | 0, _, _, _, _, _, ends, _ => by cases ends
  | fuel + 1, parent, field, id, calls, memory, ends, quiet => by
    obtain ⟨kind, isKind, ends⟩ := bind_eq_ok_iff.mp ends
    obtain ⟨inner, isInner, ends⟩ := bind_eq_ok_iff.mp ends
    cases ends
    obtain ⟨next, called⟩ := quiet ⟨.enter, id, parent, field⟩ (by simp) memory
    have within : kind.fields.foldlM
      (walkField (fun field => visitor.walk fuel (some id) (some field)) id) ⟨store, next⟩ =
        visitor.callAll inner ⟨store, next⟩ := by
      refine foldlM_eq_callAll (fun field calls memory gathered quiet => ?_) next isInner (quiet.mono (by simp))
      obtain ⟨children, areChildren, gathered⟩ := bind_eq_ok_iff.mp gathered
      rw [walkField, areChildren]
      exact foldlM_eq_callAll (fun child calls memory => walk_eq_callAll memory) memory gathered quiet
    have walked : visitor.walk (fuel + 1) parent field id ⟨store, memory⟩ =
        visitor.callAll inner ⟨store, next⟩ >>= visitor.call ⟨.leave, id, parent, field⟩ := by
      rw [← within, Visitor.walk, called]
      change store.kindOf id >>= _ = _
      rw [isKind]
      rfl
    have called : visitor.callAll (⟨.enter, id, parent, field⟩ :: (inner ++ [⟨.leave, id, parent, field⟩]))
      ⟨store, memory⟩ =
        visitor.callAll (inner ++ [⟨.leave, id, parent, field⟩]) ⟨store, next⟩ := by
      rw [Visitor.callAll, List.foldlM_cons, called]
      rfl
    rw [walked, called, callAll_append]
    exact congrArg (visitor.callAll inner ⟨store, next⟩ >>= ·) (funext fun state => (bind_pure _).symm)

end Visitor

end Quiet

theorem gather_congr {α β : Type} {ask other : α → Except Error (List β)} {items : List α}
    (same : ∀ item ∈ items, ask item = other item) : gather ask items = gather other items := by
  induction items with
  | nil => rfl
  | cons item rest ih =>
    rw [gather, gather, same item (by simp), ih fun item member => same item (by simp [member])]

theorem gather_map {α β γ : Type} (ask : β → Except Error (List γ)) (change : α → β) (items : List α) :
    gather ask (items.map change) = gather (fun item => ask (change item)) items := by
  induction items with
  | nil => rfl
  | cons item rest ih => rw [List.map_cons, gather, gather, ih]

theorem gather_singleton {α β : Type} (ask : α → Except Error (List β)) (item : α) :
    gather ask [item] = ask item := by
  rw [gather, gather]
  cases ask item with
  | error error => rfl
  | ok answer => exact congrArg Except.ok (List.append_nil answer)

/-- The answer is a list of calls with these visits, which enter distinct nodes between two numbers. -/
def Traces (store : Store) (visits : List Visit) (low high : Nat) (answer : Except Error (List Visitor.Call)) :
    Prop :=
  ∃ calls, answer = .ok calls ∧ calls.mapM store.visit = .ok visits ∧ (enteredNodes calls).Nodup ∧
    ∀ id ∈ enteredNodes calls, low ≤ id ∧ id < high

namespace Traces

variable {store : Store} {visits others : List Visit} {low middle high : Nat}
  {answer rest : Except Error (List Visitor.Call)}

theorem none (store : Store) (low high : Nat) : Traces store [] low high (.ok []) := ⟨[], rfl, rfl, .nil, nofun⟩

theorem widen (traces : Traces store visits middle high answer) (le : low ≤ middle) :
    Traces store visits low high answer := by
  obtain ⟨calls, isAnswer, areVisits, distinct, bounds⟩ := traces
  exact ⟨calls, isAnswer, areVisits, distinct, fun id member =>
    ⟨Nat.le_trans le (bounds id member).1, (bounds id member).2⟩⟩

theorem append (first : Traces store visits low middle answer) (second : Traces store others middle high rest)
    (before : low ≤ middle) (behind : middle ≤ high) :
    Traces store (visits ++ others) low high (do return (← answer) ++ (← rest)) := by
  obtain ⟨calls, rfl, areVisits, distinct, bounds⟩ := first
  obtain ⟨more, rfl, areOthers, distinctMore, boundsMore⟩ := second
  refine ⟨calls ++ more, rfl, ?_, ?_, fun id member => ?_⟩
  · rw [List.mapM_append, areVisits, areOthers]
    rfl
  · rw [enteredNodes_append]
    refine List.nodup_append.mpr ⟨distinct, distinctMore, fun id member other memberMore => ?_⟩
    have := (bounds id member).2
    have := (boundsMore other memberMore).1
    omega
  · rw [enteredNodes_append] at member
    obtain member | member := List.mem_append.mp member
    · exact ⟨(bounds id member).1, Nat.lt_of_lt_of_le (bounds id member).2 behind⟩
    · exact ⟨Nat.le_trans before (boundsMore id member).1, (boundsMore id member).2⟩

/-- A node around the nodes in its fields, with a number above all of theirs. -/
theorem node {fuel id : Nat} {parent : Option Nat} (field : Option Field) {kind : Kind} {around : Option Kind}
    (isKind : store.kindOf id = .ok kind) (isAround : parent.mapM store.kindOf = .ok around)
    (fields : Traces store visits low high (gather (fun field => do
      gather (store.calls fuel (some id) (some field)) (← store.nodesIn id field)) kind.fields))
    (lowest : low ≤ id) (above : high ≤ id) :
    Traces store (⟨.enter, kind, around, field⟩ :: (visits ++ [⟨.leave, kind, around, field⟩])) low (id + 1)
      (store.calls (fuel + 1) parent field id) := by
  obtain ⟨inner, isInner, areVisits, distinct, bounds⟩ := fields
  have visit (moment : Moment) : store.visit ⟨moment, id, parent, field⟩ = .ok ⟨moment, kind, around, field⟩ := by
    rw [Store.visit, isKind, isAround]
    rfl
  refine ⟨⟨.enter, id, parent, field⟩ :: (inner ++ [⟨.leave, id, parent, field⟩]), ?calls, ?visits,
    ?distinct, ?bounds⟩
  case calls =>
    rw [Store.calls, isKind]
    change (gather _ kind.fields >>= _) = _
    rw [isInner]
    rfl
  case visits =>
    rw [List.mapM_cons, visit, List.mapM_append, areVisits, List.mapM_cons, visit]
    rfl
  case distinct =>
    rw [enteredNodes_around, List.nodup_cons]
    refine ⟨fun member => ?_, distinct⟩
    have := (bounds id member).2
    omega
  case bounds =>
    intro other member
    rw [enteredNodes_around] at member
    obtain rfl | member := List.mem_cons.mp member
    · omega
    · have := bounds other member
      omega

end Traces

/-- The nodes in the fields of a stored node, in the order of the fields. -/
theorem Store.gather_nodesIn {store : Store} {id : Nat} {cell : Cell} (isCell : store.cell? id = some cell)
    (own : cell.fields.map (·.1) = cell.kind.fields) (ask : Field → Nat → Except Error (List Visitor.Call)) :
    gather (fun field => do gather (ask field) (← store.nodesIn id field)) cell.kind.fields =
      gather (fun entry => gather (ask entry.1) entry.2.nodes) cell.fields := by
  rw [← own, gather_map]
  refine gather_congr fun entry member => ?_
  have found : cell.fields.lookup entry.1 = some entry.2 :=
    lookup_of_mem (by rw [own]; exact cell.kind.nodup_fields) member
  rw [nodesIn, isCell]
  simp only [Cell.get?, found]
  rfl

section Loaded

variable {larger : Store}

mutual

theorem Node.traces_load : ∀ (node : Node) (store : Store) (fuel : Nat), node.all Node.hasOwnFields = true →
    (node.load store).2.Grows larger → node.depth ≤ fuel →
      ∀ parent field kind, parent.mapM larger.kindOf = .ok kind →
    Traces larger (node.visitsBelow kind field) store.size (node.load store).2.size
      (larger.calls fuel parent field (node.load store).1)
  | .mk kind fields extra attached, store, 0, _, _, enough => by
    rw [Node.depth] at enough
    cases enough
  | .mk kind fields extra attached, store, fuel + 1, own, grows, enough => by
    intro parent field kindAround isAround
    let inFields := loadFields fields store
    let inExtra := extra.load inFields.2
    let inAttached := loadMembers attached inExtra.2
    let cell : Cell := ⟨kind, inFields.1, inExtra.1, inAttached.1⟩
    have beforeFields : store.Grows inFields.2 := grows_loadFields fields store
    have behindFields : inFields.2.Grows inAttached.2 :=
      (Value.grows_load extra _).trans (grows_loadMembers attached _)
    have added : inAttached.2.Grows larger := .trans (.add _ _) grows
    have isCell : larger.cell? inAttached.2.size = some cell :=
      (grows.cell? (show _ < (inAttached.2.add cell).size by rw [Store.size_add]; omega) trivial).trans
        (Store.cell?_add _ _)
    have isKind : larger.kindOf inAttached.2.size = .ok kind := by rw [Store.kindOf, isCell]
    have names : cell.fields.map (·.1) = cell.kind.fields :=
      (names_loadFields fields store).trans (beq_iff_eq.mp (Node.check_of_all own))
    have traces := traces_loadFields fields store fuel (Node.allInFields_of_all own) (behindFields.trans added)
      (Nat.le_of_succ_le_succ enough) inAttached.2.size kind isKind
    rw [← Store.gather_nodesIn isCell names fun field =>
      larger.calls fuel (some inAttached.2.size) (some field)] at traces
    have traces := traces.node field isKind isAround (Nat.le_trans beforeFields.size behindFields.size)
      behindFields.size
    rwa [← Store.size_add inAttached.2 cell] at traces

theorem traces_loadFields : ∀ (fields : List (Field × Value)) (store : Store) (fuel : Nat),
    allInFields Node.hasOwnFields fields = true → (loadFields fields store).2.Grows larger →
      depthOfFields fields ≤ fuel →
    ∀ id kind, larger.kindOf id = .ok kind →
    Traces larger (visitsInFields kind fields) store.size (loadFields fields store).2.size
      (gather (fun entry => gather (larger.calls fuel (some id) (some entry.1)) entry.2.nodes)
        (loadFields fields store).1)
  | [], store, _, _, _, _ => fun _ _ _ => .none _ _ _
  | (field, value) :: rest, store, fuel, own, grows, enough => by
    intro id kind isKind
    rw [allInFields, Bool.and_eq_true] at own
    rw [depthOfFields, Nat.max_le] at enough
    have rests := grows_loadFields rest (value.load store).2
    exact (Value.traces_load value store fuel own.1 (rests.trans grows) enough.1 id kind field isKind).append
      (traces_loadFields rest (value.load store).2 fuel own.2 grows enough.2 id kind isKind)
      (Value.grows_load value store).size rests.size

theorem Value.traces_load : ∀ (value : Value) (store : Store) (fuel : Nat), value.all Node.hasOwnFields = true →
    (value.load store).2.Grows larger → value.depth ≤ fuel → ∀ id kind field, larger.kindOf id = .ok kind →
    Traces larger (value.visitsIn kind field) store.size (value.load store).2.size
      (gather (larger.calls fuel (some id) (some field)) (value.load store).1.nodes)
  | .scalar _, _, _, _, _, _ => fun _ _ _ _ => .none _ _ _
  | .list items, store, fuel, own, grows, enough => fun id kind field isKind =>
    traces_loadItems items store fuel own grows enough id kind field isKind
  | .object _, _, _, _, _, _ => fun _ _ _ _ => .none _ _ _
  | .node node, store, fuel, own, grows, enough => by
    intro id kind field isKind
    have around : (some id).mapM larger.kindOf = .ok (some kind) := by
      rw [Option.mapM_some, isKind]
      rfl
    have traces := Node.traces_load node store fuel own grows enough (some id) (some field) (some kind) around
    rwa [← gather_singleton (larger.calls fuel (some id) (some field))] at traces

theorem traces_loadItems :
    ∀ (items : List Value) (store : Store) (fuel : Nat), allInItems Node.hasOwnFields items = true →
    (loadItems items store).2.Grows larger → depthOfItems items ≤ fuel →
      ∀ id kind field, larger.kindOf id = .ok kind →
    Traces larger (visitsInItems kind field items) store.size (loadItems items store).2.size
      (gather (larger.calls fuel (some id) (some field)) ((loadItems items store).1.filterMap Slot.node?))
  | [], store, _, _, _, _ => fun _ _ _ _ => .none _ _ _
  | item :: rest, store, fuel, own, grows, enough => by
    intro id kind field isKind
    rw [allInItems, Bool.and_eq_true] at own
    rw [depthOfItems, Nat.max_le] at enough
    have rests := grows_loadItems rest (item.load store).2
    have here := Value.traces_load item store fuel own.1 (rests.trans grows) enough.1 id kind field isKind
    have behind := traces_loadItems rest (item.load store).2 fuel own.2 grows enough.2 id kind field isKind
    cases item with
    | node child =>
      rw [Value.load, Slot.nodes, gather_singleton] at here
      exact here.append behind (Value.grows_load (.node child) store).size rests.size
    | scalar value => exact behind
    | list items => exact behind.widen (Value.grows_load (.list items) store).size
    | object members => exact behind.widen (Value.grows_load (.object members) store).size

end

end Loaded

/-- A loaded tree is walked to its depth, and every node of it has another number. -/
theorem Node.exists_calls {tree : Node} (own : tree.all Node.hasOwnFields = true) {fuel : Nat}
    (enough : tree.depth ≤ fuel) :
    ∃ calls, (tree.load {}).2.calls fuel none none (tree.load {}).1 = .ok calls ∧
      calls.mapM (tree.load {}).2.visit = .ok (tree.visitsBelow none none) ∧ (enteredNodes calls).Nodup := by
  obtain ⟨calls, areCalls, areVisits, distinct, -⟩ :=
    tree.traces_load {} fuel own (.refl _) enough none none none rfl
  exact ⟨calls, areCalls, areVisits, distinct⟩

/-- A visitor that only notes its calls changes nothing. -/
theorem call_noting {store : Store} {call : Visitor.Call} {visit : Visit} (isVisit : store.visit call = .ok visit)
    (before : List Visit) :
    (Visitor.noting [.enter, .leave] fun _ _ store => .ok store).call call ⟨store, before⟩ =
      .ok ⟨store, before ++ [visit]⟩ := by
  have asked : [Moment.enter, Moment.leave].contains call.moment = true := by cases call.moment <;> rfl
  rw [Visitor.noting]
  simp only [asked, if_true, isVisit]
  rfl

theorem callAll_noting {store : Store} {calls : List Visitor.Call} {visits : List Visit}
    (areVisits : calls.mapM store.visit = .ok visits) (before : List Visit) :
    (Visitor.noting [.enter, .leave] fun _ _ store => .ok store).callAll calls ⟨store, before⟩ =
      .ok ⟨store, before ++ visits⟩ := by
  induction calls generalizing before visits with
  | nil =>
    obtain rfl : visits = [] := (Except.ok.inj areVisits).symm
    rw [List.append_nil]
    rfl
  | cons call rest ih =>
    rw [List.mapM_cons] at areVisits
    obtain ⟨visit, isVisit, areVisits⟩ := bind_eq_ok_iff.mp areVisits
    obtain ⟨others, areOthers, areVisits⟩ := bind_eq_ok_iff.mp areVisits
    cases areVisits
    rw [Visitor.callAll, List.foldlM_cons, call_noting isVisit]
    exact (ih areOthers (before ++ [visit])).trans (by rw [List.append_assoc]; rfl)

/-- A walk that changes nothing ends, and visits the tree from its root. -/
theorem Node.visits_eq {tree : Node} (own : tree.all Node.hasOwnFields = true) :
    tree.visits = .ok (tree.visitsBelow none none) := by
  obtain ⟨calls, areCalls, areVisits, -⟩ := exists_calls own (Nat.le_refl _)
  have quiet := Visitor.ChangesNothing.isQuiet (fun _ _ memory isVisit => ⟨_, call_noting isVisit memory⟩) areVisits
  have walked := (Visitor.walk_eq_callAll [] areCalls quiet).trans (callAll_noting areVisits [])
  exact congrArg (· >>= fun walked => pure walked.memory) walked

end JsxRouting
