import JsxRouting.Proofs.QuietWalks
import JsxRouting.Proofs.ReadTrees
import JsxRouting.Walk.Rules
import Mathlib.Logic.Relation

namespace JsxRouting

/-- A call of a visitor, and the store that it left. -/
structure Event where
  call : Visitor.Call
  store : Store

/-- The store that the last of some events left. -/
def Store.after (store : Store) (events : List Event) : Store := events.foldl (fun _ event => event.store) store

theorem Store.after_append (store : Store) (events others : List Event) :
    store.after (events ++ others) = (store.after events).after others := List.foldl_append

/-- The calls that are open after one more call, the innermost first. A node is entered from the node of the
innermost one, and only the innermost one is left: the same node, in the same field of the same node around it. -/
def Visitor.Call.nest (opened : List Visitor.Call) (call : Visitor.Call) : Option (List Visitor.Call) :=
  match call.moment, opened with
  | .enter, _ => if call.parent = opened.head?.map (·.node) then some (call :: opened) else none
  | .leave, innermost :: rest => if innermost = { call with moment := .enter } then some rest else none
  | .leave, [] => none

mutual

/-- The events of the walk of a node: it is entered, its fields are walked, and it is left. -/
inductive NodeLog : Option Nat → Option Field → Nat → List Event → Prop
  | node {parent : Option Nat} {field : Option Field} {id : Nat} {entered left : Store} {kind : Kind}
    {inner : List Event}
    (isKind : entered.kindOf id = .ok kind) (fields : FieldsLog id kind.fields entered inner) :
    NodeLog parent field id
      (⟨⟨.enter, id, parent, field⟩, entered⟩ :: (inner ++ [⟨⟨.leave, id, parent, field⟩, left⟩]))

/-- The events of the walk of fields: the nodes that are in a field by now are walked, and then the fields behind
it, as the store is after that. -/
inductive FieldsLog : Nat → List Field → Store → List Event → Prop
  | nil {id : Nat} {store : Store} : FieldsLog id [] store []
  | cons {id : Nat} {field : Field} {rest : List Field} {store : Store} {children : List Nat}
    {here behind : List Event}
    (areChildren : store.nodesIn id field = .ok children) (all : ChildrenLog id field children here)
    (fields : FieldsLog id rest (store.after here) behind) : FieldsLog id (field :: rest) store (here ++ behind)

/-- The events of the walk of nodes in a field, one behind the other. -/
inductive ChildrenLog : Nat → Field → List Nat → List Event → Prop
  | nil {id : Nat} {field : Field} : ChildrenLog id field [] []
  | cons {id : Nat} {field : Field} {child : Nat} {rest : List Nat} {here behind : List Event}
    (first : NodeLog (some id) (some field) child here) (others : ChildrenLog id field rest behind) :
    ChildrenLog id field (child :: rest) (here ++ behind)

end

mutual

theorem NodeLog.nested : ∀ {parent : Option Nat} {field : Option Field} {id : Nat} {events : List Event},
    NodeLog parent field id events → ∀ {opened : List Visitor.Call}, parent = opened.head?.map (·.node) →
      (events.map (·.call)).foldlM Visitor.Call.nest opened = some opened
  | parent, field, id, _, @NodeLog.node _ _ _ _ _ _ inner _ fields, opened, around => by
    let entry : Visitor.Call := ⟨.enter, id, parent, field⟩
    have opens : Visitor.Call.nest opened entry = some (entry :: opened) := if_pos around
    have closes : Visitor.Call.nest (entry :: opened) ⟨.leave, id, parent, field⟩ = some opened := if_pos rfl
    have within : (inner.map (·.call)).foldlM Visitor.Call.nest (entry :: opened) = some (entry :: opened) :=
      fields.nested rfl
    rw [List.map_cons, List.foldlM_cons, opens, List.map_append]
    change (inner.map (·.call) ++ _).foldlM Visitor.Call.nest (entry :: opened) = _
    rw [List.foldlM_append, within]
    change Visitor.Call.nest (entry :: opened) ⟨.leave, id, parent, field⟩ >>= pure = _
    rw [closes]
    rfl

theorem FieldsLog.nested : ∀ {id : Nat} {fields : List Field} {store : Store} {events : List Event},
    FieldsLog id fields store events → ∀ {opened : List Visitor.Call}, some id = opened.head?.map (·.node) →
      (events.map (·.call)).foldlM Visitor.Call.nest opened = some opened
  | _, _, _, _, .nil, _, _ => rfl
  | _, _, _, _, .cons _ all fields, opened, around => by
    rw [List.map_append, List.foldlM_append, all.nested around]
    exact fields.nested around

theorem ChildrenLog.nested : ∀ {id : Nat} {field : Field} {children : List Nat} {events : List Event},
    ChildrenLog id field children events → ∀ {opened : List Visitor.Call}, some id = opened.head?.map (·.node) →
      (events.map (·.call)).foldlM Visitor.Call.nest opened = some opened
  | _, _, _, _, .nil, _, _ => rfl
  | _, _, _, _, .cons first others, opened, around => by
    rw [List.map_append, List.foldlM_append, first.nested around]
    exact others.nested around

end

section Logging

variable {Memory : Type} (visitor : Visitor Memory)

/-- The visitor with a log of its calls. -/
def Visitor.logging : Visitor (Memory × List Event) where
  call call state := do
    let next ← visitor.call call ⟨state.store, state.memory.1⟩
    return ⟨next.store, next.memory, state.memory.2 ++ [⟨call, next.store⟩]⟩

/-- A walk with a log does what the walk does, and adds these events to the log: those of the calls that changed the
store. -/
structure Logged (logged : Walking (Memory × List Event) → Except Error (Walking (Memory × List Event)))
    (start ended : Walking Memory) (events : List Event) : Prop where
  logs : ∀ log, logged ⟨start.store, start.memory, log⟩ = .ok ⟨ended.store, ended.memory, log ++ events⟩
  calls : visitor.callAll (events.map (·.call)) start = .ok ended
  after : start.store.after events = ended.store

variable {visitor}

namespace Logged

variable {logged next : Walking (Memory × List Event) → Except Error (Walking (Memory × List Event))}
  {start between ended : Walking Memory} {here behind : List Event}

theorem nil : Logged visitor pure start start [] :=
  ⟨fun log => by rw [List.append_nil]; rfl, rfl, rfl⟩

theorem call {call : Visitor.Call} (called : visitor.call call start = .ok ended) :
    Logged visitor (visitor.logging.call call) start ended [⟨call, ended.store⟩] :=
  ⟨fun _ => congrArg (· >>= _) called, congrArg (· >>= _) called, rfl⟩

theorem append (first : Logged visitor logged start between here)
    (second : Logged visitor next between ended behind) :
    Logged visitor (fun state => logged state >>= next) start ended (here ++ behind) where
  logs log := by
    rw [first.logs, ← List.append_assoc]
    exact second.logs (log ++ here)
  calls := by
    rw [List.map_append, Visitor.callAll_append, first.calls]
    exact second.calls
  after := by rw [Store.after_append, first.after, second.after]

/-- A walk that reads the store first. -/
theorem read {α : Type} (ask : Store → Except Error α)
    (next : α → Walking (Memory × List Event) → Except Error (Walking (Memory × List Event))) {answer : α}
    (isAnswer : ask start.store = .ok answer) (logs : Logged visitor (next answer) start ended here) :
    Logged visitor (fun state => ask state.store >>= fun answer => next answer state) start ended here :=
  ⟨fun log => (congrArg (· >>= _) isAnswer).trans (logs.logs log), logs.calls, logs.after⟩

/-- The log of children, if the walks of nodes are logged. -/
theorem children {id : Nat} {field : Field} {walkChild : Nat → Walking Memory → Except Error (Walking Memory)}
    {logChild : Nat → Walking (Memory × List Event) → Except Error (Walking (Memory × List Event))}
    (each : ∀ child start ended, walkChild child start = .ok ended →
      ∃ events, Logged visitor (logChild child) start ended events ∧ NodeLog (some id) (some field) child events)
    {nodes : List Nat} {start ended : Walking Memory}
    (ends : nodes.foldlM (fun state child => walkChild child state) start = .ok ended) :
    ∃ events, Logged visitor (nodes.foldlM fun state child => logChild child state) start ended events ∧
      ChildrenLog id field nodes events := by
  induction nodes generalizing start with
  | nil =>
    cases ends
    exact ⟨[], .nil, .nil⟩
  | cons child rest ih =>
    rw [List.foldlM_cons] at ends
    obtain ⟨between, walked, ends⟩ := bind_eq_ok_iff.mp ends
    obtain ⟨here, first, isNode⟩ := each child start between walked
    obtain ⟨behind, others, areNodes⟩ := ih ends
    exact ⟨here ++ behind, first.append others, .cons isNode areNodes⟩

/-- The log of fields, if the walks of nodes are logged. -/
theorem fields {id : Nat} {walkChild : Field → Nat → Walking Memory → Except Error (Walking Memory)}
    {logChild : Field → Nat → Walking (Memory × List Event) → Except Error (Walking (Memory × List Event))}
    (each : ∀ field child start ended, walkChild field child start = .ok ended →
      ∃ events, Logged visitor (logChild field child) start ended events ∧
        NodeLog (some id) (some field) child events)
    {fields : List Field} {start ended : Walking Memory}
    (ends : fields.foldlM (walkField walkChild id) start = .ok ended) :
    ∃ events, Logged visitor (fields.foldlM (walkField logChild id)) start ended events ∧
      FieldsLog id fields start.store events := by
  induction fields generalizing start with
  | nil =>
    cases ends
    exact ⟨[], .nil, .nil⟩
  | cons field rest ih =>
    rw [List.foldlM_cons] at ends
    obtain ⟨between, walked, ends⟩ := bind_eq_ok_iff.mp ends
    obtain ⟨nodes, areNodes, walked⟩ := bind_eq_ok_iff.mp walked
    obtain ⟨here, first, areLogged⟩ := children (each field) walked
    obtain ⟨behind, others, areFields⟩ := ih ends
    have logsField : Logged visitor (fun state => walkField logChild id state field) start between here :=
      read (fun store => store.nodesIn id field)
        (fun nodes => nodes.foldlM fun state child => logChild field child state)
        areNodes first
    refine ⟨here ++ behind, logsField.append others, .cons areNodes areLogged ?_⟩
    rw [first.after]
    exact areFields

/-- Every walk that ends is logged. -/
theorem walk {fuel : Nat} {parent : Option Nat} {field : Option Field} {id : Nat} {start ended : Walking Memory}
    (ends : visitor.walk fuel parent field id start = .ok ended) :
    ∃ events, Logged visitor (visitor.logging.walk fuel parent field id) start ended events ∧
      NodeLog parent field id events := by
  induction fuel generalizing parent field id start ended with
  | zero => cases ends
  | succ fuel ih =>
    obtain ⟨entered, isEntered, ends⟩ := bind_eq_ok_iff.mp ends
    obtain ⟨kind, isKind, ends⟩ := bind_eq_ok_iff.mp ends
    obtain ⟨walked, isWalked, isLeft⟩ := bind_eq_ok_iff.mp ends
    obtain ⟨inner, logsInner, areFields⟩ := fields (fun field child start ended => ih) isWalked
    have behind := read (fun store => store.kindOf id) (fun kind state =>
      kind.fields.foldlM (walkField (fun field => visitor.logging.walk fuel (some id) (some field)) id) state >>=
        visitor.logging.call ⟨.leave, id, parent, field⟩) isKind (logsInner.append (call isLeft))
    exact ⟨_, (call isEntered).append behind, .node isKind areFields⟩

/-- Calls that succeed are logged. -/
theorem callAll {calls : List Visitor.Call} {start ended : Walking Memory}
    (called : visitor.callAll calls start = .ok ended) :
    ∃ events, Logged visitor (visitor.logging.callAll calls) start ended events ∧ events.map (·.call) = calls := by
  induction calls generalizing start with
  | nil =>
    cases called
    exact ⟨[], .nil, rfl⟩
  | cons first rest ih =>
    obtain ⟨between, calledFirst, called⟩ := bind_eq_ok_iff.mp called
    obtain ⟨events, logs, areCalls⟩ := ih called
    exact ⟨⟨first, between.store⟩ :: events, (call calledFirst).append logs, congrArg (first :: ·) areCalls⟩

end Logged

/-- A log makes no visitor less quiet. -/
theorem Visitor.IsQuiet.logging {store : Store} {calls : List Visitor.Call} (quiet : visitor.IsQuiet store calls) :
    visitor.logging.IsQuiet store calls := by
  intro call member memory
  obtain ⟨next, called⟩ := quiet call member memory.1
  exact ⟨(next, memory.2 ++ [⟨call, store⟩]), congrArg (· >>= _) called⟩

/-- A quiet walk makes the calls of the store. -/
theorem Logged.quiet {store : Store} {fuel : Nat} {parent : Option Nat} {field : Option Field} {id : Nat}
    {calls : List Visitor.Call} (areCalls : store.calls fuel parent field id = .ok calls)
    (quiet : visitor.IsQuiet store calls) (memory : Memory) :
    ∃ next events, visitor.walk fuel parent field id ⟨store, memory⟩ = .ok ⟨store, next⟩ ∧
      Logged visitor (visitor.logging.walk fuel parent field id) ⟨store, memory⟩ ⟨store, next⟩ events ∧
        events.map (·.call) = calls := by
  obtain ⟨next, called⟩ := quiet.callAll memory
  obtain ⟨events, logged, same⟩ := Logged.callAll called
  refine ⟨next, events, (Visitor.walk_eq_callAll memory areCalls quiet).trans called, ?_, same⟩
  exact ⟨fun log => (Visitor.walk_eq_callAll _ areCalls quiet.logging).trans (logged.logs log),
    logged.calls, logged.after⟩

end Logging

section Fuel

/-- A fold over items succeeds alike with any step that does what the step does whenever it succeeds. -/
theorem foldlM_of_agree {α β : Type} {step other : α → β → Except Error α} {items : List β} {start ended : α}
    (agree : ∀ {state item next}, step state item = .ok next → other state item = .ok next)
    (folded : items.foldlM step start = .ok ended) : items.foldlM other start = .ok ended := by
  induction items generalizing start with
  | nil => exact folded
  | cons item rest ih =>
    rw [List.foldlM_cons] at folded ⊢
    obtain ⟨between, stepped, folded⟩ := bind_eq_ok_iff.mp folded
    rw [agree stepped]
    exact ih folded

/-- More fuel makes no difference to a walk that ends. -/
theorem Visitor.walk_of_le {Memory : Type} {visitor : Visitor Memory} {fuel more : Nat} (le : fuel ≤ more)
    {parent : Option Nat} {field : Option Field} {id : Nat} {start ended : Walking Memory}
    (ends : visitor.walk fuel parent field id start = .ok ended) :
    visitor.walk more parent field id start = .ok ended := by
  induction fuel generalizing more parent field id start ended with
  | zero => cases ends
  | succ fuel ih =>
    obtain ⟨more, rfl⟩ := Nat.exists_eq_succ_of_ne_zero (Nat.ne_of_gt (Nat.lt_of_lt_of_le fuel.succ_pos le))
    obtain ⟨entered, isEntered, ends⟩ := bind_eq_ok_iff.mp ends
    obtain ⟨kind, isKind, ends⟩ := bind_eq_ok_iff.mp ends
    obtain ⟨walked, isWalked, isLeft⟩ := bind_eq_ok_iff.mp ends
    have isWalked : kind.fields.foldlM
      (walkField (fun field => visitor.walk more (some id) (some field)) id) entered =
        .ok walked := by
      refine foldlM_of_agree (fun {state field next} fieldEnds => ?_) isWalked
      obtain ⟨children, areChildren, fieldEnds⟩ := bind_eq_ok_iff.mp fieldEnds
      refine bind_eq_ok_iff.mpr ⟨children, areChildren, foldlM_of_agree ?_ fieldEnds⟩
      exact fun childEnds => ih (Nat.le_of_succ_le_succ le) childEnds
    exact bind_eq_ok_iff.mpr
      ⟨entered, isEntered, bind_eq_ok_iff.mpr ⟨kind, isKind, bind_eq_ok_iff.mpr ⟨walked, isWalked, isLeft⟩⟩⟩

end Fuel

section Reaching

variable {α β : Type} {ask : α → Except Error (List β)} {items : List α} {answers : List β}

theorem exists_ok_of_gather (gathered : gather ask items = .ok answers) :
    ∀ item ∈ items, ∃ answer, ask item = .ok answer := by
  induction items generalizing answers with
  | nil => exact nofun
  | cons first rest ih =>
    obtain ⟨here, isHere, gathered⟩ := bind_eq_ok_iff.mp gathered
    obtain ⟨behind, isBehind, -⟩ := bind_eq_ok_iff.mp gathered
    exact List.forall_mem_cons.mpr ⟨⟨here, isHere⟩, ih isBehind⟩

theorem mem_gather (gathered : gather ask items = .ok answers) {part : β} :
    part ∈ answers ↔ ∃ item ∈ items, ∃ answer, ask item = .ok answer ∧ part ∈ answer := by
  induction items generalizing answers with
  | nil =>
    cases gathered
    simp
  | cons first rest ih =>
    obtain ⟨here, isHere, gathered⟩ := bind_eq_ok_iff.mp gathered
    obtain ⟨behind, isBehind, gathered⟩ := bind_eq_ok_iff.mp gathered
    cases gathered
    simp only [List.mem_append, ih isBehind, List.mem_cons, exists_eq_or_imp]
    refine or_congr_left ⟨fun member => ⟨here, isHere, member⟩, ?_⟩
    rintro ⟨answer, isAnswer, member⟩
    cases Except.ok.inj (isHere.symm.trans isAnswer)
    exact member

namespace Store

variable (store : Store)

/-- Whether a node stands in a field of the kind of another, directly or directly in its list. -/
def StandsIn (id child : Nat) : Prop :=
  ∃ kind, store.kindOf id = .ok kind ∧ ∃ field ∈ kind.fields, ∃ children, store.nodesIn id field = .ok children ∧
    child ∈ children

/-- Whether a node is reached from another through fields and their lists. -/
def Reaches : Nat → Nat → Prop := Relation.ReflTransGen store.StandsIn

/-- A node, and behind it the nodes below it in the order of fields and lists. -/
def preorder : Nat → Nat → Except Error (List Nat)
  | 0, _ => .error .endless
  | fuel + 1, id => do
    let kind ← store.kindOf id
    return id :: (← gather (fun field => do gather (preorder fuel) (← store.nodesIn id field)) kind.fields)

variable {store}

theorem gather_enteredNodes {α : Type} {ask : α → Except Error (List Visitor.Call)}
    {other : α → Except Error (List Nat)}
    (each : ∀ {item calls}, ask item = .ok calls → other item = .ok (enteredNodes calls)) {items : List α}
    {calls : List Visitor.Call} (gathered : gather ask items = .ok calls) :
    gather other items = .ok (enteredNodes calls) := by
  induction items generalizing calls with
  | nil =>
    cases gathered
    rfl
  | cons first rest ih =>
    obtain ⟨here, isHere, gathered⟩ := bind_eq_ok_iff.mp gathered
    obtain ⟨behind, isBehind, gathered⟩ := bind_eq_ok_iff.mp gathered
    cases gathered
    rw [gather, each isHere, ih isBehind, enteredNodes_append]
    rfl

/-- The calls of a walk that changes nothing enter the nodes in order. -/
theorem preorder_of_calls {fuel : Nat} {parent : Option Nat} {field : Option Field} {id : Nat}
    {calls : List Visitor.Call}
    (areCalls : store.calls fuel parent field id = .ok calls) :
    store.preorder fuel id = .ok (enteredNodes calls) := by
  induction fuel generalizing parent field id calls with
  | zero => cases areCalls
  | succ fuel ih =>
    obtain ⟨kind, isKind, areCalls⟩ := bind_eq_ok_iff.mp areCalls
    obtain ⟨inner, isInner, areCalls⟩ := bind_eq_ok_iff.mp areCalls
    cases areCalls
    have below : gather (fun field => do gather (store.preorder fuel) (← store.nodesIn id field)) kind.fields =
        .ok (enteredNodes inner) := by
      refine gather_enteredNodes (fun {field calls} areCalls => ?_) isInner
      obtain ⟨children, areChildren, areCalls⟩ := bind_eq_ok_iff.mp areCalls
      exact bind_eq_ok_iff.mpr ⟨children, areChildren, gather_enteredNodes (fun areCalls => ih areCalls) areCalls⟩
    rw [enteredNodes_around]
    exact bind_eq_ok_iff.mpr ⟨kind, isKind, bind_eq_ok_iff.mpr ⟨enteredNodes inner, below, rfl⟩⟩

/-- A node stands among those below another exactly if it is reached from there. -/
theorem mem_preorder {fuel id other : Nat} {ids : List Nat} (areIds : store.preorder fuel id = .ok ids) :
    other ∈ ids ↔ store.Reaches id other := by
  induction fuel generalizing id ids with
  | zero => cases areIds
  | succ fuel ih =>
    obtain ⟨kind, isKind, areIds⟩ := bind_eq_ok_iff.mp areIds
    obtain ⟨below, areBelow, areIds⟩ := bind_eq_ok_iff.mp areIds
    cases areIds
    rw [List.mem_cons, mem_gather areBelow]
    constructor
    · rintro (rfl | ⟨field, member, answer, isAnswer, inAnswer⟩)
      · exact .refl
      · obtain ⟨children, areChildren, isAnswer⟩ := bind_eq_ok_iff.mp isAnswer
        obtain ⟨child, isChild, ids, areIds, inIds⟩ := (mem_gather isAnswer).mp inAnswer
        exact .head ⟨kind, isKind, field, member, children, areChildren, isChild⟩ ((ih areIds).mp inIds)
    · intro reaches
      obtain rfl | ⟨child, ⟨_, isSame, field, member, children, areChildren, isChild⟩, reaches⟩ :=
        reaches.cases_head
      · exact .inl rfl
      · cases Except.ok.inj (isKind.symm.trans isSame)
        obtain ⟨answer, isAnswer⟩ := exists_ok_of_gather areBelow field member
        obtain ⟨others, areOthers, gathered⟩ := bind_eq_ok_iff.mp isAnswer
        cases Except.ok.inj (areChildren.symm.trans areOthers)
        obtain ⟨ids, areIds⟩ := exists_ok_of_gather gathered child isChild
        have inAnswer := (mem_gather gathered).mpr ⟨child, isChild, ids, areIds, (ih areIds).mpr reaches⟩
        exact .inr ⟨field, member, answer, isAnswer, inAnswer⟩

end Store

end Reaching

namespace Visitor

/-- Whatever the visitor changes, a walk that ends has a log in which every node is left after the nodes that were
entered from it, and the nodes entered from it are those that were in its fields as the walk came there, one field
after the other. If the visitor changes nothing, the walk of a tree ends, and it enters every node that is reached
from the root once, before all nodes below. -/
theorem walk_discipline :
    (∀ {Memory : Type} (visitor : Visitor Memory) {fuel root : Nat} {start ended : Walking Memory},
      visitor.walk fuel none none root start = .ok ended →
      ∃ events, Logged visitor (visitor.logging.walk fuel none none root) start ended events ∧
        (events.map (·.call)).foldlM Call.nest [] = some [] ∧ NodeLog none none root events) ∧
    ∀ {Memory : Type} (visitor : Visitor Memory) {tree : Node} {fuel root : Nat} {store : Store}, tree.load
      {} = (root, store) →
      tree.all Node.hasOwnFields = true → visitor.ChangesNothing store → tree.depth ≤ fuel → ∀ memory,
      store.tree? root = some tree ∧
      ∃ next events, visitor.walk fuel none none root ⟨store, memory⟩ = .ok ⟨store, next⟩ ∧
        Logged visitor (visitor.logging.walk fuel none none root) ⟨store, memory⟩ ⟨store, next⟩ events ∧
          let nodes := enteredNodes (events.map (·.call))
          store.preorder fuel root = .ok nodes ∧ nodes.Nodup ∧ ∀ id, id ∈ nodes ↔ store.Reaches root id := by
  constructor
  · intro Memory visitor fuel root start ended ends
    obtain ⟨events, logged, isNode⟩ := Logged.walk ends
    exact ⟨events, logged, isNode.nested rfl, isNode⟩
  · intro Memory visitor tree fuel root store loaded own nothing enough memory
    obtain ⟨calls, areCalls, areVisits, distinct⟩ := Node.exists_calls own enough
    have isTree := tree.tree?_load {} (.refl _ _)
    rw [loaded] at areCalls areVisits isTree
    obtain ⟨next, events, ends, logged, same⟩ := Logged.quiet areCalls (nothing.isQuiet areVisits) memory
    have areBelow := Store.preorder_of_calls areCalls
    refine ⟨isTree, next, events, ends, logged, ?_⟩
    rw [same]
    exact ⟨areBelow, distinct, fun id => Store.mem_preorder areBelow⟩

/-- `return old` as a program. -/
def returningProgram : Node :=
  .make .program [(.body, .list [.node (.make .returnStatement [(.argument, .node (.identifier "old"))])])]

/-- A visitor that replaces what is returned, and puts another statement before all others. -/
def replacing (root : Nat) : Visitor (List Visit) :=
  .noting [.enter] (applyRules [
    { moment := .enter, kindName := "ReturnStatement",
      edit := { name := "argument", change := .replace,
                data := .object [("type", .scalar (.text "Identifier")), ("name", .scalar (.text "new"))] } },
    { moment := .enter, kindName := "ReturnStatement",
      edit := { onRoot := true, name := "body", change := .insert 0,
                data := .object [("type", .scalar (.text "ReturnStatement")), ("argument", .scalar .null)] } }]
                  root)

/-- The walk goes from the program `2` and its statement `1` to the new name `3`, not to the old one `0`, and leaves
out the statement `4` that was put in before. A walk that changes nothing goes to the old name. -/
theorem walk_discipline_replacing :
    (∃ ended events, (replacing 2).walk 3 none none 2 ⟨(returningProgram.load {}).2, []⟩ = .ok ended ∧
      Logged (replacing 2) ((replacing 2).logging.walk 3 none none 2)
        ⟨(returningProgram.load {}).2, []⟩ ended events ∧
        (events.map (·.call)).foldlM Call.nest [] = some [] ∧ NodeLog none none 2 events ∧
          enteredNodes (events.map (·.call)) = [2, 1, 3] ∧ ended.store.nodesIn 1 .argument = .ok [3] ∧
            ended.store.nodesIn 2 .body = .ok [4, 1]) ∧
    ∃ next events, Logged (.noting [.enter, .leave] fun _ _ store => .ok store)
        ((Visitor.noting [.enter, .leave] fun _ _ store => .ok store).logging.walk 3 none none 2)
          ⟨(returningProgram.load {}).2, []⟩ ⟨(returningProgram.load {}).2, next⟩ events ∧
      enteredNodes (events.map (·.call)) = [2, 1, 0] ∧ (returningProgram.load {}).2.Reaches 2 0 := by
  constructor
  · obtain ⟨ended, ends⟩ : ∃ ended, (replacing 2).walk 3 none none 2
      ⟨(returningProgram.load {}).2, []⟩ = .ok ended :=
      ⟨_, rfl⟩
    obtain ⟨events, logged, nested, isNode⟩ := walk_discipline.1 _ ends
    have isEntered : ((replacing 2).logging.walk 3 none none 2 ⟨(returningProgram.load {}).2, [], []⟩).map
        (fun walked => enteredNodes (walked.memory.2.map Event.call)) = .ok [2, 1, 3] := rfl
    rw [logged.logs []] at isEntered
    have argument : ((replacing 2).walk 3 none none 2 ⟨(returningProgram.load {}).2, []⟩).bind
        (fun walked => walked.store.nodesIn 1 .argument) = .ok [3] := rfl
    have body : ((replacing 2).walk 3 none none 2 ⟨(returningProgram.load {}).2, []⟩).bind
        (fun walked => walked.store.nodesIn 2 .body) = .ok [4, 1] := rfl
    rw [ends] at argument body
    exact ⟨ended, events, ends, logged, nested, isNode, Except.ok.inj isEntered, argument, body⟩
  · obtain ⟨-, next, events, -, logged, areBelow, -, areReached⟩ := walk_discipline.2
      (.noting [.enter, .leave] fun _ _ store => .ok store) (rfl : returningProgram.load {} = (2, _)) rfl
        (fun _ _ memory isVisit => ⟨_, call_noting isVisit memory⟩) (Nat.le_refl _) []
    have isEntered : enteredNodes (events.map (·.call)) = [2, 1, 0] := Except.ok.inj (areBelow.symm.trans rfl)
    exact ⟨next, events, logged, isEntered, (areReached 0).mp (by rw [isEntered]; simp)⟩

end Visitor

end JsxRouting
