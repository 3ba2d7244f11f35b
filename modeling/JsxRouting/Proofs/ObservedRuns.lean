import JsxRouting.Proofs.RecordedRoot
import JsxRouting.Proofs.StatementOrder

namespace JsxRouting

/-- Actions of the pass that note the calls made, also where one fails. -/
abbrev ObservedM := StateT Progress (ExceptT Error (StateM (List Call)))

namespace Pass

/-- Does what an action of the pass does, and notes the call when it has been made. -/
def noting {α : Type} (moment : Moment) (place : Place) (node : Node) (action : PassM α) : ObservedM α :=
  fun progress calls =>
    match action progress with
    | .ok (value, after) => (.ok (value, after), calls ++ [⟨moment, place, node, after.stack⟩])
    | .error error => (.error error, calls)

/-- The pass, observed. -/
def observer (pass : Pass) : Transformer ObservedM where
  enter place node := noting .enter place node (pass.enter place node)
  leave place tag node := noting .leave place node (pass.leave place tag node)

/-- A function that is left is the innermost of those that are open. -/
def LeavesInnermost (opened : List OpenFunction) (call : Call) : Prop :=
  call.moment = .leave → call.node.isFunction = true →
    ∃ innermost others, opened = innermost :: others ∧
      innermost.place = call.place ∧ innermost.function.kind = call.node.kind

/-- What holds of the calls that are made while these functions are open: after each of them the stack has the
frames of the functions that are open then. -/
def CallsHold (pass : Pass) : List OpenFunction → List Call → Prop
  | _, [] => True
  | opened, call :: rest =>
    LeavesInnermost opened call ∧ call.stack.frames = pass.framesFor (OpenFunction.track opened call) ∧
      pass.CallsHold (OpenFunction.track opened call) rest

namespace CallsHold

variable {pass : Pass} {opened : List OpenFunction}

theorem append {first second : List Call} (holds : pass.CallsHold opened first)
    (more : pass.CallsHold (first.foldl OpenFunction.track opened) second) :
    pass.CallsHold opened (first ++ second) := by
  induction first generalizing opened with
  | nil => exact more
  | cons call rest ih =>
    obtain ⟨leaves, frames, others⟩ := holds
    exact ⟨leaves, frames, ih others more⟩

/-- What holds after the last of some calls. -/
theorem at_call {before rest : List Call} {call : Call} (holds : pass.CallsHold opened (before ++ call :: rest)) :
    LeavesInnermost (before.foldl OpenFunction.track opened) call ∧
      call.stack.frames = pass.framesFor ((before ++ [call]).foldl OpenFunction.track opened) := by
  induction before generalizing opened with
  | nil => exact ⟨holds.1, holds.2.1⟩
  | cons first before ih => exact ih holds.2.2

end CallsHold

end Pass

/-- From where these functions are open, the observed action does what the plain one does, and its calls hold. If it
succeeds, the functions that are then open are in this relation to the value. -/
def ObservesFrom (pass : Pass) {α : Type} (opened : List OpenFunction) (progress : Progress) (action : ObservedM α)
    (plain : PassM α) (ends : List OpenFunction → α → Prop) : Prop :=
  ∃ made, (∀ calls, action progress calls = (plain progress, calls ++ made)) ∧ pass.CallsHold opened made ∧
    ∀ value after, plain progress = .ok (value, after) →
      after.stack.frames = pass.framesFor (made.foldl OpenFunction.track opened) ∧
        ends (made.foldl OpenFunction.track opened) value

/-- From wherever it is started, the action leaves those functions open that were open before. -/
def Observes (pass : Pass) {α : Type} (action : ObservedM α) (plain : PassM α) : Prop :=
  ∀ (opened : List OpenFunction) (progress : Progress), progress.stack.frames = pass.framesFor opened →
    ObservesFrom pass opened progress action plain fun ended _ =>
      ended.map OpenFunction.entered = opened.map OpenFunction.entered

section Steps

variable {pass : Pass} {α β : Type} {opened : List OpenFunction} {progress : Progress} {action : ObservedM α}
  {plain : PassM α} {next : α → ObservedM β} {plainNext : α → PassM β}

theorem ObservedM.bind_of_ok {calls made : List Call} {value : α} {after : Progress}
    (ran : action progress calls = (.ok (value, after), made)) :
    (action >>= next) progress calls = next value after made := by
  simp only [Bind.bind, StateT.bind, ExceptT.bind, ExceptT.mk, ExceptT.bindCont, ran]

theorem ObservedM.bind_of_error {calls made : List Call} {error : Error}
    (ran : action progress calls = (.error error, made)) :
    (action >>= next) progress calls = (.error error, made) := by
  simp only [Bind.bind, StateT.bind, ExceptT.bind, ExceptT.mk, ExceptT.bindCont, ran]
  rfl

namespace ObservesFrom

variable {ends : List OpenFunction → α → Prop} {ends' : List OpenFunction → β → Prop}

theorem bind (first : ObservesFrom pass opened progress action plain ends)
    (second : ∀ value after ended, plain progress = .ok (value, after) → after.stack.frames = pass.framesFor ended →
      ends ended value → ObservesFrom pass ended after (next value) (plainNext value) ends') :
    ObservesFrom pass opened progress (action >>= next) (plain >>= plainNext) ends' := by
  obtain ⟨made, ran, holds, closed⟩ := first
  cases outcome : plain progress with
  | error error =>
    have failed : (plain >>= plainNext) progress = .error error := by
      simp only [Bind.bind, StateT.bind, outcome, Except.bind]
    rw [outcome] at ran
    refine ⟨made, fun calls => ?_, holds, fun _ _ same => ?_⟩
    · rw [failed, ObservedM.bind_of_error (ran calls)]
    · rw [failed] at same
      cases same
  | ok result =>
    obtain ⟨value, after⟩ := result
    obtain ⟨frames, isEnd⟩ := closed value after outcome
    obtain ⟨more, ranNext, holdsNext, closedNext⟩ := second value after _ outcome frames isEnd
    have both : (plain >>= plainNext) progress = plainNext value after := by
      simp only [Bind.bind, StateT.bind, outcome, Except.bind]
    rw [outcome] at ran
    refine ⟨made ++ more, fun calls => ?_, holds.append holdsNext, ?_⟩
    · rw [both, ObservedM.bind_of_ok (ran calls), ranNext, List.append_assoc]
    · rw [both, List.foldl_append]
      exact closedNext

theorem imp {others : List OpenFunction → α → Prop} (observes : ObservesFrom pass opened progress action plain ends)
    (weaker : ∀ ended value, ends ended value → others ended value) :
    ObservesFrom pass opened progress action plain others := by
  obtain ⟨made, ran, holds, closed⟩ := observes
  refine ⟨made, ran, holds, fun value after same => ?_⟩
  obtain ⟨frames, isEnd⟩ := closed value after same
  exact ⟨frames, weaker _ value isEnd⟩

/-- A call that is noted, with what it does to the open functions. -/
theorem noting {moment : Moment} {place : Place} {node : Node}
    (leaves : ∀ stack, Pass.LeavesInnermost opened ⟨moment, place, node, stack⟩)
    (tracks : ∀ value after, plain progress = .ok (value, after) →
      let ended := OpenFunction.track opened ⟨moment, place, node, after.stack⟩
      after.stack.frames = pass.framesFor ended ∧ ends ended value) :
    ObservesFrom pass opened progress (Pass.noting moment place node plain) plain ends := by
  cases outcome : plain progress with
  | error error =>
    refine ⟨[], fun calls => ?_, trivial, fun _ _ same => ?_⟩
    · rw [Pass.noting, outcome, List.append_nil]
    · rw [outcome] at same
      cases same
  | ok result =>
    obtain ⟨value, after⟩ := result
    obtain ⟨frames, isEnd⟩ := tracks value after outcome
    refine ⟨[⟨moment, place, node, after.stack⟩], fun calls => ?_, ⟨leaves after.stack, frames, trivial⟩,
      fun _ _ same => ?_⟩
    · rw [Pass.noting, outcome]
    · rw [outcome] at same
      cases same
      exact ⟨frames, isEnd⟩

end ObservesFrom

namespace Observes

theorem pure (value : α) : Observes pass (Pure.pure value) (Pure.pure value) := by
  intro opened progress frames
  refine ⟨[], fun calls => ?_, trivial, fun _ _ same => ?_⟩
  · rw [List.append_nil]
    rfl
  · cases same
    exact ⟨frames, rfl⟩

theorem bind (first : Observes pass action plain) (second : ∀ value, Observes pass (next value) (plainNext value)) :
    Observes pass (action >>= next) (plain >>= plainNext) := by
  intro opened progress frames
  refine (first opened progress frames).bind fun value after ended _ framesAfter sameOpen => ?_
  rw [← sameOpen]
  exact second value ended after framesAfter

/-- The calls of an action stand in front of those of what follows it. -/
theorem exists_later (first : Observes pass action plain)
    (second : ∀ value, Observes pass (next value) (plainNext value)) (opened : List OpenFunction)
    (progress : Progress)
    (frames : progress.stack.frames = pass.framesFor opened) (calls : List Call) :
    ∃ later, ((action >>= next) progress calls).2 = (action progress calls).2 ++ later := by
  obtain ⟨made, ran, _, closed⟩ := first opened progress frames
  have ran := ran calls
  cases outcome : plain progress with
  | error error =>
    rw [outcome] at ran
    refine ⟨[], ?_⟩
    rw [ObservedM.bind_of_error ran, ran, List.append_nil]
  | ok result =>
    obtain ⟨value, after⟩ := result
    obtain ⟨more, ranNext, _⟩ := second value _ after (closed value after outcome).1
    rw [outcome] at ran
    refine ⟨more, ?_⟩
    rw [ObservedM.bind_of_ok ran, ran, ranNext]

end Observes

/-- Entering a function opens it. -/
theorem Pass.observes_enter (place : Place) (node : Node) (frames : progress.stack.frames = pass.framesFor opened) :
    ObservesFrom pass opened progress (pass.observer.enter place node) (pass.transformer.enter place node)
      fun ended tag => (node.isFunction = true → tag = none) ∧
        ended.map OpenFunction.entered =
          (if node.isFunction then [(place, node)] else []) ++ opened.map OpenFunction.entered := by
  refine ObservesFrom.noting (fun _ isLeave => nomatch isLeave) fun tag after entered =>
    ⟨pass.frames_enter frames entered, fun function => ?_, ?_⟩
  · rw [Pass.enter, if_pos function] at entered
    cases entered
    rfl
  · unfold OpenFunction.track
    cases node.isFunction with
    | true => rfl
    | false =>
      cases node.is .jsxElement with
      | true => exact OpenFunction.map_entered_see node opened
      | false => rfl

/-- Leaving a function closes it. -/
theorem Pass.observes_leave (place : Place) (entered node : Node) (sameKind : entered.kind = node.kind)
    {tag : Option Scalar} (noTag : node.isFunction = true → tag = none) {outer : List (Place × Node)}
    (isOpen : opened.map OpenFunction.entered = (if node.isFunction then [(place, entered)] else []) ++ outer)
    (frames : progress.stack.frames = pass.framesFor opened) :
    ObservesFrom pass opened progress (pass.observer.leave place tag node) (pass.transformer.leave place tag node)
      fun ended _ => ended.map OpenFunction.entered = outer := by
  refine ObservesFrom.noting (fun _ _ function => ?_) fun left after ran => ⟨pass.frames_leave frames noTag ran, ?_⟩
  · have function : node.isFunction = true := function
    rw [if_pos function] at isOpen
    obtain ⟨innermost, others, rfl, same, _⟩ := List.map_eq_cons_iff.mp isOpen
    obtain ⟨rfl, rfl⟩ := Prod.mk.inj same
    exact ⟨innermost, others, rfl, rfl, sameKind⟩
  · unfold OpenFunction.track
    cases function : node.isFunction with
    | true =>
      rw [function, if_pos rfl] at isOpen
      obtain ⟨_, others, rfl, _, closed⟩ := List.map_eq_cons_iff.mp isOpen
      exact closed
    | false =>
      rw [function, if_neg Bool.false_ne_true] at isOpen
      exact isOpen

/-- A node closes its function, if it is one, after what is in it has closed its own. -/
theorem Pass.observes_node (place : Place) (kind : Kind) (fields : List (Field × Value)) (extra : Value)
    (attached : List (String × Value))
    (inner : ∀ placeOf, Observes pass (transformFields pass.observer placeOf fields)
      (transformFields pass.transformer placeOf fields)) :
    Observes pass ((Node.mk kind fields extra attached).transform pass.observer place)
      ((Node.mk kind fields extra attached).transform pass.transformer place) := by
  intro opened progress frames
  rw [Node.transform, Node.transform]
  refine (Pass.observes_enter place _ frames).bind fun tag after ended _ framesIn ⟨noTag, isOpen⟩ => ?_
  refine (inner _ ended after framesIn).bind fun walked _ _ _ framesOut sameOpen => ?_
  exact Pass.observes_leave place (.mk kind fields extra attached) (.mk kind walked extra attached) rfl noTag
    (sameOpen.trans isOpen) framesOut

end Steps

mutual

theorem Node.observes (pass : Pass) : ∀ (node : Node) (place : Place),
    Observes pass (node.transform pass.observer place) (node.transform pass.transformer place)
  | .mk kind fields extra attached, place =>
    Pass.observes_node place kind fields extra attached fun _ => observes_fields pass fields _

theorem observes_fields (pass : Pass) : ∀ (fields : List (Field × Value)) (placeOf : Field → Option Place),
    Observes pass (transformFields pass.observer placeOf fields) (transformFields pass.transformer placeOf fields)
  | [], _ => .pure []
  | (field, value) :: rest, placeOf => by
    rw [transformFields, transformFields]
    have tail (after : Value) := (observes_fields pass rest placeOf).bind fun others =>
      Observes.pure ((field, after) :: others)
    cases placeOf field with
    | some place => exact (Value.observes pass value place).bind tail
    | none => exact (Observes.pure value).bind tail

theorem Value.observes (pass : Pass) : ∀ (value : Value) (place : Place),
    Observes pass (value.transform pass.observer place) (value.transform pass.transformer place)
  | .node child, place => by
    rw [Value.transform, Value.transform]
    exact (Node.observes pass child place).bind fun _ => .pure _
  | .list items, place => by
    rw [Value.transform, Value.transform]
    exact (observes_items pass items).bind fun _ => .pure _
  | .scalar _, _ => .pure _
  | .object _, _ => .pure _

theorem observes_items (pass : Pass) : ∀ items : List Value,
    Observes pass (transformItems pass.observer items) (transformItems pass.transformer items)
  | [] => .pure []
  | .node child :: rest => by
    rw [transformItems, transformItems]
    exact (Node.observes pass child .plain).bind fun _ => (observes_items pass rest).bind fun _ => .pure _
  | .scalar _ :: rest | .list _ :: rest | .object _ :: rest =>
    (observes_items pass rest).bind fun _ => .pure _

end

section Statements

variable {m : Type → Type} [Monad m]

/-- Enters a program and goes through the first of its statements. -/
def Node.transformUntil (transformer : Transformer m) (program : Node) (first : List Value) :
    m (Option Scalar × List Value) := do
  let tag ← transformer.enter .plain program
  let forms ← transformItems transformer first
  return (tag, forms)

/-- Goes through what is left of a program after the first of its statements, and leaves it. -/
def Node.transformRest (transformer : Transformer m) (sourceType extra : Value) (attached : List (String × Value))
    (second : List Value) : Option Scalar × List Value → m Node := fun (tag, forms) => do
  let others ← transformItems transformer second
  let type ← sourceType.transform transformer .plain
  transformer.leave .plain tag (.programWith type extra attached (forms ++ others))

variable [LawfulMonad m]

theorem transformItems_append (transformer : Transformer m) (first second : List Value) :
    transformItems transformer (first ++ second) = do
      let forms ← transformItems transformer first
      let others ← transformItems transformer second
      return forms ++ others := by
  induction first with
  | nil => simp [transformItems]
  | cons item rest ih => cases item <;> simp [transformItems, ih]

theorem Node.transform_programWith (transformer : Transformer m) (sourceType extra : Value)
    (attached : List (String × Value)) (first second : List Value) :
    let program := programWith sourceType extra attached (first ++ second)
    program.transform transformer .plain =
      program.transformUntil transformer first >>= transformRest transformer sourceType extra attached second := by
  simp [programWith, transformUntil, transformRest, Node.transform, transformFields, Place.inField, Place.hidesName,
    Value.transform, transformItems_append]

/-- Before its first statement a program has only been entered. -/
theorem Node.transform_eq_transformUntil_nil (transformer : Transformer m) (kind : Kind)
    (fields : List (Field × Value))
    (extra : Value) (attached : List (String × Value)) :
    let node := mk kind fields extra attached
    node.transform transformer .plain =
      node.transformUntil transformer [] >>= fun before =>
        transformFields transformer (Place.plain.inField kind fields before.1.isSome) fields >>= fun fields =>
          transformer.leave .plain before.1 (.mk kind fields extra attached) := by
  simp [transformUntil, Node.transform, transformItems]

end Statements

namespace Pass

variable (pass : Pass)

theorem observes_transformUntil {tree : Node} (program : tree.kind = .program) (first : List Value) :
    Observes pass (tree.transformUntil pass.observer first) (tree.transformUntil pass.transformer first) := by
  refine Observes.bind (fun opened progress frames => ?_) fun _ => (observes_items pass first).bind fun _ => .pure _
  have noFunction : tree.isFunction = false := by
    rw [Node.isFunction, program]
    rfl
  refine (observes_enter .plain tree frames).imp fun _ _ ends => ?_
  rw [ends.2, noFunction]
  rfl

/-- Leaving a program closes no function. -/
theorem observes_leaveProgram (tree : Node) (program : tree.kind = .program) (tag : Option Scalar) :
    Observes pass (pass.observer.leave .plain tag tree) (pass.transformer.leave .plain tag tree) := by
  intro opened progress frames
  have noFunction : tree.isFunction = false := by
    rw [Node.isFunction, program]
    rfl
  refine observes_leave .plain tree tree rfl (fun isFunction => ?_) ?_ frames
  · cases noFunction.symm.trans isFunction
  · rw [noFunction]
    rfl

/-- A run of the pass over a program goes through the first of its statements and then through the rest. -/
theorem exists_transformRest {tree : Node} (program : tree.kind = .program) (regular : tree.isRegular = true)
    {first second : List Value} (split : tree.statements = first ++ second) :
    ∃ (rest : Option Scalar × List Value → ObservedM Node) (plainRest : Option Scalar × List Value → PassM Node),
      tree.transform pass.observer .plain = tree.transformUntil pass.observer first >>= rest ∧
        ∀ before, Observes pass (rest before) (plainRest before) := by
  obtain ⟨body, sourceType, isTree⟩ := Node.exists_programFields program regular
  rw [isTree]
  cases body with
  | list statements =>
    obtain rfl : statements = first ++ second := by
      rw [isTree] at split
      exact split
    exact ⟨_, Node.transformRest pass.transformer sourceType tree.extra tree.attached second,
      Node.transform_programWith pass.observer sourceType tree.extra tree.attached first second,
      fun _ => (observes_items pass second).bind fun _ => (Value.observes pass sourceType .plain).bind fun _ =>
        pass.observes_leaveProgram (Node.programWith ..) rfl _⟩
  | node | scalar | object =>
    -- A body that is no list holds no statements, and where it begins only the program has been entered.
    obtain ⟨rfl, rfl⟩ : first = [] ∧ second = [] := List.append_eq_nil_iff.mp (by rw [← split, isTree]; rfl)
    exact ⟨_, _, Node.transform_eq_transformUntil_nil pass.observer _ _ _ _,
      fun _ => (observes_fields pass _ _).bind fun _ => pass.observes_leaveProgram (.mk .program _ _ _) rfl _⟩

/-- At every point of a run of the pass over a program, the stack is as the functions that are open want it, and
where the program or one of its statements ends, none is open. -/
theorem observed_program {tree : Node} (program : tree.kind = .program) (regular : tree.isRegular = true) :
    ∃ calls, tree.transform pass.observer .plain {} [] = (tree.transform pass.transformer .plain {}, calls) ∧
      (∀ before call rest, calls = before ++ call :: rest →
        LeavesInnermost (OpenFunction.after before) call ∧
          pass.StackInvariant (OpenFunction.after (before ++ [call])) call.stack ∧
          (RecordedStack.after pass (before ++ [call])).StandsFor call.stack) ∧
      (∀ after progress, tree.transform pass.transformer .plain {} = .ok (after, progress) →
        OpenFunction.after calls = [] ∧ progress.stack.frames = []) ∧
      ∀ first second, tree.statements = first ++ second →
        ∃ made later, calls = made ++ later ∧
          tree.transformUntil pass.observer first {} [] = (tree.transformUntil pass.transformer first {}, made) ∧
          ∀ forms progress, tree.transformUntil pass.transformer first {} = .ok (forms, progress) →
            OpenFunction.after made = [] ∧ progress.stack.frames = [] := by
  -- What closes all it has opened ends with no frame, when it was started with none.
  have ends {made : List Call} {progress : Progress}
      (closed : progress.stack.frames = pass.framesFor (OpenFunction.after made) ∧
        (OpenFunction.after made).map OpenFunction.entered = []) :
      OpenFunction.after made = [] ∧ progress.stack.frames = [] := by
    have none := List.map_eq_nil_iff.mp closed.2
    exact ⟨none, closed.1.trans (congrArg pass.framesFor none)⟩
  obtain ⟨calls, ran, holds, closed⟩ := Node.observes pass tree .plain [] {} rfl
  refine ⟨calls, ran [], ?_, fun after progress same => ends (closed after progress same), ?_⟩
  · rintro before call rest rfl
    obtain ⟨leaves, frames⟩ := holds.at_call
    have stands := RecordedStack.standsFor_after pass (before ++ [call])
    rw [OpenFunction.after, ← frames] at stands
    exact ⟨leaves, pass.stackInvariant_of_frames frames, stands⟩
  · intro first second split
    have observes := observes_transformUntil pass program first
    obtain ⟨made, ranFirst, _, closedFirst⟩ := observes [] {} rfl
    obtain ⟨rest, plainRest, isRun, observesRest⟩ := exists_transformRest pass program regular split
    obtain ⟨later, isRest⟩ := observes.exists_later observesRest [] {} rfl []
    refine ⟨made, later, ?_, ranFirst [], fun forms progress same => ends (closedFirst forms progress same)⟩
    rw [← isRun, ran, ranFirst] at isRest
    exact isRest

/-- `function F() { function G() { <Foo />; } }`: when `Foo` has been entered there are two frames, and `Foo` is in
that of `F`. -/
theorem observed_program_nested :
    let inner := Node.functionNamed "G" [] [.expressionStatement (.emptyElement (.jsxName "Foo"))]
    let page := Node.programOf [.functionNamed "F" [] [inner]]
    page.kind = .program ∧ page.isRegular = true ∧
      ∃ calls, page.transform (observer ⟨{}, .empty⟩) .plain {} [] =
          (page.transform (transformer ⟨{}, .empty⟩) .plain {}, calls) ∧
        calls[10]?.map (fun call => call.stack.frames.map fun frame => frame.components.toList) =
          some [[], [.text "Foo"]] := by
  intro inner page
  have program : page.kind = .program := rfl
  have regular : page.isRegular = true := rfl
  obtain ⟨calls, ran, _⟩ := observed_program ⟨{}, .empty⟩ program regular
  refine ⟨program, regular, calls, ran, ?_⟩
  have made : (page.transform (observer ⟨{}, .empty⟩) .plain {} []).2 = calls := congrArg Prod.snd ran
  rw [← made]
  decide +kernel

end Pass

end JsxRouting
