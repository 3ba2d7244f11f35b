import JsxRouting.Scope.StackSteps
import Mathlib.Data.List.Basic

namespace JsxRouting

/-- Frames in cells, the numbers of those that are open, the innermost first, and the number that is stored as the
root. -/
structure SharedStack where
  cells : List Frame := []
  frames : List Nat := []
  root : Option Nat := none

/-- Whether of two open frames, told by their numbers, the first is no farther from an end of the stack. -/
def ScopeStack.End.Nearer : End → Nat → Nat → Prop
  | .outermost, number, other => number ≤ other
  | .innermost, number, other => other ≤ number

namespace SharedStack

/-- The frame with a number, open or closed. -/
def cell? (stack : SharedStack) (number : Nat) : Option Frame := stack.cells[number]?

/-- Opens a frame in a new cell. It becomes the root if none is stored. -/
def push (stack : SharedStack) (frame : Frame) : SharedStack where
  cells := stack.cells ++ [frame]
  frames := stack.cells.length :: stack.frames
  root := stack.root.or (some stack.cells.length)

/-- Closes the innermost frame and gives its number. If it was the last one, the root is dropped. -/
def pop? (stack : SharedStack) : Option (Nat × SharedStack) :=
  match stack.frames with
  | [] => none
  | number :: rest =>
    some (number, { stack with frames := rest, root := if rest.isEmpty then none else stack.root })

/-- The number of the frame at an end of the stack. That of the outermost is the one that is stored. -/
def number? (stack : SharedStack) : ScopeStack.End → Option Nat
  | .outermost => stack.root
  | .innermost => stack.frames.head?

/-- Changes the frame with a number. -/
def change (stack : SharedStack) (number : Nat) (change : Frame → Frame) : SharedStack :=
  { stack with cells := stack.cells.modify number change }

/-- Whether a set of the frame with a number does not have a name. -/
def lacks (stack : SharedStack) (number : Nat) (part : Frame.Part) (name : Scalar) : Bool :=
  (stack.cell? number).all fun frame => !(frame.get part).contains name

/-- Takes a step: what it answers, and the stack behind it. A frame that is closed is given by its number. -/
def step (stack : SharedStack) : StackStep → StackAnswer Nat × SharedStack
  | .push isEntryPoint => (.pushed, stack.push { isEntryPoint })
  | .pop =>
    match stack.pop? with
    | some (number, rest) => (.popped number, rest)
    | none => (.noFrame, stack)
  | .add target part name =>
    match stack.number? target with
    | some number => (.added (stack.lacks number part name), stack.change number (·.insert part name))
    | none => (.noFrame, stack)

/-- The stack after more steps. -/
def run (stack : SharedStack) (steps : List StackStep) : SharedStack :=
  steps.foldl (fun stack step => (stack.step step).2) stack

/-- The stack after steps that begin with no frame. -/
def after (steps : List StackStep) : SharedStack := run {} steps

@[simp] theorem run_nil (stack : SharedStack) : stack.run [] = stack := rfl

@[simp] theorem run_cons (stack : SharedStack) (step : StackStep) (rest : List StackStep) :
    stack.run (step :: rest) = (stack.step step).2.run rest := rfl

theorem run_append (stack : SharedStack) (first second : List StackStep) :
    stack.run (first ++ second) = (stack.run first).run second := List.foldl_append

section Cells

variable {stack : SharedStack} {number other : Nat}

theorem cell?_push_self (stack : SharedStack) (frame : Frame) :
    (stack.push frame).cell? stack.cells.length = some frame := by
  simp [cell?, push]

theorem cell?_push_of_lt (frame : Frame) (made : number < stack.cells.length) :
    (stack.push frame).cell? number = stack.cell? number := List.getElem?_append_left made

theorem cell?_change_self (stack : SharedStack) (number : Nat) (change : Frame → Frame) :
    (stack.change number change).cell? number = (stack.cell? number).map change := by
  simp [cell?, SharedStack.change]

theorem cell?_change_of_ne (change : Frame → Frame) (ne : other ≠ number) :
    (stack.change number change).cell? other = stack.cell? other := by
  simp [cell?, SharedStack.change, ne.symm]

/-- Opening and closing frames changes none of those that were made before. -/
theorem cell?_step_push (isEntryPoint : Bool) (made : number < stack.cells.length) :
    (stack.step (.push isEntryPoint)).2.cell? number = stack.cell? number := cell?_push_of_lt _ made

theorem step_pop (stack : SharedStack) {rest : List Nat} (frames : stack.frames = number :: rest) :
    stack.step .pop =
      (.popped number, { stack with frames := rest, root := if rest.isEmpty then none else stack.root }) := by
  simp only [step, pop?, frames]

theorem frames_step_pop {rest : List Nat} (frames : stack.frames = number :: rest) :
    (stack.step .pop).2.frames = rest := by
  rw [stack.step_pop frames]

theorem step_pop_of_nil (none : stack.frames = []) : stack.step .pop = (.noFrame, stack) := by
  simp only [step, pop?, none]

theorem cells_step_pop (stack : SharedStack) : (stack.step .pop).2.cells = stack.cells := by
  cases frames : stack.frames with
  | nil => rw [step_pop_of_nil frames]
  | cons number rest => rw [stack.step_pop frames]

theorem cell?_step_pop (stack : SharedStack) (number : Nat) :
    (stack.step .pop).2.cell? number = stack.cell? number :=
  congrArg (·[number]?) stack.cells_step_pop

variable (stack) (target : ScopeStack.End) (part : Frame.Part) (name : Scalar)

theorem frames_step_add : (stack.step (.add target part name)).2.frames = stack.frames := by
  rw [step]
  split <;> rfl

/-- A name is added to the frame that is referred to and to no other. -/
theorem cell?_step_add (number : Nat) : (stack.step (.add target part name)).2.cell? number =
    if stack.number? target = some number then (stack.cell? number).map (·.insert part name)
      else stack.cell? number := by
  rw [step]
  cases isNumber : stack.number? target with
  | none => rfl
  | some found =>
    by_cases same : found = number
    · rw [if_pos (congrArg some same), same]
      exact stack.cell?_change_self number _
    · rw [if_neg fun isSame => same (Option.some.inj isSame)]
      exact cell?_change_of_ne _ (Ne.symm same)

end Cells

/-- A push makes one frame, and no other step makes any. -/
theorem length_cells_step (stack : SharedStack) (step : StackStep) :
    (stack.step step).2.cells.length = stack.cells.length + if step.isPush then 1 else 0 := by
  cases step with
  | push isEntryPoint => exact List.length_append
  | pop => rw [cells_step_pop]; rfl
  | add target part name =>
    rw [SharedStack.step]
    split
    · exact List.length_modify _ _ _
    · rfl

/-- What holds of the references in every run. -/
structure Valid (stack : SharedStack) : Prop where
  /-- The frames were made in the order in which they are nested. -/
  lastFirst : stack.frames.Pairwise (· > ·)
  made : ∀ number ∈ stack.frames, number < stack.cells.length
  root : stack.root = stack.frames.getLast?

theorem valid_empty : Valid {} := ⟨.nil, nofun, rfl⟩

namespace Valid

variable {stack : SharedStack}

theorem push (valid : stack.Valid) (frame : Frame) : (stack.push frame).Valid where
  lastFirst := List.pairwise_cons.mpr ⟨valid.made, valid.lastFirst⟩
  made number member := by
    have size : (stack.push frame).cells.length = stack.cells.length + 1 := List.length_append
    obtain rfl | older := List.mem_cons.mp member
    · omega
    · have := valid.made number older
      omega
  root := by
    rw [SharedStack.push, valid.root]
    cases stack.frames with
    | nil => rfl
    | cons first rest => rw [List.getLast?_cons_cons, Option.or_of_isSome (by simp)]

/-- When the innermost frame is closed the root is kept, unless it is the frame that is closed. -/
theorem tail (valid : stack.Valid) {number : Nat} {rest : List Nat} (frames : stack.frames = number :: rest) :
    Valid { stack with frames := rest, root := if rest.isEmpty then none else stack.root } := by
  have order := valid.lastFirst
  have made := valid.made
  have root := valid.root
  rw [frames] at order made root
  refine ⟨order.of_cons, fun other member => made other (List.mem_cons_of_mem _ member), ?_⟩
  cases rest with
  | nil => rfl
  | cons next others => exact root.trans List.getLast?_cons_cons

theorem change (valid : stack.Valid) (number : Nat) (change : Frame → Frame) :
    (stack.change number change).Valid where
  lastFirst := valid.lastFirst
  made other member := by
    rw [SharedStack.change, List.length_modify]
    exact valid.made other member
  root := valid.root

/-- Each step keeps the references. -/
theorem step (valid : stack.Valid) (step : StackStep) : (stack.step step).2.Valid := by
  cases step with
  | push isEntryPoint => exact valid.push _
  | pop =>
    cases frames : stack.frames with
    | nil => rwa [step_pop_of_nil frames]
    | cons number rest =>
      rw [stack.step_pop frames]
      exact valid.tail frames
  | add target part name =>
    rw [SharedStack.step]
    split
    · exact valid.change _ _
    · exact valid

/-- So does a run. -/
theorem run (valid : stack.Valid) (steps : List StackStep) : (stack.run steps).Valid := by
  induction steps generalizing stack with
  | nil => exact valid
  | cons step rest ih => exact ih (valid.step step)

theorem mem_of_number? (valid : stack.Valid) {target : ScopeStack.End} {number : Nat}
    (isNumber : stack.number? target = some number) : number ∈ stack.frames := by
  cases target with
  | outermost => exact List.mem_of_getLast? (valid.root.symm.trans isNumber)
  | innermost => exact List.mem_of_head? isNumber

theorem number?_eq_none_iff (valid : stack.Valid) (target : ScopeStack.End) :
    stack.number? target = none ↔ stack.frames = [] := by
  cases target with
  | outermost => rw [number?, valid.root, List.getLast?_eq_none_iff]
  | innermost => rw [number?, List.head?_eq_none_iff]

/-- Where no frame is open, nothing but a push does anything. -/
theorem step_of_nil (valid : stack.Valid) (none : stack.frames = []) {step : StackStep}
    (noPush : step.isPush = false) :
    stack.step step = (.noFrame, stack) := by
  cases step with
  | push isEntryPoint => cases noPush
  | pop => exact step_pop_of_nil none
  | add target part name => rw [SharedStack.step, (valid.number?_eq_none_iff target).mpr none]

theorem order_of_frames (valid : stack.Valid) {above below : List Nat} {number : Nat}
    (frames : stack.frames = above ++ number :: below) :
    (∀ other ∈ above, number < other) ∧ ∀ other ∈ below, other < number := by
  have order := valid.lastFirst
  rw [frames] at order
  obtain ⟨_, orderBelow, across⟩ := List.pairwise_append.mp order
  exact ⟨fun other member => across other member number List.mem_cons_self, (List.pairwise_cons.mp orderBelow).1⟩

/-- No number stands twice among those of the open frames. -/
theorem notMem_of_frames (valid : stack.Valid) {above below : List Nat} {number : Nat}
    (frames : stack.frames = above ++ number :: below) : number ∉ above ∧ number ∉ below := by
  obtain ⟨later, earlier⟩ := valid.order_of_frames frames
  exact ⟨fun member => Nat.lt_irrefl number (later number member),
    fun member => Nat.lt_irrefl number (earlier number member)⟩

/-- A frame is at an end of the stack if no other stands on that side of it. -/
theorem number?_eq_iff (valid : stack.Valid) {above below : List Nat} {number : Nat}
    (frames : stack.frames = above ++ number :: below) (target : ScopeStack.End) :
    stack.number? target = some number ↔ ScopeStack.AtEnd above below target := by
  obtain ⟨notAbove, notBelow⟩ := valid.notMem_of_frames frames
  cases target with
  | outermost =>
    rw [number?, valid.root, frames, List.getLast?_append_cons, ScopeStack.AtEnd]
    cases below with
    | nil => simp
    | cons next rest =>
      rw [List.getLast?_cons_cons]
      refine ⟨fun isLast => absurd (List.mem_of_getLast? isLast) notBelow, fun none => ?_⟩
      exact absurd none (List.cons_ne_nil next rest)
  | innermost =>
    rw [number?, frames, ScopeStack.AtEnd]
    cases above with
    | nil => simp
    | cons first rest =>
      rw [List.cons_append, List.head?_cons, Option.some_inj]
      refine ⟨fun same => absurd (same ▸ List.mem_cons_self) notAbove, fun none => ?_⟩
      exact absurd none (List.cons_ne_nil first rest)

/-- The root is the first of the open frames that was made, and the innermost frame is the last. -/
theorem number?_eq_some_iff (valid : stack.Valid) (target : ScopeStack.End) (number : Nat) :
    stack.number? target = some number ↔
      number ∈ stack.frames ∧ ∀ other ∈ stack.frames, target.Nearer number other := by
  constructor
  · intro isNumber
    have member := valid.mem_of_number? isNumber
    obtain ⟨above, below, frames⟩ := List.append_of_mem member
    obtain ⟨later, earlier⟩ := valid.order_of_frames frames
    have atEnd := (valid.number?_eq_iff frames target).mp isNumber
    refine ⟨member, fun other inFrames => ?_⟩
    rw [frames] at inFrames
    cases target with
    | outermost =>
      obtain rfl : below = [] := atEnd
      obtain inAbove | single := List.mem_append.mp inFrames
      · exact Nat.le_of_lt (later other inAbove)
      · exact Nat.le_of_eq (List.mem_singleton.mp single).symm
    | innermost =>
      obtain rfl : above = [] := atEnd
      obtain same | inBelow := List.mem_cons.mp inFrames
      · exact Nat.le_of_eq same
      · exact Nat.le_of_lt (earlier other inBelow)
  · rintro ⟨member, nearest⟩
    obtain ⟨above, below, frames⟩ := List.append_of_mem member
    obtain ⟨later, earlier⟩ := valid.order_of_frames frames
    rw [frames] at nearest
    refine (valid.number?_eq_iff frames target).mpr ?_
    cases target with
    | outermost =>
      refine List.eq_nil_iff_forall_not_mem.mpr fun other inBelow => ?_
      exact Nat.not_lt_of_le (nearest other (by simp [inBelow])) (earlier other inBelow)
    | innermost =>
      refine List.eq_nil_iff_forall_not_mem.mpr fun other inAbove => ?_
      exact Nat.not_lt_of_le (nearest other (by simp [inAbove])) (later other inAbove)

end Valid

/-- The frames that are referred to are those of the stack. -/
def StandsFor (shared : SharedStack) (stack : ScopeStack) : Prop :=
  stack.frames.map some = shared.frames.map shared.cell?

namespace StandsFor

variable {shared : SharedStack} {stack : ScopeStack}

theorem empty : StandsFor {} .empty := rfl

/-- The stored root refers to the frame that the stack finds as its root, and so does the number of the innermost
frame to its top. -/
theorem frame? (stands : shared.StandsFor stack) (valid : shared.Valid) (target : ScopeStack.End) :
    (stack.frame? target).map some = (shared.number? target).map shared.cell? := by
  cases target with
  | outermost =>
    rw [ScopeStack.frame?, ScopeStack.root?, number?, valid.root, ← List.getLast?_map, stands, List.getLast?_map]
  | innermost => rw [ScopeStack.frame?, ScopeStack.top?, number?, ← List.head?_map, stands, List.head?_map]

theorem push (stands : shared.StandsFor stack) (valid : shared.Valid) (frame : Frame) :
    (shared.push frame).StandsFor (stack.push frame) := by
  have older : shared.frames.map (shared.push frame).cell? = shared.frames.map shared.cell? :=
    List.map_congr_left fun number member => cell?_push_of_lt frame (valid.made number member)
  have newest := shared.cell?_push_self frame
  rw [StandsFor, ScopeStack.push, List.map_cons, stands, ← older, ← newest]
  rfl

theorem change (stands : shared.StandsFor stack) (valid : shared.Valid) {target : ScopeStack.End} {number : Nat}
    (isNumber : shared.number? target = some number) (change : Frame → Frame) :
    (shared.change number change).StandsFor (stack.change target change) := by
  obtain ⟨above, below, frames⟩ := List.append_of_mem (valid.mem_of_number? isNumber)
  obtain ⟨notAbove, notBelow⟩ := valid.notMem_of_frames frames
  have others {numbers : List Nat} (absent : number ∉ numbers) :
      numbers.map (shared.change number change).cell? = numbers.map shared.cell? :=
    List.map_congr_left fun other member => cell?_change_of_ne change fun same => absent (same ▸ member)
  have atEnd := (valid.number?_eq_iff frames target).mp isNumber
  unfold StandsFor at stands
  rw [frames, List.map_append, List.map_cons] at stands
  obtain ⟨above', rest, isStack, aboveSame, restSame⟩ := List.map_eq_append_iff.mp stands
  obtain ⟨frame, below', rfl, frameSame, belowSame⟩ := List.map_eq_cons_iff.mp restSame
  have stackAtEnd : ScopeStack.AtEnd above' below' target := by
    cases target with
    | outermost => exact List.map_eq_nil_iff.mp (belowSame.trans (by rw [atEnd, List.map_nil]))
    | innermost => exact List.map_eq_nil_iff.mp (aboveSame.trans (by rw [atEnd, List.map_nil]))
  have changed := ScopeStack.change_of_frames isStack stackAtEnd change
  have kept : (shared.change number change).frames = above ++ number :: below := frames
  rw [StandsFor, changed, kept, List.map_append, List.map_cons, List.map_append, List.map_cons, others notAbove,
    others notBelow, cell?_change_self, aboveSame, belowSame, ← frameSame]
  rfl

/-- A step leads to stacks that stand for each other, and the answers are the same. -/
theorem step (stands : shared.StandsFor stack) (valid : shared.Valid) (step : StackStep) :
    (shared.step step).2.StandsFor (stack.step step).2 ∧
      (stack.step step).1.map some = (shared.step step).1.map shared.cell? := by
  cases step with
  | push isEntryPoint => exact ⟨stands.push valid _, rfl⟩
  | pop =>
    obtain ⟨frames⟩ := stack
    obtain ⟨cells, numbers, root⟩ := shared
    cases numbers with
    | nil =>
      obtain rfl := List.map_eq_nil_iff.mp stands
      exact ⟨stands, rfl⟩
    | cons number rest =>
      obtain ⟨frame, others, rfl, frameSame, othersSame⟩ := List.map_eq_cons_iff.mp stands
      exact ⟨othersSame, congrArg StackAnswer.popped frameSame⟩
  | add target part name =>
    have same := stands.frame? valid target
    rw [ScopeStack.step, SharedStack.step]
    cases isNumber : shared.number? target with
    | none =>
      rw [isNumber] at same
      rw [Option.map_eq_none_iff.mp same]
      exact ⟨stands, rfl⟩
    | some number =>
      rw [isNumber] at same
      obtain ⟨frame, isFrame, isCell⟩ := Option.map_eq_some_iff.mp same
      rw [isFrame]
      refine ⟨stands.change valid isNumber _, congrArg StackAnswer.added ?_⟩
      rw [lacks, ← isCell]
      rfl

/-- After any steps the stack is the one that the references stand for. -/
theorem after (steps : List StackStep) : (SharedStack.after steps).StandsFor (ScopeStack.after steps) := by
  suffices general : ∀ (shared : SharedStack) (stack : ScopeStack), shared.StandsFor stack → shared.Valid →
      (shared.run steps).StandsFor (steps.foldl (fun stack step => (stack.step step).2) stack) from
    general {} .empty .empty valid_empty
  induction steps with
  | nil => exact fun _ _ stands _ => stands
  | cons step rest ih => exact fun _ _ stands valid => ih _ _ (stands.step valid step).1 (valid.step step)

end StandsFor

end SharedStack

end JsxRouting
