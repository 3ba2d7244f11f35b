import JsxRouting.Proofs.Findings
import JsxRouting.Proofs.SharedFrames
import Mathlib.Data.List.Infix

namespace JsxRouting

namespace StackStep

def pushes (steps : List StackStep) : Nat := steps.countP isPush

def pops (steps : List StackStep) : Nat := steps.countP isPop

/-- How many frames are open after a step, if so many were open before it. -/
def height (opened : Nat) : StackStep → Nat
  | .push _ => opened + 1
  | .pop => opened - 1
  | .add .. => opened

/-- Whether the steps leave a frame open above which there are so many others: nowhere do they close more frames
than those and what they opened themselves. -/
def KeepOpen (above : Nat) (steps : List StackStep) : Prop :=
  ∀ first, first <+: steps → pops first ≤ above + pushes first

instance (above : Nat) (steps : List StackStep) : Decidable (KeepOpen above steps) :=
  decidable_of_iff (∀ first ∈ steps.inits, pops first ≤ above + pushes first)
    (forall_congr' fun first => imp_congr_left (List.mem_inits first steps))

/-- Whether a frame with so many others above it is the one at an end of the stack. -/
def isAtEnd (isOutermost : Bool) (above : Nat) : ScopeStack.End → Bool
  | .outermost => isOutermost
  | .innermost => above == 0

/-- The names that the steps add to a set of a frame above which there are so many others, in order. When the frame
has been closed nothing more is added to it. -/
def namesAdded (isOutermost : Bool) (part : Frame.Part) : Nat → List StackStep → List Scalar
  | _, [] => []
  | above, .push _ :: rest => namesAdded isOutermost part (above + 1) rest
  | 0, .pop :: _ => []
  | above + 1, .pop :: rest => namesAdded isOutermost part above rest
  | above, .add target other name :: rest =>
    if other = part ∧ isAtEnd isOutermost above target then name :: namesAdded isOutermost part above rest
    else namesAdded isOutermost part above rest

section KeepOpen

variable {above : Nat} {rest : List StackStep}

theorem keepOpen_nil (above : Nat) : KeepOpen above [] := by
  intro first isPrefix
  rw [List.prefix_nil.mp isPrefix]
  exact Nat.zero_le _

theorem keepOpen_cons {step : StackStep} :
    KeepOpen above (step :: rest) ↔ ∀ first, first <+: rest → pops (step :: first) ≤ above +
      pushes (step :: first) := by
  refine ⟨fun keep first isPrefix => keep _ ((List.prefix_cons_inj step).mpr isPrefix),
    fun keep first isPrefix => ?_⟩
  obtain rfl | ⟨others, rfl, inRest⟩ := List.prefix_cons_iff.mp isPrefix
  · exact Nat.zero_le _
  · exact keep others inRest

theorem keepOpen_push (isEntryPoint : Bool) :
    KeepOpen above (.push isEntryPoint :: rest) ↔ KeepOpen (above + 1) rest := by
  rw [keepOpen_cons]
  refine forall₂_congr fun first _ => ?_
  simp only [pops, pushes, List.countP_cons, isPop, isPush, Bool.false_eq_true, if_false, if_true]
  omega

theorem not_keepOpen_pop : ¬ KeepOpen 0 (.pop :: rest) := by
  intro keep
  have closed := keepOpen_cons.mp keep [] List.nil_prefix
  exact absurd closed (by decide)

theorem keepOpen_pop : KeepOpen (above + 1) (.pop :: rest) ↔ KeepOpen above rest := by
  rw [keepOpen_cons]
  refine forall₂_congr fun first _ => ?_
  simp only [pops, pushes, List.countP_cons, isPop, isPush, Bool.false_eq_true, if_false, if_true]
  omega

theorem keepOpen_add (target : ScopeStack.End) (part : Frame.Part) (name : Scalar) :
    KeepOpen above (.add target part name :: rest) ↔ KeepOpen above rest := by
  rw [keepOpen_cons]
  refine forall₂_congr fun first _ => ?_
  simp only [pops, pushes, List.countP_cons, isPop, isPush, Bool.false_eq_true, if_false, Nat.add_zero]

end KeepOpen

end StackStep

namespace SharedStack

open StackStep

variable {stack : SharedStack} {number : Nat} {above below : List Nat}

theorem frames_step_push (isEntryPoint : Bool) (frames : stack.frames = above ++ number :: below) :
    (stack.step (.push isEntryPoint)).2.frames = (stack.cells.length :: above) ++ number :: below :=
  congrArg (stack.cells.length :: ·) frames

theorem length_cells_run (stack : SharedStack) (steps : List StackStep) :
    (stack.run steps).cells.length = stack.cells.length + pushes steps := by
  induction steps generalizing stack with
  | nil => rfl
  | cons step rest ih =>
    rw [run_cons, ih, length_cells_step, pushes, pushes, List.countP_cons]
    omega

/-- The height that the steps lead to is the number of open frames. -/
theorem length_frames_run (stack : SharedStack) (steps : List StackStep) :
    (stack.run steps).frames.length = steps.foldl height stack.frames.length := by
  induction steps generalizing stack with
  | nil => rfl
  | cons step rest ih =>
    rw [run_cons, ih, List.foldl_cons]
    congr 1
    cases step with
    | push isEntryPoint => rfl
    | pop =>
      cases frames : stack.frames with
      | nil => rw [step_pop_of_nil frames, frames]; rfl
      | cons number others => rw [stack.step_pop frames]; rfl
    | add target part name => rw [frames_step_add]; rfl

/-- A frame that is closed stays closed, and as it is. -/
theorem closed_run (valid : stack.Valid) (made : number < stack.cells.length) (closed : number ∉ stack.frames)
    (steps : List StackStep) :
    number ∉ (stack.run steps).frames ∧ (stack.run steps).cell? number = stack.cell? number := by
  induction steps generalizing stack with
  | nil => exact ⟨closed, rfl⟩
  | cons step rest ih =>
    have stillMade : number < (stack.step step).2.cells.length := by
      rw [length_cells_step]
      exact Nat.lt_add_right _ made
    have unchanged : number ∉ (stack.step step).2.frames ∧
      (stack.step step).2.cell? number = stack.cell? number := by
      cases step with
      | push isEntryPoint =>
        exact ⟨List.not_mem_cons_of_ne_of_not_mem (Nat.ne_of_lt made) closed, cell?_step_push isEntryPoint made⟩
      | pop =>
        refine ⟨?_, stack.cell?_step_pop number⟩
        cases frames : stack.frames with
        | nil => rwa [step_pop_of_nil frames]
        | cons first others =>
          rw [frames] at closed
          rw [frames_step_pop frames]
          exact List.not_mem_of_not_mem_cons closed
      | add target part name =>
        rw [frames_step_add, cell?_step_add, if_neg fun isNumber => closed (valid.mem_of_number? isNumber)]
        exact ⟨closed, rfl⟩
    obtain ⟨stays, same⟩ := ih (valid.step step) stillMade unchanged.1
    exact ⟨stays, same.trans unchanged.2⟩

/-- So is the innermost frame after a pop. -/
theorem closed_of_pop (valid : stack.Valid) (frames : stack.frames = number :: below) (steps : List StackStep) :
    number ∉ ((stack.step .pop).2.run steps).frames ∧
      ((stack.step .pop).2.run steps).cell? number = stack.cell? number := by
  have made : number < (stack.step .pop).2.cells.length := by
    rw [cells_step_pop]
    exact valid.made number (frames ▸ List.mem_cons_self)
  have closed : number ∉ (stack.step .pop).2.frames := by
    rw [frames_step_pop frames]
    have frames : stack.frames = [] ++ number :: below := frames
    exact (valid.notMem_of_frames frames).2
  obtain ⟨stays, same⟩ := closed_run (valid.step .pop) made closed steps
  exact ⟨stays, same.trans (stack.cell?_step_pop number)⟩

/-- A frame is open after steps exactly if they keep it open. -/
theorem mem_frames_run (valid : stack.Valid) (frames : stack.frames = above ++ number :: below)
    (steps : List StackStep) : number ∈ (stack.run steps).frames ↔ KeepOpen above.length steps := by
  -- However many frames stand above: a push puts one more there and a pop takes one from there, if there is any.
  induction steps generalizing stack above with
  | nil =>
    rw [run_nil, frames]
    exact iff_of_true (List.mem_append_right _ List.mem_cons_self) (keepOpen_nil _)
  | cons step rest ih =>
    cases step with
    | push isEntryPoint =>
      rw [run_cons, keepOpen_push]
      exact ih (valid.step _) (frames_step_push isEntryPoint frames)
    | pop =>
      cases above with
      | nil => exact iff_of_false (closed_of_pop valid frames rest).1 not_keepOpen_pop
      | cons first above =>
        rw [run_cons, List.length_cons, keepOpen_pop]
        exact ih (valid.step .pop) (frames_step_pop frames)
    | add target part name =>
      rw [run_cons, keepOpen_add]
      exact ih (valid.step _) ((stack.frames_step_add target part name).trans frames)

/-- What steps do to a frame: each of its sets takes up the names that they add to it. -/
theorem cell?_run (valid : stack.Valid) (frames : stack.frames = above ++ number :: below) {frame : Frame}
    (isFrame : stack.cell? number = some frame) (steps : List StackStep) :
    ∃ after, (stack.run steps).cell? number = some after ∧ after.isEntryPoint = frame.isEntryPoint ∧
      ∀ part, after.get part =
        (namesAdded below.isEmpty part above.length steps).foldl NameSet.insert (frame.get part) := by
  induction steps generalizing stack above frame with
  | nil => exact ⟨frame, isFrame, rfl, fun _ => rfl⟩
  | cons step rest ih =>
    have made := valid.made number (frames ▸ List.mem_append_right _ List.mem_cons_self)
    cases step with
    | push isEntryPoint =>
      exact ih (valid.step _) (frames_step_push isEntryPoint frames)
        ((cell?_step_push isEntryPoint made).trans isFrame)
    | pop =>
      cases above with
      | nil => exact ⟨frame, (closed_of_pop valid frames rest).2.trans isFrame, rfl, fun _ => rfl⟩
      | cons first above =>
        exact ih (valid.step .pop) (frames_step_pop frames) ((stack.cell?_step_pop number).trans isFrame)
    | add target part name =>
      have framesAfter := (stack.frames_step_add target part name).trans frames
      have isTarget : stack.number? target = some number ↔ isAtEnd below.isEmpty above.length target = true := by
        rw [valid.number?_eq_iff frames]
        cases target <;> simp [isAtEnd, ScopeStack.AtEnd]
      have added := stack.cell?_step_add target part name number
      rw [isFrame] at added
      by_cases atEnd : stack.number? target = some number
      · rw [if_pos atEnd] at added
        obtain ⟨after, isAfter, entry, sets⟩ := ih (valid.step _) framesAfter added
        refine ⟨after, isAfter, entry.trans (frame.isEntryPoint_insert part name), fun other => ?_⟩
        rw [sets, Frame.get_insert, namesAdded]
        by_cases samePart : part = other
        · rw [if_pos samePart, if_pos ⟨samePart, isTarget.mp atEnd⟩, List.foldl_cons]
        · rw [if_neg samePart, if_neg fun both => samePart both.1]
      · rw [if_neg atEnd] at added
        obtain ⟨after, isAfter, entry, sets⟩ := ih (valid.step _) framesAfter added
        refine ⟨after, isAfter, entry, fun other => ?_⟩
        rw [sets, namesAdded, if_neg fun both => atEnd (isTarget.mpr both.2)]

end SharedStack

/-- A push in a history, with the steps before it and those behind it. -/
structure Opening where
  before : List StackStep
  isEntryPoint : Bool
  later : List StackStep

namespace Opening

open StackStep

/-- The history that the push is in. -/
def history (opening : Opening) : List StackStep := opening.before ++ .push opening.isEntryPoint :: opening.later

/-- Frames are numbered in the order in which they are opened. -/
def number (opening : Opening) : Nat := pushes opening.before

/-- Whether the frame is still open at the end of the history. -/
def IsOpen (opening : Opening) : Prop := KeepOpen 0 opening.later

instance (opening : Opening) : Decidable opening.IsOpen := inferInstanceAs (Decidable (KeepOpen 0 opening.later))

/-- Whether no frame was open when this one was opened. -/
def isOutermost (opening : Opening) : Bool := opening.before.foldl height 0 == 0

/-- The names that were added to a set of the frame while it was open, in order. -/
def names (opening : Opening) (part : Frame.Part) : List Scalar :=
  namesAdded opening.isOutermost part 0 opening.later

/-- Whether the frame is at an end of the stack: of the frames that are still open, the outermost was opened first
and the innermost last. -/
def IsAt (opening : Opening) (target : ScopeStack.End) : Prop :=
  opening.IsOpen ∧ ∀ other : Opening, other.history = opening.history → other.IsOpen →
    target.Nearer opening.number other.number

/-- The frame has exactly the names that were added to it, each once and where it was first added. -/
structure Holds (opening : Opening) (frame : Frame) : Prop where
  isEntryPoint : frame.isEntryPoint = opening.isEntryPoint
  names : ∀ part, (frame.get part).toList = Findings.firstOccurrences (opening.names part)

/-- Every frame that was made was made by a push. -/
theorem exists_of_lt {number : Nat} {steps : List StackStep} (made : number < pushes steps) :
    ∃ opening : Opening, opening.history = steps ∧ opening.number = number := by
  induction steps generalizing number with
  | nil => exact absurd made (Nat.not_lt_zero _)
  | cons step rest ih =>
    rw [pushes, List.countP_cons] at made
    have further {number : Nat} (made : number < pushes rest) :
        ∃ opening : Opening, opening.history = step :: rest ∧ opening.number = number + pushes [step] := by
      obtain ⟨opening, rfl, rfl⟩ := ih made
      exact ⟨{ opening with before := step :: opening.before },
        rfl, by simp [Opening.number, pushes, List.countP_cons]⟩
    cases step with
    | push isEntryPoint =>
      cases number with
      | zero => exact ⟨⟨[], isEntryPoint, rest⟩, rfl, rfl⟩
      | succ number => exact further (Nat.lt_of_succ_lt_succ made)
    | pop | add => exact further made

end Opening

namespace SharedStack

open StackStep

theorem valid_after (steps : List StackStep) : (after steps).Valid := valid_empty.run steps

theorem length_cells_after (steps : List StackStep) : (after steps).cells.length = pushes steps :=
  (length_cells_run {} steps).trans (Nat.zero_add _)

theorem isEmpty_frames_after (steps : List StackStep) :
    (after steps).frames.isEmpty = (steps.foldl height 0 == 0) := by
  have length : (after steps).frames.length = steps.foldl height 0 := length_frames_run {} steps
  rw [Bool.eq_iff_iff, List.isEmpty_iff, beq_iff_eq, ← length, List.length_eq_zero_iff]

/-- What is stored after a history, told by its pushes. -/
structure Records (shared : SharedStack) (steps : List StackStep) : Prop where
  /-- The numbers of the open frames are those of the pushes that are not undone. -/
  opened : ∀ number, number ∈ shared.frames ↔
    ∃ opening : Opening, opening.history = steps ∧ opening.IsOpen ∧ opening.number = number
  /-- What was opened last is closed first. -/
  lastFirst : shared.frames.Pairwise (· > ·)
  /-- The stored root is the first of the frames that are still open. -/
  root : ∀ number, shared.root = some number ↔
    ∃ opening : Opening, opening.history = steps ∧ opening.IsAt .outermost ∧ opening.number = number
  root_none : shared.root = none ↔ ∀ opening : Opening, opening.history = steps → ¬ opening.IsOpen
  top : ∀ number, shared.frames.head? = some number ↔
    ∃ opening : Opening, opening.history = steps ∧ opening.IsAt .innermost ∧ opening.number = number
  /-- Every frame, open or closed, has the names that were added to it while it was open. -/
  contents : ∀ opening : Opening, opening.history = steps →
    ∃ frame, shared.cell? opening.number = some frame ∧ opening.Holds frame

/-- The frame of a push right after it was opened. -/
theorem after_history (opening : Opening) :
    after opening.history = ((after opening.before).push { isEntryPoint := opening.isEntryPoint }).run
      opening.later :=
  run_append {} opening.before _

theorem frames_push_after (opening : Opening) :
    ((after opening.before).push { isEntryPoint := opening.isEntryPoint }).frames =
      [] ++ opening.number :: (after opening.before).frames :=
  congrArg (· :: (after opening.before).frames) (length_cells_after opening.before)

theorem mem_frames_after (opening : Opening) :
    opening.number ∈ (after opening.history).frames ↔ opening.IsOpen := by
  rw [after_history]
  exact mem_frames_run ((valid_after _).push _) (frames_push_after opening) opening.later

theorem exists_holds (opening : Opening) :
    ∃ frame, (after opening.history).cell? opening.number = some frame ∧ opening.Holds frame := by
  have isNew : ((after opening.before).push { isEntryPoint := opening.isEntryPoint }).cell? opening.number =
      some { isEntryPoint := opening.isEntryPoint } := by
    rw [Opening.number, ← length_cells_after, cell?_push_self]
  obtain ⟨frame, isFrame, entry, sets⟩ :=
    cell?_run ((valid_after _).push _) (frames_push_after opening) isNew opening.later
  refine ⟨frame, after_history opening ▸ isFrame, entry, fun part => ?_⟩
  have nothing : ({ isEntryPoint := opening.isEntryPoint } : Frame).get part = .empty := by cases part <;> rfl
  rw [sets, nothing, isEmpty_frames_after]
  exact NameSet.toList_ofList (opening.names part)

theorem mem_frames_after_iff {steps : List StackStep} (number : Nat) : number ∈ (after steps).frames ↔
    ∃ opening : Opening, opening.history = steps ∧ opening.IsOpen ∧ opening.number = number := by
  constructor
  · intro member
    have made := (valid_after steps).made number member
    rw [length_cells_after] at made
    obtain ⟨opening, rfl, rfl⟩ := Opening.exists_of_lt made
    exact ⟨opening, rfl, (mem_frames_after opening).mp member, rfl⟩
  · rintro ⟨opening, rfl, isOpen, rfl⟩
    exact (mem_frames_after opening).mpr isOpen

/-- The frame that an end of the stack refers to is the one that the history has there. -/
theorem number?_after_iff (opening : Opening) (target : ScopeStack.End) :
    (after opening.history).number? target = some opening.number ↔ opening.IsAt target := by
  rw [(valid_after opening.history).number?_eq_some_iff, mem_frames_after]
  refine and_congr_right fun _ => ⟨fun nearest other same isOpen => ?_, fun nearest number member => ?_⟩
  · exact nearest other.number ((mem_frames_after_iff _).mpr ⟨other, same, isOpen, rfl⟩)
  · obtain ⟨other, same, isOpen, rfl⟩ := (mem_frames_after_iff number).mp member
    exact nearest other same isOpen

theorem number?_after_eq_some_iff {steps : List StackStep} (target : ScopeStack.End) (number : Nat) :
    (after steps).number? target = some number ↔
      ∃ opening : Opening, opening.history = steps ∧ opening.IsAt target ∧ opening.number = number := by
  constructor
  · intro isNumber
    obtain ⟨opening, rfl, _, rfl⟩ := (mem_frames_after_iff number).mp ((valid_after steps).mem_of_number? isNumber)
    exact ⟨opening, rfl, (number?_after_iff opening target).mp isNumber, rfl⟩
  · rintro ⟨opening, rfl, isAt, rfl⟩
    exact (number?_after_iff opening target).mpr isAt

theorem frames_after_eq_nil_iff (steps : List StackStep) :
    (after steps).frames = [] ↔ ∀ opening : Opening, opening.history = steps → ¬ opening.IsOpen := by
  rw [List.eq_nil_iff_forall_not_mem]
  constructor
  · rintro none opening rfl isOpen
    exact none _ ((mem_frames_after opening).mpr isOpen)
  · intro closed number member
    obtain ⟨opening, same, isOpen, _⟩ := (mem_frames_after_iff number).mp member
    exact closed opening same isOpen

/-- After every history it is stored what the history tells. -/
theorem records_after (steps : List StackStep) : (after steps).Records steps where
  opened := mem_frames_after_iff
  lastFirst := (valid_after steps).lastFirst
  root := number?_after_eq_some_iff .outermost
  root_none := ((valid_after steps).number?_eq_none_iff .outermost).trans (frames_after_eq_nil_iff steps)
  top := number?_after_eq_some_iff .innermost
  contents := by
    rintro opening rfl
    exact exists_holds opening

end SharedStack

namespace Opening

theorem Holds.contains {opening : Opening} {frame : Frame} (holds : opening.Holds frame) (part : Frame.Part)
    (name : Scalar) : (frame.get part).contains name = (opening.names part).any (·.same name) := by
  rw [NameSet.contains, holds.names, Findings.any_same_firstOccurrences]

end Opening

namespace ScopeStack

/-- What a stack answers in the next step after a history, and what that step does to it. -/
structure Answers (stack : ScopeStack) (steps : List StackStep) : Prop where
  /-- A pop takes off the frame that was opened last of those that are open, with what was added to it. -/
  pop : ∀ opening : Opening, opening.history = steps → opening.IsAt .innermost →
    ∃ frame rest, opening.Holds frame ∧ stack.frames = frame :: rest ∧ stack.step .pop = (.popped frame, ⟨rest⟩)
  /-- A name is new if it is none of those that were added to the set. Then it is put behind them, in this set of
  this frame, and all other sets and frames are left as they are. -/
  add : ∀ (target : End) (opening : Opening), opening.history = steps → opening.IsAt target →
    ∃ frame above below, opening.Holds frame ∧ stack.frames = above ++ frame :: below ∧
      ∀ (part : Frame.Part) (name : Scalar), ∃ changed : Frame,
        let isNew := !(opening.names part).any (·.same name)
        stack.step (.add target part name) = (.added isNew, ⟨above ++ changed :: below⟩) ∧
          changed.isEntryPoint = frame.isEntryPoint ∧
          (changed.get part).toList = (frame.get part).toList ++ (if isNew then [name] else []) ∧
          ∀ other, other ≠ part → changed.get other = frame.get other
  /-- Where one frame is open it is at both ends. -/
  single : stack.size = 1 → ∀ (part : Frame.Part) (name : Scalar),
    stack.step (.add .outermost part name) = stack.step (.add .innermost part name)
  /-- Where no frame is open there is none to be closed or added to. -/
  noFrame : ∀ step : StackStep, (stack.step step).1 = .noFrame ↔
    step.isPush = false ∧ ∀ opening : Opening, opening.history = steps → ¬ opening.IsOpen

/-- The frame that a history has at an end is the one that the stack has there. -/
theorem exists_frame?_after {opening : Opening} {target : End} (isAt : opening.IsAt target) :
    ∃ frame, opening.Holds frame ∧ (after opening.history).frame? target = some frame := by
  obtain ⟨frame, isCell, holds⟩ := SharedStack.exists_holds opening
  have same := (SharedStack.StandsFor.after opening.history).frame? (SharedStack.valid_after _) target
  rw [(SharedStack.number?_after_iff opening target).mpr isAt, Option.map_some, isCell] at same
  obtain ⟨found, isFound, isFrame⟩ := Option.map_eq_some_iff.mp same
  cases isFrame
  exact ⟨frame, holds, isFound⟩

theorem frames_after_eq_nil_iff (steps : List StackStep) :
    (after steps).frames = [] ↔ ∀ opening : Opening, opening.history = steps → ¬ opening.IsOpen := by
  have stands := SharedStack.StandsFor.after steps
  rw [← SharedStack.frames_after_eq_nil_iff, ← List.map_eq_nil_iff (f := some), stands, List.map_eq_nil_iff]

/-- After every history the stack answers what the history tells. -/
theorem answers_after (steps : List StackStep) : (after steps).Answers steps where
  pop := by
    rintro opening rfl isAt
    obtain ⟨frame, holds, isTop⟩ := exists_frame?_after isAt
    obtain ⟨rest, frames⟩ := List.head?_eq_some_iff.mp isTop
    exact ⟨frame, rest, holds, frames, step_pop frames⟩
  add := by
    rintro target opening rfl isAt
    obtain ⟨frame, holds, isFrame⟩ := exists_frame?_after isAt
    obtain ⟨above, below, frames, atEnd⟩ := exists_frames isFrame
    refine ⟨frame, above, below, holds, frames, fun part name =>
      ⟨frame.insert part name, ?_, ?_, ?_, fun other ne => ?_⟩⟩
    · rw [step, isFrame, ← holds.contains, ← change_of_frames frames atEnd (·.insert part name)]
    · exact frame.isEntryPoint_insert part name
    · rw [Frame.get_insert, if_pos rfl, NameSet.toList_insert, holds.contains]
      cases (opening.names part).any (·.same name) with
      | true => exact (List.append_nil _).symm
      | false => rfl
    · rw [Frame.get_insert, if_neg ne.symm]
  single := by
    intro one part name
    obtain ⟨frame, frames⟩ := List.length_eq_one_iff.mp one
    generalize after steps = stack at frames
    obtain ⟨_⟩ := stack
    cases frames
    rfl
  noFrame step := by rw [step_noFrame_iff, frames_after_eq_nil_iff]

/-- After every history the stack is as the history tells, with a root that is looked up and with one that is
stored, and so is what it answers next. A step that fails could as well have been left out. -/
theorem follows_history (steps : List StackStep) :
    let stack := after steps
    let shared := SharedStack.after steps
    stack.frames.map some = shared.frames.map shared.cell? ∧
      stack.root?.map some = shared.root.map shared.cell? ∧
      (∀ step : StackStep, (stack.step step).1.map some = (shared.step step).1.map shared.cell?) ∧
      shared.Records steps ∧ stack.Answers steps ∧
      ∀ step : StackStep, (stack.step step).1 = .noFrame →
        stack.step step = (.noFrame, stack) ∧ shared.step step = (.noFrame, shared) ∧
          ∀ rest : List StackStep, after (steps ++ step :: rest) = after (steps ++ rest) ∧
            SharedStack.after (steps ++ step :: rest) = SharedStack.after (steps ++ rest) := by
  intro stack shared
  have stands := SharedStack.StandsFor.after steps
  have valid := SharedStack.valid_after steps
  refine ⟨stands, stands.frame? valid .outermost, fun step => (stands.step valid step).2,
    SharedStack.records_after steps, answers_after steps, fun step failed => ?_⟩
  obtain ⟨noPush, none⟩ := (stack.step_noFrame_iff step).mp failed
  have noNumbers : shared.frames = [] :=
    (SharedStack.frames_after_eq_nil_iff steps).mpr ((frames_after_eq_nil_iff steps).mp none)
  have same := step_of_nil none noPush
  have sameShared := valid.step_of_nil noNumbers noPush
  refine ⟨same, sameShared, fun rest => ⟨?_, ?_⟩⟩
  · rw [after_append, after_append, List.foldl_cons, same]
  · rw [SharedStack.after, SharedStack.after, SharedStack.run_append, SharedStack.run_append, SharedStack.run_cons]
    exact congrArg (fun answer => answer.2.run rest) sameShared

/-- A name that is added through the root while another frame is open shows in the outer frame when that one is
closed. When no frame is open any more, a pop fails and changes nothing, and the next push stores the root anew. -/
theorem follows_history_reopened :
    let outer : Opening := ⟨[], true, [.push false, .add .outermost .tags (.text "b"), .pop, .pop]⟩
    let stack := after outer.history
    let reopened := outer.history ++ [.pop, .push false]
    ¬ outer.IsOpen ∧ outer.names .tags = [.text "b"] ∧
      (∃ frame, (SharedStack.after outer.history).cell? 0 = some frame ∧ outer.Holds frame) ∧
      (stack.step .pop).1 = .noFrame ∧ after reopened = after (outer.history ++ [.push false]) ∧
      (SharedStack.after reopened).root = some 2 ∧
      ∃ opening : Opening, opening.history = reopened ∧ opening.IsAt .outermost ∧ opening.number = 2 := by
  intro outer stack reopened
  obtain ⟨_, _, _, records, _, failing⟩ := follows_history outer.history
  obtain ⟨_, _, _, recordsAgain, _⟩ := follows_history reopened
  have failed : (stack.step .pop).1 = .noFrame := rfl
  have root : (SharedStack.after reopened).root = some 2 := rfl
  refine ⟨by decide, by decide, records.contents outer rfl, failed, ?_, root, (recordsAgain.root 2).mp root⟩
  obtain ⟨_, _, leftOut⟩ := failing .pop failed
  exact (leftOut [.push false]).1

end ScopeStack

end JsxRouting
