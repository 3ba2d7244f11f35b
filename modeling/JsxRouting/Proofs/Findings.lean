import JsxRouting.Proofs.Outcomes
import Mathlib.Data.List.Basic

namespace JsxRouting

namespace Node

/-- The tag that the name of an element is. -/
def tag? (element : Node) : Option Scalar :=
  match element.nameUse with
  | .ok (.tag (.scalar name)) => some name
  | _ => none

/-- The component that the name of an element is. -/
def component? (element : Node) : Option Scalar :=
  match element.nameUse with
  | .ok (.component name) => some (.text name)
  | _ => none

/-- The object with which the dotted name of an element begins. -/
def chainRoot? (element : Node) : Option Scalar :=
  match element.nameUse with
  | .ok (.object (.scalar name)) => some name
  | _ => none

/-- Whether the node is an element that is routed when it stands in a function. -/
def isRouted (node : Node) : Bool := node.is .jsxElement && node.tag?.isSome

end Node

mutual

/-- The elements in a node, in the order of a walk. The names of those that are `replaced` are
exchanged before the walk comes to them, so it finds no element in them. -/
def Node.jsxElements (replaced : Node → Bool) (place : Place) : Node → List Node
  | .mk kind fields extra attached =>
    (if kind = .jsxElement then [.mk kind fields extra attached] else []) ++
      jsxElementsInFields replaced
        (place.inField kind fields (replaced (.mk kind fields extra attached))) fields

def jsxElementsInFields (replaced : Node → Bool) (placeOf : Field → Option Place) :
    List (Field × Value) → List Node
  | [] => []
  | (field, value) :: rest =>
    (match placeOf field with
      | some place => value.jsxElements replaced place
      | none => []) ++ jsxElementsInFields replaced placeOf rest

def Value.jsxElements (replaced : Node → Bool) (place : Place) : Value → List Node
  | .node child => child.jsxElements replaced place
  | .list items => jsxElementsInItems replaced items
  | _ => []

def jsxElementsInItems (replaced : Node → Bool) : List Value → List Node
  | [] => []
  | .node child :: rest => child.jsxElements replaced .plain ++ jsxElementsInItems replaced rest
  | _ :: rest => jsxElementsInItems replaced rest

end

/-- The names found in a function, each once and in the order in which they are first found. Names of
the top scope are no components or objects, but they can be tags. -/
structure Findings where
  tags : List Scalar
  components : List Scalar
  objects : List Scalar

namespace Findings

/-- Each name once, where it first occurs. -/
def firstOccurrences (names : List Scalar) : List Scalar := names.eraseDupsBy Scalar.same

/-- What the elements of a function are found to be. -/
def ofElements (known : NameSet) (elements : List Node) : Findings where
  tags := firstOccurrences (elements.filterMap Node.tag?)
  components := firstOccurrences ((elements.filterMap Node.component?).filter fun name => !known.contains name)
  objects := firstOccurrences ((elements.filterMap Node.chainRoot?).filter fun name => !known.contains name)

/-- What is found in a function. -/
def within (known : NameSet) (function : Node) : Findings :=
  ofElements known (function.jsxElements Node.isRouted .plain)

def isEmpty (findings : Findings) : Bool :=
  findings.tags.isEmpty && findings.components.isEmpty && findings.objects.isEmpty

end Findings

namespace Scalar

/-- Only a text counts as the same name as a text. -/
theorem eq_text_of_same {text : String} {other : Scalar} (same : (Scalar.text text).same other = true) :
    other = .text text := by
  have standard := beq_iff_eq.mp same
  cases other with
  | text other =>
    cases standard
    rfl
  | real value =>
    unfold Scalar.standard at standard
    dsimp only at standard
    split at standard <;> cases standard
  | null | bool | int => cases standard

theorem text_same_iff {text : String} {other : Scalar} :
    (Scalar.text text).same other = true ↔ other = .text text := by
  constructor
  · exact eq_text_of_same
  · rintro rfl
    exact same_self _

end Scalar

namespace NameSet

theorem insert_of_contains {names : NameSet} {name : Scalar} (there : names.contains name = true) :
    names.insert name = names := by
  simp [insert, there]

theorem toList_foldl_insert (names : NameSet) (list : List Scalar) :
    (list.foldl insert names).toList =
      names.toList ++ Findings.firstOccurrences (list.filter fun name => !names.contains name) := by
  induction list generalizing names with
  | nil => simp [Findings.firstOccurrences]
  | cons name rest ih =>
    rw [List.foldl_cons, ih]
    by_cases there : names.contains name = true
    · simp [insert_of_contains there, there]
    · have absent : names.contains name = false := Bool.of_not_eq_true there
      have others : (rest.filter fun other => !(names.insert name).contains other) =
          (rest.filter fun other => !names.contains other).filter fun other => other.same name = false := by
        rw [List.filter_filter]
        refine List.filter_congr fun other _ => ?_
        rw [contains_insert, Scalar.same_comm name other]
        cases names.contains other <;> cases other.same name <;> rfl
      rw [others, toList_insert, if_neg there, List.append_assoc, List.filter_cons, if_pos (by simp [absent])]
      simp only [Findings.firstOccurrences, List.eraseDupsBy_cons, List.singleton_append]

theorem toList_ofList (list : List Scalar) : (ofList list).toList = Findings.firstOccurrences list := by
  have nothing : (list.filter fun name => !empty.contains name) = list := by simp [contains]
  have built := toList_foldl_insert empty list
  rwa [nothing, toList_empty, List.nil_append] at built

theorem contains_congr (names : NameSet) {name other : Scalar} (same : name.same other = true) :
    names.contains name = names.contains other := by
  refine List.any_congr rfl fun a => ?_
  have alike : name.standard = other.standard := by simpa [Scalar.same] using same
  simp only [Scalar.same, alike]

theorem contains_foldl_insert (names : NameSet) (list : List Scalar) (name : Scalar) :
    (list.foldl insert names).contains name = (names.contains name || list.any (·.same name)) := by
  induction list generalizing names with
  | nil => simp
  | cons first rest ih => rw [List.foldl_cons, ih, contains_insert, List.any_cons, Bool.or_assoc]

theorem contains_ofList (list : List Scalar) (name : Scalar) :
    (ofList list).contains name = list.any (·.same name) :=
  (contains_foldl_insert .empty list name).trans (by simp [contains])

end NameSet

namespace Findings

theorem pairwise_firstOccurrences (names : List Scalar) :
    (firstOccurrences names).Pairwise fun a b => a.same b = false := by
  rw [← NameSet.toList_ofList]
  exact (NameSet.ofList names).distinct

theorem any_same_firstOccurrences (names : List Scalar) (name : Scalar) :
    (firstOccurrences names).any (·.same name) = names.any (·.same name) := by
  rw [← NameSet.toList_ofList]
  exact NameSet.contains_ofList names name

theorem firstOccurrences_eq_nil {names : List Scalar} : firstOccurrences names = [] ↔ names = [] := by
  cases names with
  | nil => simp [firstOccurrences]
  | cons first rest => simp [firstOccurrences, List.eraseDupsBy_cons]

/-- Where nothing is found, no element is a tag. -/
theorem tag?_of_isEmpty {known : NameSet} {elements : List Node} {element : Node}
    (nothing : (ofElements known elements).isEmpty = true) (member : element ∈ elements) :
    element.tag? = none := by
  have noTags : elements.filterMap Node.tag? = [] := by
    simp only [isEmpty, ofElements, Bool.and_eq_true, List.isEmpty_iff] at nothing
    exact firstOccurrences_eq_nil.mp nothing.1.1
  exact List.filterMap_eq_nil_iff.mp noTags element member

end Findings

namespace Frame

/-- Records what the name of an element is found to be. -/
def observe (known : NameSet) (frame : Frame) (element : Node) : Frame :=
  match element.nameUse with
  | .ok (.object (.scalar name)) => if known.contains name then frame else frame.insert .objects name
  | .ok (.component name) =>
    if known.contains (.text name) then frame else frame.insert .components (.text name)
  | .ok (.tag (.scalar name)) => frame.insert .tags name
  | _ => frame

theorem isEntryPoint_observe (known : NameSet) (frame : Frame) (element : Node) :
    (frame.observe known element).isEntryPoint = frame.isEntryPoint := by
  unfold observe
  split <;> (try split) <;> rfl

theorem tags_observe (known : NameSet) (frame : Frame) (element : Node) :
    (frame.observe known element).tags = element.tag?.toList.foldl NameSet.insert frame.tags := by
  unfold observe Node.tag?
  split <;> (try split) <;> simp_all [insert]

theorem components_observe (known : NameSet) (frame : Frame) (element : Node) :
    (frame.observe known element).components =
      (element.component?.toList.filter fun name => !known.contains name).foldl NameSet.insert
        frame.components := by
  unfold observe Node.component?
  split <;> (try split) <;> simp_all [insert]

theorem objects_observe (known : NameSet) (frame : Frame) (element : Node) :
    (frame.observe known element).objects =
      (element.chainRoot?.toList.filter fun name => !known.contains name).foldl NameSet.insert
        frame.objects := by
  unfold observe Node.chainRoot?
  split <;> (try split) <;> simp_all [insert]

/-- What elements add to a part of a frame is the names that each of them adds, in order. -/
theorem foldl_observe (known : NameSet) (part : Frame → NameSet) (names : Node → List Scalar)
    (step : ∀ frame element, part (observe known frame element) = (names element).foldl NameSet.insert (part frame))
    (frame : Frame) (elements : List Node) :
    part (elements.foldl (observe known) frame) = (elements.flatMap names).foldl NameSet.insert (part frame) := by
  induction elements generalizing frame with
  | nil => rfl
  | cons element rest ih => rw [List.foldl_cons, ih, step, List.flatMap_cons, List.foldl_append]

theorem isEntryPoint_foldl_observe (known : NameSet) (frame : Frame) (elements : List Node) :
    (elements.foldl (observe known) frame).isEntryPoint = frame.isEntryPoint := by
  induction elements generalizing frame with
  | nil => rfl
  | cons element rest ih => rw [List.foldl_cons, ih, isEntryPoint_observe]

/-- The names in a frame. -/
def findings (frame : Frame) : Findings := ⟨frame.tags.toList, frame.components.toList, frame.objects.toList⟩

theorem isEmpty_findings (frame : Frame) : frame.findings.isEmpty = frame.isEmpty := by
  unfold Findings.isEmpty isEmpty findings NameSet.isEmpty
  cases frame.tags.toList.isEmpty <;> cases frame.components.toList.isEmpty <;>
    cases frame.objects.toList.isEmpty <;> rfl

/-- A frame that observes elements from the beginning holds what they are found to be. -/
theorem findings_foldl_observe (known : NameSet) (isEntryPoint : Bool) (elements : List Node) :
    (elements.foldl (observe known) { isEntryPoint := isEntryPoint }).findings =
      Findings.ofElements known elements := by
  have tags := foldl_observe known Frame.tags _ (tags_observe known) { isEntryPoint := isEntryPoint } elements
  have components := foldl_observe known Frame.components _ (components_observe known)
    { isEntryPoint := isEntryPoint } elements
  have objects := foldl_observe known Frame.objects _ (objects_observe known)
    { isEntryPoint := isEntryPoint } elements
  unfold findings Findings.ofElements
  rw [tags, components, objects, ← List.filter_flatMap, ← List.filter_flatMap]
  simp only [← List.filterMap_eq_flatMap_toList]
  simp only [← NameSet.toList_ofList]
  rfl

end Frame

end JsxRouting
