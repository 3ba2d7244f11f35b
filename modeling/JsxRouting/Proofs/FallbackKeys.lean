import JsxRouting.Proofs.FoundNames
import JsxRouting.Proofs.ObservedRuns
import JsxRouting.Proofs.RootStatements

namespace JsxRouting

namespace Findings

variable {known : NameSet} {elements : List Node}

/-- Tags and components have no name in common. -/
theorem apart_tags_components : Apart (ofElements known elements).tags (ofElements known elements).components := by
  intro tag isTag component isComponent
  refine Bool.eq_false_iff.mpr fun same => ?_
  obtain ⟨text, rfl, _⟩ := exists_of_mem_components component isComponent
  obtain rfl := Scalar.eq_text_of_same ((Scalar.same_comm _ _).trans same)
  exact not_mem_tags_of_mem_components isComponent isTag

/-- The names that have fallbacks: the tags, and the components but the layout. -/
def fallbackNames (findings : Findings) : List Scalar :=
  findings.tags ++ findings.components.filter (· != .text layoutComponent)

theorem pairwise_fallbackNames :
    (ofElements known elements).fallbackNames.Pairwise fun a b => a.same b = false := by
  refine List.pairwise_append.mpr ⟨pairwise_firstOccurrences _, (pairwise_firstOccurrences _).filter _, ?_⟩
  intro tag isTag component isComponent
  exact apart_tags_components tag isTag component (List.mem_filter.mp isComponent).1

end Findings

/-- Every property among these parts of a literal has a key, and no two have the same. Nothing is asked of what is
spread into the literal. -/
def DistinctKeys (parts : List Node) : Prop :=
  ∃ names : List Scalar, (parts.filter fun part => !part.is .spreadElement).map Node.key? =
    names.map (fun name => some (.scalar name)) ∧ names.Pairwise fun a b => a.same b = false

/-- The fallbacks of names that are pairwise different have different keys, whatever is spread in behind them. -/
theorem distinctKeys_of_fallbacks {tags components : List Scalar} {spreads : List Node}
    (distinct : (tags ++ components).Pairwise fun a b => a.same b = false)
    (spread : ∀ part ∈ spreads, part.is .spreadElement = true) :
    DistinctKeys (tags.map Frame.tagFallback ++ components.map Frame.componentFallback ++ spreads) := by
  have kept {fallback : Scalar → Node} (property : ∀ name, (fallback name).is .spreadElement = false)
      (names : List Scalar) : (names.map fallback).filter (fun part => !part.is .spreadElement) =
        names.map fallback := by
    refine List.filter_eq_self.mpr fun part member => ?_
    obtain ⟨name, _, rfl⟩ := List.mem_map.mp member
    rw [property, Bool.not_false]
  have dropped : spreads.filter (fun part => !part.is .spreadElement) = [] := by
    refine List.filter_eq_nil_iff.mpr fun part member => ?_
    rw [spread part member, Bool.not_true]
    exact Bool.false_ne_true
  refine ⟨_, ?_, distinct⟩
  rw [List.filter_append, List.filter_append, dropped, List.append_nil, kept (fun _ => rfl), kept (fun _ => rfl),
    List.map_append, List.map_append, List.map_map, List.map_map]
  rfl

/-- The components object of what elements are found to be has a key of its own for every fallback. -/
theorem Findings.distinctKeys_componentsLiteral (known : NameSet) (elements : List Node) (usesProvider : Bool)
    (props : Option Node) :
    DistinctKeys ((ofElements known elements).componentsLiteral usesProvider props).parts := by
  rw [parts_componentsLiteral]
  refine distinctKeys_of_fallbacks pairwise_fallbackNames fun part member => ?_
  obtain ⟨source, _, rfl⟩ := List.mem_map.mp member
  rfl

namespace Pass

/-- Every frame of open functions holds what some elements are found to be. -/
theorem exists_elements_of_mem_framesFor (pass : Pass) {opened : List OpenFunction} {frame : Frame}
    (member : frame ∈ pass.framesFor opened) :
    ∃ elements, frame.findings = Findings.ofElements pass.topScope elements := by
  induction opened with
  | nil => cases member
  | cons first rest ih =>
    cases rest with
    | nil =>
      obtain rfl := List.mem_singleton.mp member
      exact ⟨first.elements, Frame.findings_foldl_observe _ _ _⟩
    | cons next rest =>
      obtain rfl | inRest := List.mem_cons.mp member
      · exact ⟨[], rfl⟩
      · exact ih inRest

/-- While functions are open, tags and components are apart in each of their frames, and so are the keys of the
fallbacks. -/
theorem fallbacks_of_mem_framesFor (pass : Pass) {opened : List OpenFunction} {frame : Frame}
    (member : frame ∈ pass.framesFor opened) :
    Apart frame.tags.toList frame.components.toList ∧ DistinctKeys frame.fallbacks := by
  obtain ⟨elements, found⟩ := pass.exists_elements_of_mem_framesFor member
  have tags : frame.tags.toList = (Findings.ofElements pass.topScope elements).tags := congrArg Findings.tags found
  have components : frame.components.toList = (Findings.ofElements pass.topScope elements).components :=
    congrArg Findings.components found
  rw [Frame.fallbacks, tags, components]
  refine ⟨Findings.apart_tags_components, ?_⟩
  rw [← List.append_nil (_ ++ _)]
  exact distinctKeys_of_fallbacks Findings.pairwise_fallbackNames nofun

/-- What holds of the frames that functions have while they are open holds of the frames after every call. -/
theorem CallsHold.forall_frames {pass : Pass} {opened : List OpenFunction} {calls : List Call}
    (holds : pass.CallsHold opened calls) {property : Frame → Prop}
    (all : ∀ opened, ∀ frame ∈ pass.framesFor opened, property frame) :
    ∀ call ∈ calls, ∀ frame ∈ call.stack.frames, property frame := by
  intro call member frame inFrames
  obtain ⟨before, rest, rfl⟩ := List.append_of_mem member
  rw [holds.at_call.2] at inFrames
  exact all _ frame inFrames

end Pass

/-- On every way of the pass through a program, after each of its calls and also where it fails in the end, no frame
has a name that is a tag and a component, and the keys of its fallbacks are different. They are different in every
components object of the routed program. -/
theorem routeProgram_fallbacks_distinct {tree : Node} (program : tree.kind = .program) (options : Options)
    (known : Option NameSet) :
    (∀ topScope, tree.knownNames known = .ok topScope → ∃ calls,
      tree.transform (Pass.observer ⟨options, topScope⟩) .plain {} [] =
          (tree.transform (Pass.transformer ⟨options, topScope⟩) .plain {}, calls) ∧
        ∀ call ∈ calls, ∀ frame ∈ call.stack.frames,
          Apart frame.tags.toList frame.components.toList ∧ DistinctKeys frame.fallbacks) ∧
      ∀ routed, routeProgram options known tree = .ok routed →
        ∀ position literal, routed.Initialises tree position literal → DistinctKeys literal.parts := by
  refine ⟨fun topScope _ => ?_, fun routed run position literal initialises => ?_⟩
  · obtain ⟨calls, ran, holds, _⟩ := Node.observes ⟨options, topScope⟩ tree .plain [] {} rfl
    exact ⟨calls, ran [], holds.forall_frames fun opened frame => Pass.fallbacks_of_mem_framesFor _⟩
  · obtain ⟨topScope, _, outermost⟩ := routeProgram_outermost program run
    obtain ⟨_, function, props, _, rfl⟩ := eq_componentsLiteral_of_initialises outermost initialises
    exact Findings.distinctKeys_componentsLiteral topScope _ _ props

/-- For `<b />` and `<Foo />` in a function that stands in another, the frame of the outer one has both in the end,
each in its own set, and the keys `b` and `Foo` are different. -/
theorem routeProgram_fallbacks_distinct_nested :
    let inner := Node.functionNamed "G" []
      [.expressionStatement (.emptyElement (.jsxName "b")), .expressionStatement (.emptyElement (.jsxName "Foo"))]
    let page := Node.programOf [.functionNamed "F" [] [inner]]
    page.kind = .program ∧ ∃ topScope, page.knownNames none = .ok topScope ∧
      (∃ calls, page.transform (Pass.observer ⟨{}, topScope⟩) .plain {} [] =
          (page.transform (Pass.transformer ⟨{}, topScope⟩) .plain {}, calls) ∧
        ∃ call ∈ calls, (call.stack.frames.map fun frame => (frame.tags.toList, frame.components.toList)) =
            [([], []), ([.text "b"], [.text "Foo"])] ∧
          ∀ frame ∈ call.stack.frames, Apart frame.tags.toList frame.components.toList) ∧
      ∃ routed, routeProgram {} none page = .ok routed ∧
        ∃ literal, routed.Initialises page [.item .body 0] literal ∧ DistinctKeys literal.parts ∧
          literal.parts.map Node.key? = [some (.text "b"), some (.text "Foo")] := by
  intro inner page
  have program : page.kind = .program := rfl
  obtain ⟨topScope, isScope⟩ : ∃ topScope, page.knownNames none = .ok topScope := ⟨_, rfl⟩
  obtain ⟨routed, run⟩ : ∃ routed, routeProgram {} none page = .ok routed := ⟨_, rfl⟩
  obtain ⟨frames, literals⟩ := routeProgram_fallbacks_distinct program {} none
  obtain ⟨calls, ran, apart⟩ := frames topScope isScope
  refine ⟨program, topScope, isScope, ⟨calls, ran, ?_⟩, routed, run, ?_⟩
  · have made : (page.transform (Pass.observer ⟨{}, topScope⟩) .plain {} []).2 = calls := congrArg Prod.snd ran
    have noted : (calls[16]?.map fun call =>
        call.stack.frames.map fun frame => (frame.tags.toList, frame.components.toList)) =
          some [([], []), ([.text "b"], [.text "Foo"])] := by
      cases isScope
      rw [← made]
      decide +kernel
    obtain ⟨call, there, recorded⟩ := Option.map_eq_some_iff.mp noted
    have member := List.mem_of_getElem? there
    exact ⟨call, member, recorded, fun frame inFrames => (apart call member frame inFrames).1⟩
  · let findings : Findings := ⟨[.text "b"], [.text "Foo"], []⟩
    have initialises : routed.Initialises page [.item .body 0] (findings.componentsLiteral false none) := by
      cases run
      exact ⟨.plain, _, _, rfl, rfl, rfl, List.mem_cons_self⟩
    exact ⟨_, initialises, literals routed run _ _ initialises, rfl⟩

end JsxRouting
