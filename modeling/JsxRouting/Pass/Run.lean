import JsxRouting.Pass.Progress
import JsxRouting.Scope.TopScope

namespace JsxRouting

namespace Node

/-- Puts a statement in front of the body of a program. -/
def prependStatement (program : Node) (statement : Node) : Except Error Node :=
  match program.get? .body with
  | some (.list items) => .ok (program.set .body (.list (.node statement :: items)))
  | _ => .error .wrongShape

end Node

/-- A program whose elements are routed, with the notices of the pass. -/
structure Routed where
  tree : Node
  notices : List Notice

namespace Pass

/-- Puts the helper in front, if a component needs it. -/
def addHelper (progress : Progress) (tree : Node) : Except Error Routed :=
  if progress.needsHelper then do
    return ⟨← tree.prependStatement missingComponentFunction, progress.notices ++ [.addedHelper]⟩
  else .ok ⟨tree, progress.notices⟩

/-- Puts the provider in front, if declarations use it. -/
def addProvider (options : Options) (progress : Progress) (routed : Routed) :
    Except Error Routed :=
  if progress.needsProvider then do
    let binding ← providerBinding options.source options.format
    return ⟨← routed.tree.prependStatement binding,
      routed.notices ++ [.addedProvider options.source options.format]⟩
  else .ok routed

/-- Runs the pass on a tree. -/
def run (pass : Pass) (tree : Node) : Except Error Routed := do
  let (tree, progress) ← (tree.transform pass.transformer .plain).run {}
  addProvider pass.options progress (← addHelper progress tree)

end Pass

/-- Routes the elements of a program. Unless names are given, those that it declares at the top count as
known. -/
def routeProgram (options : Options) (known : Option NameSet) (tree : Node) :
    Except Error Routed := do
  let topScope ← match known with
    | some names => .ok names
    | none => tree.topScope
  Pass.run ⟨options, topScope⟩ tree

end JsxRouting
