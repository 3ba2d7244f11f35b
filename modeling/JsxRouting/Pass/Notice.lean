import JsxRouting.Options
import JsxRouting.Scope.Frame
import JsxRouting.Tree.Writing

namespace JsxRouting

inductive Notice
  | trackedTag (name : Scalar)
  | trackedComponent (name : Scalar)
  | trackedObject (name : Scalar)
  /-- Declarations were put into a function, which may have no name. -/
  | injected (function : Option Value) (frame : Frame)
  | addedHelper
  | addedProvider (source : Option String) (format : OutputFormat)

namespace Notice

/-- A function as notices name it. -/
def functionText : Option Value → String
  | some name => if name.holds then name.write.shown else "<anonymous>"
  | none => "<anonymous>"

def message : Notice → String
  | .trackedTag name => "Tracking tag " ++ name.shown
  | .trackedComponent name => "Tracking component " ++ name.shown
  | .trackedObject name => "Tracking object " ++ name.shown
  | .injected function frame =>
    "Injected components into " ++ functionText function ++
      " (tags=" ++ Shown.names frame.tags.toList ++
      ", components=" ++ Shown.names frame.components.toList ++
      ", objects=" ++ Shown.names frame.objects.toList ++ ")"
  | .addedHelper => "Adding _missingComponent helper"
  | .addedProvider source format =>
    "Adding provider binding from " ++ (source.map Shown.quoted).getD "None" ++ " (" ++ format.name ++ ")"

end Notice

end JsxRouting
