import JsxRouting.Main
import JsxRouting.Proofs.CarriedPositions
import JsxRouting.Proofs.LocalNames
import JsxRouting.Session
import JsxRouting.Walk.Rules
import JsxRouting.Proofs.FunctionList
import JsxRouting.Proofs.ElementFaults
import JsxRouting.Proofs.ReachedElements
import JsxRouting.Proofs.BuiltNodes
import JsxRouting.Proofs.FailingPrograms
import JsxRouting.Proofs.RootStatements
import JsxRouting.Proofs.TreeEdits
import JsxRouting.Proofs.RoutingEdits
import JsxRouting.Proofs.UntaggedElements
import JsxRouting.Proofs.FinishedFunctions
import JsxRouting.Proofs.EqualTrees
import JsxRouting.Proofs.ElementNames
import JsxRouting.Proofs.CompleteRouting
import JsxRouting.Proofs.KeptTopScope
import JsxRouting.Proofs.InjectedKeys
import JsxRouting.Proofs.ObjectLookup
import JsxRouting.Proofs.EqualPrograms
import JsxRouting.Proofs.RestoredData
import JsxRouting.Proofs.ReloadedRuns
import JsxRouting.Proofs.StatementOrder
import JsxRouting.Proofs.RecordedRoot
import JsxRouting.Proofs.ObservedRuns
import JsxRouting.Proofs.DecimalReading
import JsxRouting.Proofs.NumberText
import JsxRouting.Proofs.JsonText
import JsxRouting.Proofs.BindingPatterns
import JsxRouting.Proofs.TextFixedPoint
import JsxRouting.Proofs.ArgumentScopes
import JsxRouting.Proofs.PropsScopes
import JsxRouting.Proofs.MovedNames
import JsxRouting.Proofs.TypedObjects
import JsxRouting.Proofs.ReorderedPrograms
import JsxRouting.Proofs.WalkDiscipline
import JsxRouting.Proofs.WalkedInPlace
import JsxRouting.Proofs.IdentifierNames
import JsxRouting.Proofs.FallbackKeys
import JsxRouting.Proofs.ImportedNames
import JsxRouting.Proofs.KeptMarks
import JsxRouting.Proofs.SharedFrames
import JsxRouting.Proofs.StackHistories
