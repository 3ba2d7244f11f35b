import JsxRouting.CommandLine

open JsxRouting

/-- Reads all lines that are left. -/
partial def readAll (input : IO.FS.Stream) (sofar : String) : IO String := do
  let line ← input.getLine
  if line.isEmpty then return sofar else readAll input (sofar ++ line)

def main (arguments : List String) : IO UInt32 := do
  let input ← readAll (← IO.getStdin) ""
  match CommandLine.run arguments input with
  | .ok output =>
    output.report.forM IO.eprintln
    IO.print output.text
    return 0
  | .error failure =>
    let message := match failure.hint? with
      | some hint => hint ++ ": " ++ failure.message
      | none => failure.message
    IO.eprintln ("Error: " ++ message)
    return failure.status.toUInt32
