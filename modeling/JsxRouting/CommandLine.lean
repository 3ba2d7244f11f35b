import JsxRouting.Pass.Run
import JsxRouting.Text.Decimal
import JsxRouting.Text.Terminal
import JsxRouting.Tree.Text

namespace JsxRouting

namespace CommandLine

/-- Why a command line does nothing. -/
inductive Failure
  | noArguments
  | missingCommand
  | unknownCommand
  | unknownOption
  | missingValue
  | unexpectedValue
  | missingInput
  | extraArgument
  /-- A format that does not exist, a number that is none, or a file: only the standard streams are
  read and written. -/
  | invalidValue
  | invalidSource (error : Error)
  | invalidText
  | notAProgram (kind : Kind)
  | failed (error : Error)
  deriving DecidableEq

namespace Failure

/-- The status with which the program ends. -/
def status : Failure → Nat
  | .failed _ => 1
  | _ => 2

def message : Failure → String
  | .noArguments | .missingCommand => "Missing command"
  | .unknownCommand => "No such command"
  | .unknownOption => "No such option"
  | .missingValue => "Option requires an argument"
  | .unexpectedValue => "Option does not take a value"
  | .missingInput => "Missing argument 'INPUT'"
  | .extraArgument => "Got unexpected extra argument"
  | .invalidValue => "Invalid value"
  | .invalidSource error | .failed error => error.message
  | .invalidText => "Invalid JSON"
  | .notAProgram kind => "Expected a Program node, got " ++ kind.name

/-- The argument that a message is about. -/
def hint? : Failure → Option String
  | .invalidSource _ => some "--provider-import-source"
  | .invalidText | .notAProgram _ => some "INPUT"
  | _ => none

end Failure

inductive Command
  | route | scope
  deriving DecidableEq

def Command.ofName? : String → Option Command
  | "rewrite" => some .route
  | "scope" => some .scope
  | _ => none

/-- The options of the commands. -/
inductive Flag
  | output | format | source | indent | verbose | help
  deriving DecidableEq

namespace Flag

/-- Most options are followed by a value. -/
def takesValue : Flag → Bool
  | .verbose | .help => false
  | _ => true

def ofLongName? (command : Command) (name : String) : Option Flag :=
  match command, name with
  | _, "--help" => some .help
  | .scope, _ => none
  | .route, "--output" => some .output
  | .route, "--output-format" => some .format
  | .route, "--provider-import-source" => some .source
  | .route, "--indent" => some .indent
  | .route, "--verbose" => some .verbose
  | .route, _ => none

def ofLetter? (command : Command) (letter : Char) : Option Flag :=
  match command, letter with
  | .route, 'o' => some .output
  | .route, 'v' => some .verbose
  | _, _ => none

end Flag

/-- The flags of one argument with their values, and a flag whose value is the next argument. -/
structure Group where
  given : List (Flag × String)
  awaiting : Option Flag := none

/-- Reads letters behind a dash. The first that takes a value takes what follows it. -/
def readLetters (command : Command) : List Char → Except Failure Group
  | [] => .ok ⟨[], none⟩
  | letter :: rest =>
    match Flag.ofLetter? command letter with
    | none => .error .unknownOption
    | some flag =>
      if flag.takesValue then
        if rest.isEmpty then .ok ⟨[], some flag⟩ else .ok ⟨[(flag, String.ofList rest)], none⟩
      else do
        let group ← readLetters command rest
        return { group with given := (flag, "") :: group.given }

/-- The parts of an argument before and behind its first equals sign. -/
def splitAtEquals (argument : List Char) : List Char × Option (List Char) :=
  (argument.takeWhile (· != '='), (argument.dropWhile (· != '=')).tail?)

/-- Reads an argument that begins with a dash: a long name, perhaps with a value behind an equals
sign, or letters. -/
def readOption (command : Command) (argument : List Char) : Except Failure Group :=
  let (name, value) := splitAtEquals argument
  match Flag.ofLongName? command (String.ofList name), value with
  | some flag, some value =>
    if flag.takesValue then .ok ⟨[(flag, String.ofList value)], none⟩ else .error .unexpectedValue
  | some flag, none => if flag.takesValue then .ok ⟨[], some flag⟩ else .ok ⟨[(flag, "")], none⟩
  | none, _ =>
    match argument with
    | '-' :: '-' :: _ => .error .unknownOption
    | _ => readLetters command argument.tail

/-- Whether an argument is read as an option: a dash alone is not. -/
def isOption (argument : String) : Bool :=
  match argument.toList with
  | '-' :: _ :: _ => true
  | _ => false

/-- What the arguments of a command say. -/
structure Arguments where
  given : List (Flag × String) := []
  positional : List String := []

/-- Reads the arguments of a command. Behind two dashes there are no options. -/
def readArguments (command : Command) : List String → Except Failure Arguments
  | [] => .ok {}
  | argument :: rest =>
    if argument = "--" then .ok { positional := rest }
    else if isOption argument then do
      let group ← readOption command argument.toList
      match group.awaiting, rest with
      | none, rest =>
        let later ← readArguments command rest
        return { later with given := group.given ++ later.given }
      | some _, [] => .error .missingValue
      | some flag, value :: rest =>
        let later ← readArguments command rest
        return { later with given := group.given ++ (flag, value) :: later.given }
    else do
      let later ← readArguments command rest
      return { later with positional := argument :: later.positional }

/-- The value given last for a flag. -/
def Arguments.last? (arguments : Arguments) (flag : Flag) : Option String :=
  arguments.given.reverse.lookup flag

/-- The settings of a command, looked at one by one. -/
structure Settings where
  format : OutputFormat := .program
  source : Option String := none
  indent : Option Int := none
  verbose : Bool := false

/-- Looks at the values of the options. -/
def readSettings (arguments : Arguments) : Except Failure Settings := do
  let format ← match arguments.last? .format with
    | none => .ok OutputFormat.program
    | some name =>
      match OutputFormat.ofName? name with
      | some format => .ok format
      | none => .error .invalidValue
  let indent ← match arguments.last? .indent with
    | none => .ok none
    | some text =>
      match readInt? text with
      | some width => .ok (some width)
      | none => .error .invalidValue
  if (arguments.last? .output).getD "-" != "-" then .error .invalidValue
  return ⟨format, arguments.last? .source, indent, (arguments.last? .verbose).isSome⟩

/-- There must be one input, and only standard input can be read. -/
def checkInput (arguments : Arguments) : Except Failure Unit :=
  match arguments.positional with
  | [] => .error .missingInput
  | input :: others =>
    if input != "-" then .error .invalidValue
    else if others.isEmpty then .ok () else .error .extraArgument

/-- Reads a program from the input. -/
def readProgram (input : String) : Except Failure Node :=
  match Node.parse input with
  | .ok tree => if tree.is .program then .ok tree else .error (.notAProgram tree.kind)
  | .error .notJson | .error .tooManyDigits => .error .invalidText
  | .error error => .error (.failed error)

/-- What a command writes, and what it reports when asked to. -/
structure Output where
  text : String
  report : List String := []

/-- Lifts an error of the library. -/
def orFail {α : Type} : Except Error α → Except Failure α
  | .ok result => .ok result
  | .error error => .error (.failed error)

def runRoute (arguments : Arguments) (input : String) : Except Failure Output := do
  let settings ← readSettings arguments
  checkInput arguments
  let source := match settings.source with
    | some source => Json.text source
    | none => Json.null
  let options ← match Options.make (.text settings.format.name) source with
    | .ok options => .ok options
    | .error error => .error (.invalidSource error)
  let tree ← readProgram input
  let routed ← orFail (routeProgram options none tree)
  return ⟨(← orFail (routed.tree.printFitting settings.indent)) ++ "\n",
    if settings.verbose then routed.notices.map Notice.message else []⟩

/-- The line that shows a name. -/
def nameLine (name : Scalar) : String :=
  let shown := if name = .null then "" else name.shown
  String.ofList (withoutControls shown.toList) ++ "\n"

def runScope (arguments : Arguments) (input : String) : Except Failure Output := do
  checkInput arguments
  let names ← orFail (← readProgram input).topScopeNames
  return ⟨String.join (names.map nameLine), []⟩

/-- What is written when it is asked for. -/
def usage : Output := ⟨"Usage: rewrite [OPTIONS] INPUT\n       scope INPUT\n", []⟩

/-- What stands in front of the command: whether the usage or the version is asked for, and the
arguments from the command on. -/
structure Leading where
  asks : Bool := false
  rest : List String := []

/-- Reads options in front of the command, up to two dashes or to an argument that is none. -/
def readLeading : List String → Except Failure Leading
  | [] => .ok {}
  | argument :: rest =>
    if argument = "--" then .ok { rest := rest }
    else if isOption argument then
      match splitAtEquals argument.toList with
      | (name, value) =>
        if String.ofList name = "--help" ∨ String.ofList name = "--version" then
          if value.isSome then .error .unexpectedValue
          else do return { ← readLeading rest with asks := true }
        else .error .unknownOption
    else .ok { rest := argument :: rest }

def runCommand (command : Command) (arguments : List String) (input : String) :
    Except Failure Output := do
  let arguments ← readArguments command arguments
  if (arguments.last? .help).isSome then return usage
  match command with
  | .route => runRoute arguments input
  | .scope => runScope arguments input

/-- Runs a command line on the text of standard input. An option where two dashes promised a command
is still taken for an option. -/
def run (arguments : List String) (input : String) : Except Failure Output := do
  if arguments.isEmpty then .error .noArguments
  let leading ← readLeading arguments
  if leading.asks then return usage
  match leading.rest with
  | [] => .error .missingCommand
  | name :: rest =>
    match Command.ofName? name with
    | some command => runCommand command rest input
    | none => if (← readLeading (name :: rest)).asks then return usage else .error .unknownCommand

end CommandLine

end JsxRouting
