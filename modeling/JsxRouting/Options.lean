import JsxRouting.Error

namespace JsxRouting

/-- What is written: a program with imports, or the body of a function that gets its imports as an
argument. -/
inductive OutputFormat
  | program | functionBody
  deriving DecidableEq

namespace OutputFormat

def name : OutputFormat → String
  | .program => "program"
  | .functionBody => "function-body"

def ofName? (name : String) : Option OutputFormat :=
  [OutputFormat.program, .functionBody].find? fun format => format.name == name

end OutputFormat

/-- The options of the pass. There is a provider if its module is given, which then has a name. -/
structure Options where
  format : OutputFormat := .program
  source : Option String := none
  source_ne_empty : source ≠ some "" := by decide

namespace Options

instance : Inhabited Options := ⟨{}⟩

/-- Whether components come from a provider. -/
def usesProvider (options : Options) : Bool := options.source.isSome

/-- Options from plain data. The format is looked at before the module. -/
def make (format source : Json) : Except Error Options :=
  let known := match format with
    | .scalar (.text name) => OutputFormat.ofName? name
    | _ => none
  match known with
  | none => .error (.unknownFormat format.shown)
  | some known =>
    match source with
    | .scalar .null => .ok { format := known }
    | .scalar (.text name) =>
      if empty : name = "" then .error .emptySource
      else .ok { format := known, source := some name, source_ne_empty := by simpa using empty }
    | _ => .error .sourceNotText

/-- What an entry of a mapping sets. -/
inductive Setting
  | format | source
  deriving DecidableEq

/-- Both spellings of each setting are known. -/
def Setting.ofKey? : String → Option Setting
  | "outputFormat" | "output_format" => some .format
  | "providerImportSource" | "provider_import_source" => some .source
  | _ => none

/-- Goes through the entries in order: a later one replaces an earlier one, and a format that is null
counts as not given. -/
def collect (format source : Json) : Entries Json → Except Error (Json × Json)
  | [] => .ok (format, source)
  | (key, value) :: rest =>
    match Setting.ofKey? key, value with
    | none, _ => .error (.unknownOption key)
    | some .format, .scalar .null => collect format source rest
    | some .format, value => collect value source rest
    | some .source, value => collect format value rest

/-- Options from a mapping. What does not hold stands for no options. -/
def ofMapping (mapping : Json) : Except Error Options :=
  if mapping.holds then
    match mapping with
    | .object entries => do
      let (format, source) ← collect (.text OutputFormat.program.name) .null entries
      make format source
    | _ => .error .wrongShape
  else .ok {}

end Options

end JsxRouting
