import MarkdownDialect.CommandLine.Request
import MarkdownDialect.Export
import MarkdownDialect.Settings.Loading

/-!
Running a command line: what it converts, what it prints, and what it writes.
-/

namespace MarkdownDialect.CommandLine

open Text

def programName : Text :=
  "awsm-md".toList

def version : Text :=
  "0.1.0".toList

/-! ## Messages -/

def command (arguments : String) : Text :=
  "    ".toList ++ programName ++ arguments.toList

def helpText : Text :=
  unlines [
    programName ++ " - Extended Markdown to HTML converter".toList,
    [],
    "USAGE:".toList,
    command " [OPTIONS] <INPUT>",
    [],
    "ARGS:".toList,
    "    <INPUT>             Markdown file to convert (\x27-\x27 reads standard input)".toList,
    [],
    "OPTIONS:".toList,
    "    -h, --help          Show this help message".toList,
    "    -v, --version       Show version information".toList,
    "    -o, --output PATH   Write the result to PATH instead of standard output".toList,
    "    -f, --format FMT    Output format: html or md".toList,
    "    -t, --theme THEME   Stylesheet theme: light or dark".toList,
    "    -c, --config PATH   Use this configuration file".toList,
    "        --preprocess    Print the preprocessed Markdown".toList,
    "        --toc           Print the table of contents of the input".toList,
    "        --no-styles     Do not embed the stylesheet in HTML output".toList,
    [],
    "EXAMPLES:".toList,
    command " notes.md                    Print notes.md as HTML",
    command " notes.md -o notes.html      Write a standalone HTML file",
    command " -t dark notes.md -o out.html",
    command " --preprocess notes.md       Show the expanded Markdown",
    []]

def versionText : Text :=
  programName ++ ' ' :: version

/-- What a run leaves behind beside the files it writes. -/
structure Outcome where
  code : Nat
  output : Text := []
  errors : Text := []
  deriving DecidableEq, Repr

namespace Outcome

/-- A run that ended well and printed a text. -/
def printed (text : Text) : Outcome :=
  { code := 0, output := text ++ ['\n'] }

/-- A run that ended well and printed nothing. -/
def silent : Outcome :=
  { code := 0 }

/-- A command line that asks for nothing that can be done. -/
def misused (failure : UsageFailure) : Outcome :=
  { code := 2
    errors := "Error: ".toList ++ failure.message ++ "\nUse --help for usage information\n".toList }

end Outcome

/-- A failure, and what was being done. -/
structure RunFailure where
  context : Option Text := none
  failure : Failure
  deriving DecidableEq, Repr

namespace RunFailure

/-- The failure with its context and its cause. -/
def message (failure : RunFailure) : Text :=
  let parts := failure.context.toList ++ [failure.failure.message]
    ++ (failure.failure.cause?.map SystemError.words).toList
  joinWith ": ".toList parts

def outcome (failure : RunFailure) : Outcome :=
  { code := 1
    errors := "Error: ".toList ++ failure.message ++ '\n' :: failure.failure.advice ++ ['\n'] }

end RunFailure

/-! ## Conversions -/

/-- What a run takes from its surroundings beside files. -/
structure Surroundings (m : Type → Type) where
  /-- The usual place of the settings. -/
  settingsPlace : Option Path
  /-- Reads standard input, as far as its first bytes are asked for. -/
  standardInput : (count : Nat) → m ByteStream
  /-- The stamp of temporary files. -/
  stamp : Nat

namespace Conversion

/-- The settings with what the command line says otherwise. -/
def adjust (conversion : Conversion) (settings : Settings) : Settings :=
  { settings with
    theme := conversion.theme.getD settings.theme
    exporting :=
      { settings.exporting with
        includeStyles := settings.exporting.includeStyles && !conversion.withoutStyles } }

def readsStandardInput (conversion : Conversion) : Bool :=
  conversion.input = standardInput

/-- The title of the document. -/
def title? (conversion : Conversion) : Option Text :=
  if conversion.readsStandardInput then none else conversion.input.stem?

/-- The format by its name, else by the extension of the output, else by the settings. -/
def format (conversion : Conversion) (settings : Settings) :
    Except ExportFailure ExportFormat :=
  match conversion.formatName, conversion.output with
  | some name, _ => ExportFormat.ofName name
  | none, some path =>
    if path.extension?.isSome then ExportFormat.ofPath path
    else .ok settings.exporting.defaultFormat
  | none, none => .ok settings.exporting.defaultFormat

/-- The export of a source as the settings say. -/
def exported (conversion : Conversion) (settings : Settings) (format : ExportFormat)
    (source : Text) : Text :=
  exportSource settings.palette settings.rendering (settings.exportOptions conversion.title?)
    format source

/-- What the conversion makes of a source. -/
def result (conversion : Conversion) (settings : Settings) (source : Text) :
    Except RunFailure Text :=
  match conversion.product with
  | .toc => .ok (tableOfContents settings.rendering source 1)
  | .expanded => .ok (conversion.exported settings .markdown source)
  | .document =>
    match conversion.format settings with
    | .error failure => .error { failure := .exporting failure }
    | .ok format => .ok (conversion.exported settings format source)

section

variable {m : Type → Type} [Monad m] [FileAccess m]

def loadSettings (conversion : Conversion) (surroundings : Surroundings m) :
    m (Except RunFailure Settings) := do
  let loaded ← match conversion.settings with
    | some path => Settings.load path
    | none => Settings.loadUsual surroundings.settingsPlace
  match loaded with
  | .error failure =>
    return .error
      { context := some "Failed to load configuration".toList, failure := .settings failure }
  | .ok settings => return .ok (conversion.adjust settings)

/-- Reads the source of a conversion. -/
def readSource (conversion : Conversion) (surroundings : Surroundings m) (limit : Nat) :
    m (Except RunFailure Text) := do
  let input := conversion.input
  if conversion.readsStandardInput then
    match readStream (← surroundings.standardInput (probeLength limit)) input limit with
    | .error failure =>
      return .error
        { context := some "Failed to read standard input".toList, failure := .file failure }
    | .ok document => return .ok document.content
  else
    match ← readDocument input limit with
    | .error failure =>
      return .error
        { context := some ("Failed to read ".toList ++ input), failure := .file failure }
    | .ok document => return .ok document.content

/-- Puts the result of a conversion where it belongs. -/
def deliver (conversion : Conversion) (surroundings : Surroundings m) (result : Text) :
    m (Except RunFailure Outcome) := do
  match conversion.output with
  | none => return .ok (.printed result)
  | some path =>
    match ← writeAtomically surroundings.stamp path result with
    | .error failure =>
      return .error
        { context := some ("Failed to write ".toList ++ path), failure := .file failure }
    | .ok () => return .ok .silent

def run (conversion : Conversion) (surroundings : Surroundings m) :
    m (Except RunFailure Outcome) := do
  match ← conversion.loadSettings surroundings with
  | .error failure => return .error failure
  | .ok settings =>
    match ← conversion.readSource surroundings settings.maxFileSize with
    | .error failure => return .error failure
    | .ok source =>
      match conversion.result settings source with
      | .error failure => return .error failure
      | .ok result => conversion.deliver surroundings result

end

end Conversion

/-- Runs a command line. -/
def run {m : Type → Type} [Monad m] [FileAccess m] (surroundings : Surroundings m)
    (arguments : List Text) : m Outcome := do
  match Request.ofArguments arguments with
  | .error failure => return .misused failure
  | .ok .help => return .printed helpText
  | .ok .version => return .printed versionText
  | .ok (.convert conversion) =>
    match ← conversion.run surroundings with
    | .error failure => return failure.outcome
    | .ok outcome => return outcome

end MarkdownDialect.CommandLine
