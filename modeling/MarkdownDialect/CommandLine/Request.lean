import MarkdownDialect.Path
import MarkdownDialect.Theme

/-!
What a command line asks for. Options and the input may stand in any order; of options with values,
the last one counts. Asking for help or for the version ends the reading at once.
-/

namespace MarkdownDialect.CommandLine

open Text

/-- What a conversion gives. -/
inductive Product where
  /-- The document in its format. -/
  | document
  /-- The source with its directives expanded. -/
  | expanded
  /-- The table of contents. -/
  | toc
  deriving DecidableEq, Repr

structure Conversion where
  input : Path
  output : Option Path := none
  formatName : Option Text := none
  theme : Option Theme := none
  /-- The file of the settings. -/
  settings : Option Path := none
  product : Product := .document
  withoutStyles : Bool := false
  deriving DecidableEq, Repr

inductive Request where
  | help
  | version
  | convert (conversion : Conversion)
  deriving DecidableEq, Repr

inductive UsageFailure where
  | missingValue (option : Text)
  | unknownTheme (name : Text)
  | unknownOption (option : Text)
  | extraInput (path : Path)
  | conflictingProducts
  | missingInput
  deriving DecidableEq, Repr

namespace UsageFailure

def message : UsageFailure → Text
  | missingValue option => option ++ " requires an argument".toList
  | unknownTheme name =>
    "Unknown theme \x27".toList ++ name ++ "\x27 (expected light or dark)".toList
  | unknownOption option => "Unknown option: ".toList ++ option
  | extraInput path => "Only one input file may be given (extra: ".toList ++ path ++ [')']
  | conflictingProducts => "--preprocess and --toc cannot be combined".toList
  | missingInput => "Missing input file".toList

end UsageFailure

/-! ## Arguments -/

/-- The options that are followed by a value. -/
inductive ValueOption where
  | output
  | format
  | theme
  | settings
  deriving DecidableEq, Repr

namespace ValueOption

def all : List ValueOption :=
  [output, format, theme, settings]

def names : ValueOption → List Text
  | output => ["-o".toList, "--output".toList]
  | format => ["-f".toList, "--format".toList]
  | theme => ["-t".toList, "--theme".toList]
  | settings => ["-c".toList, "--config".toList]

end ValueOption

/-- The options that stand alone. -/
inductive Switch where
  | expanded
  | toc
  | withoutStyles
  deriving DecidableEq, Repr

namespace Switch

def all : List Switch :=
  [expanded, toc, withoutStyles]

def name : Switch → Text
  | expanded => "--preprocess".toList
  | toc => "--toc".toList
  | withoutStyles => "--no-styles".toList

end Switch

def helpNames : List Text :=
  ["-h".toList, "--help".toList]

def versionNames : List Text :=
  ["-v".toList, "--version".toList]

/-- The name of standard input. -/
def standardInput : Path :=
  ['-']

/-- What an argument is, when it is not the value of an option. -/
inductive Argument where
  | help
  | version
  | valueOption (option : ValueOption)
  | switch (switch : Switch)
  | unknownOption
  | input
  deriving DecidableEq, Repr

def Argument.ofText (word : Text) : Argument :=
  if helpNames.contains word then .help
  else if versionNames.contains word then .version
  else
    match ValueOption.all.find? fun option => option.names.contains word with
    | some found => .valueOption found
    | none =>
      match Switch.all.find? fun switch => switch.name = word with
      | some found => .switch found
      | none => if ['-'].isPrefixOf word && word != standardInput then .unknownOption else .input

/-! ## Reading -/

/-- What is known of a conversion before all arguments are read. -/
structure Draft where
  input : Option Path := none
  output : Option Path := none
  formatName : Option Text := none
  theme : Option Theme := none
  settings : Option Path := none
  expanded : Bool := false
  toc : Bool := false
  withoutStyles : Bool := false
  deriving DecidableEq, Repr

namespace Draft

def set (draft : Draft) (option : ValueOption) (value : Text) : Except UsageFailure Draft :=
  match option with
  | .output => .ok { draft with output := some value }
  | .format => .ok { draft with formatName := some value }
  | .settings => .ok { draft with settings := some value }
  | .theme =>
    match Theme.ofText? value with
    | some theme => .ok { draft with theme := some theme }
    | none => .error (.unknownTheme value)

def turnOn (draft : Draft) : Switch → Draft
  | .expanded => { draft with expanded := true }
  | .toc => { draft with toc := true }
  | .withoutStyles => { draft with withoutStyles := true }

def addInput (draft : Draft) (path : Path) : Except UsageFailure Draft :=
  match draft.input with
  | none => .ok { draft with input := some path }
  | some _ => .error (.extraInput path)

/-- What a conversion with these switches gives; not both of them can be on. -/
def product? (draft : Draft) : Option Product :=
  match draft.expanded, draft.toc with
  | false, false => some .document
  | true, false => some .expanded
  | false, true => some .toc
  | true, true => none

/-- The request when no argument is left. -/
def request (draft : Draft) : Except UsageFailure Request :=
  match draft.product? with
  | none => .error .conflictingProducts
  | some product =>
    match draft.input with
    | none => .error .missingInput
    | some input =>
      .ok <| .convert
        { input
          output := draft.output
          formatName := draft.formatName
          theme := draft.theme
          settings := draft.settings
          product
          withoutStyles := draft.withoutStyles }

/-- Reads the remaining arguments. -/
def read : Draft → List Text → Except UsageFailure Request
  | draft, [] => draft.request
  | draft, word :: rest =>
    match Argument.ofText word with
    | .help => .ok .help
    | .version => .ok .version
    | .unknownOption => .error (.unknownOption word)
    | .switch switch => (draft.turnOn switch).read rest
    | .input =>
      match draft.addInput word with
      | .error failure => .error failure
      | .ok next => next.read rest
    | .valueOption option =>
      match rest with
      | [] => .error (.missingValue word)
      | value :: rest =>
        match draft.set option value with
        | .error failure => .error failure
        | .ok next => next.read rest

end Draft

/-- Reads the arguments of a command line. -/
def Request.ofArguments (arguments : List Text) : Except UsageFailure Request :=
  Draft.read {} arguments

end MarkdownDialect.CommandLine
