import MarkdownDialect.Export
import MarkdownDialect.Json

/-!
Settings, which are read from JSON. Every field may be left out and has a default. A section is an
object, whose unknown members are ignored, or an array of its fields in their order.
-/

namespace MarkdownDialect

open Text

/-- The defaults of exports. -/
structure ExportSettings where
  includeStyles : Bool := true
  includeToc : Bool := false
  customCss : Option Text := none
  /-- The format when nothing else decides it. -/
  defaultFormat : ExportFormat := .html
  deriving DecidableEq, Repr

structure Settings where
  theme : Theme := .light
  rendering : RenderOptions := {}
  exporting : ExportSettings := {}
  /-- The size in bytes of the largest file that is converted. -/
  maxFileSize : Nat := 10 * 1024 * 1024
  /-- Entries of the palette, each name once. -/
  colors : List (Text × Text) := []
  deriving DecidableEq, Repr

namespace Settings

/-! ## Records -/

/-- A field of a record, with how a value is put into it. -/
structure Field (σ : Type) where
  name : Text
  put : σ → Json → Option σ

/-- Puts members into the fields that have their names. No field is given twice. -/
def putMembers {σ : Type} (fields : List (Field σ)) :
    (given : List Text) → σ → List (Option Text × Json) → Option σ
  | _, record, [] => some record
  | _, _, (none, _) :: _ => none
  | given, record, (some name, value) :: rest =>
    match fields.find? fun field => field.name = name with
    | none => putMembers fields given record rest
    | some field =>
      if given.contains name then none
      else (field.put record value).bind fun next => putMembers fields (name :: given) next rest

/-- Puts items into the fields in their order. -/
def putItems {σ : Type} : List (Field σ) → σ → List Json → Option σ
  | _, record, [] => some record
  | [], _, _ :: _ => none
  | field :: fields, record, value :: rest =>
    (field.put record value).bind fun next => putItems fields next rest

/-- Reads a record, in which what is left out keeps its default. -/
def readRecord {σ : Type} (fields : List (Field σ)) (initial : σ) : Json → Option σ
  | .object members => putMembers fields [] initial members
  | .array items => putItems fields initial items
  | _ => none

/-! ## Values -/

def readBool : Json → Option Bool
  | .bool value => some value
  | _ => none

def readOptionalText : Json → Option (Option Text)
  | .null => some none
  | .string (some content) => some (some content)
  | _ => none

def readSize : Json → Option Nat
  | .natural value => if value < bound64 then some value else none
  | _ => none

/-- Reads one of several values by its exact name. The name may also be the only member of an
object, with `null` beside it. -/
def readChoice {α : Type} (all : List α) (name : α → Text) : Json → Option α
  | .string (some given) => all.find? fun choice => name choice = given
  | .object [(some given, .null)] => all.find? fun choice => name choice = given
  | _ => none

/-- Reads the entries of a palette. The last value given for a name counts. -/
def readColors : Json → Option (List (Text × Text))
  | .object members => members.foldl (fun colors member => do
      match member with
      | (some name, .string (some value)) => return Palette.setEntry name value (← colors)
      | _ => none) (some [])
  | _ => none

/-! ## Sections -/

def interfaceFields : List (Field Settings) :=
  [{ name := "theme".toList
     put := fun settings json =>
      (readChoice Theme.all Theme.name json).map fun theme => { settings with theme } }]

def renderFields : List (Field RenderOptions) :=
  [{ name := "heading_ids".toList
     put := fun options json =>
      (readBool json).map fun headingIds => { options with headingIds } },
    { name := "links_new_tab".toList
      put := fun options json =>
        (readBool json).map fun linksInNewTab => { options with linksInNewTab } },
    { name := "toc_title".toList
      put := fun options json =>
        (readOptionalText json).map fun tocTitle => { options with tocTitle } }]

def exportFields : List (Field ExportSettings) :=
  [{ name := "include_styles".toList
     put := fun settings json =>
      (readBool json).map fun includeStyles => { settings with includeStyles } },
    { name := "include_toc".toList
      put := fun settings json =>
        (readBool json).map fun includeToc => { settings with includeToc } },
    { name := "custom_css".toList
      put := fun settings json =>
        (readOptionalText json).map fun customCss => { settings with customCss } },
    { name := "default_format".toList
      put := fun settings json =>
        (readChoice ExportFormat.all ExportFormat.extension json).map fun defaultFormat =>
          { settings with defaultFormat } }]

def fileFields : List (Field Settings) :=
  [{ name := "max_file_size".toList
     put := fun settings json =>
      (readSize json).map fun maxFileSize => { settings with maxFileSize } }]

/-- The sections in their order. -/
def sections : List (Field Settings) :=
  [{ name := "ui".toList
     put := fun settings json => readRecord interfaceFields settings json },
    { name := "render".toList
      put := fun settings json =>
        (readRecord renderFields settings.rendering json).map fun rendering =>
          { settings with rendering } },
    { name := "export".toList
      put := fun settings json =>
        (readRecord exportFields settings.exporting json).map fun exporting =>
          { settings with exporting } },
    { name := "files".toList
      put := fun settings json => readRecord fileFields settings json },
    { name := "colors".toList
      put := fun settings json =>
        (readColors json).map fun colors => { settings with colors } }]

/-! ## Checks -/

def sizeKey : Text :=
  "files.max_file_size".toList

def colorKey (name : Text) : Text :=
  "colors.".toList ++ name

/-- The first value that is none, if there is one. -/
def problem? (settings : Settings) : Option SettingsFailure :=
  if settings.maxFileSize = 0 then
    some (.invalidValue sizeKey "must be greater than zero".toList)
  else
    (settings.colors.find? fun (_, value) => (trim value).isEmpty).map fun (name, _) =>
      .invalidValue (colorKey name) "color value is empty".toList

/-- Reads and checks the settings in a text. -/
def ofJson (text : Text) : Except SettingsFailure Settings :=
  match (Json.ofText? text).bind (readRecord sections {}) with
  | none => .error (.malformed "not a configuration".toList)
  | some settings =>
    match settings.problem? with
    | some failure => .error failure
    | none => .ok settings

/-! ## Uses -/

/-- The standard palette with the configured entries. -/
def palette (settings : Settings) : Palette :=
  Palette.withOverrides settings.colors

def exportOptions (settings : Settings) (title : Option Text) : ExportOptions :=
  { includeStyles := settings.exporting.includeStyles
    title
    theme := settings.theme
    customCss := settings.exporting.customCss
    includeToc := settings.exporting.includeToc }

end Settings

end MarkdownDialect
