import MarkdownDialect.Failure
import MarkdownDialect.Text.LetterCase

/-!
The formats of exports, by name and by the extensions of paths.
-/

namespace MarkdownDialect

open Text

inductive ExportFormat where
  /-- Markdown with its directives expanded. -/
  | markdown
  /-- An HTML document of its own. -/
  | html
  deriving DecidableEq, Repr

namespace ExportFormat

def all : List ExportFormat :=
  [markdown, html]

def extension : ExportFormat → Text
  | markdown => "md".toList
  | html => "html".toList

def displayName : ExportFormat → Text
  | markdown => "Markdown".toList
  | html => "HTML".toList

/-- The names of a format, which are also the extensions of its files. -/
def names : ExportFormat → List Text
  | markdown => ["md".toList, "markdown".toList]
  | html => ["html".toList, "htm".toList]

/-- The format of a name in any letter case. -/
def ofName (name : Text) : Except ExportFailure ExportFormat :=
  match all.find? fun format => format.names.contains (toLower name) with
  | some format => .ok format
  | none => .error (.unsupportedFormat (toLower name))

/-- The format of a path by its extension. -/
def ofPath (path : Path) : Except ExportFailure ExportFormat :=
  match path.extension? with
  | some extension => ofName extension
  | none => .error (.invalidPath path)

/-- The file name of an export whose source has a stem. Markdown does not take the place of its
source. -/
def fileName (format : ExportFormat) (stem : Text) : Text :=
  match format with
  | markdown => stem ++ ".out.".toList ++ extension markdown
  | html => stem ++ '.' :: extension html

/-- The stem of sources that have none. -/
def defaultStem : Text :=
  "document".toList

/-- Where an export of a source is put. -/
def suggestedPath (source : Path) (format : ExportFormat) : Path :=
  Path.join (source.parent?.getD []) (format.fileName (source.stem?.getD defaultStem))

end ExportFormat

end MarkdownDialect
