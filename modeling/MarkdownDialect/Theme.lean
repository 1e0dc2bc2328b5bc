import MarkdownDialect.Text.LetterCase

/-!
The themes of exported documents.
-/

namespace MarkdownDialect

open Text

inductive Theme where
  | light
  | dark
  deriving DecidableEq, Repr

namespace Theme

def all : List Theme :=
  [light, dark]

def name : Theme → Text
  | light => "light".toList
  | dark => "dark".toList

/-- Reads a name in any letter case. -/
def ofText? (raw : Text) : Option Theme :=
  all.find? fun theme => theme.name = toLower raw

end Theme

end MarkdownDialect
