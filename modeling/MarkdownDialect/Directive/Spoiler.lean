import MarkdownDialect.Text.Pattern

/-!
Spoilers: a line that begins with `!>`.
-/

namespace MarkdownDialect.Spoiler

open Text

def html (hidden : Text) : Text :=
  "<span class=\"spoiler\">".toList ++ hidden ++ "</span>".toList

/-- `!>` at the start of a line, and the hidden text up to the end of the line or to a carriage
return before it. -/
def pattern : Pattern :=
  .sequence [.lineStart, .literal "!>".toList, .group 1 (.oneOrMany isInLine)]

/-- Hides every line that begins with `!>`. -/
def expand (text : Text) : Text :=
  pattern.replaceAll (fun captures => html (captures.text 1)) text

end MarkdownDialect.Spoiler
