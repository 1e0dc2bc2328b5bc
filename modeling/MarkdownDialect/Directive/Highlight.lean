import MarkdownDialect.Text.Pattern

/-!
Highlights: `==text==` within a line.
-/

namespace MarkdownDialect.Highlight

open Text

/-- The delimiter on either side of a highlight. -/
def delimiter : Text :=
  "==".toList

def html (body : Text) : Text :=
  "<mark>".toList ++ body ++ "</mark>".toList

/-- The body is not empty, begins with no equals sign and ends at the first delimiter after its
first character. -/
def pattern : Pattern :=
  .sequence [
    .literal delimiter,
    .group 1 (.seq (.char fun c => isInLine c && c != '=') (.few isInLine)),
    .literal delimiter]

/-- Marks every `==text==`. -/
def expand (text : Text) : Text :=
  pattern.replaceAll (fun captures => html (captures.text 1)) text

end MarkdownDialect.Highlight
