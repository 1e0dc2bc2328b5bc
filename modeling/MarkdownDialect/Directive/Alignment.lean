import MarkdownDialect.Text.Pattern
import MarkdownDialect.Text.Space

/-!
Aligned lines: `-> text <-` is centred and `-> text ->` is flush right.
-/

namespace MarkdownDialect

open Text

inductive Alignment where
  | center
  | right
  deriving DecidableEq, Repr

namespace Alignment

def css : Alignment → Text
  | center => "center".toList
  | right => "right".toList

/-- The arrow that ends an aligned line. -/
def closingArrow : Alignment → Text
  | center => "<-".toList
  | right => "->".toList

/-- The shortest content between the arrows, apart from blanks, and the carriage return that may end
the line. -/
def pattern (alignment : Alignment) : Pattern :=
  .sequence [
    .lineStart,
    .literal "->".toList,
    .many isBlank,
    .group 1 (.oneOrFew isInLine),
    .many isBlank,
    .literal alignment.closingArrow,
    .group 2 (.optional (.char (· = '\r'))),
    .lineEnd]

def html (alignment : Alignment) (content : Text) : Text :=
  "<div style=\"text-align: ".toList ++ alignment.css ++ ";\">".toList ++ content
    ++ "</div>".toList

def expansion (alignment : Alignment) (captures : Pattern.Captures) : Text :=
  alignment.html (captures.text 1) ++ captures.text 2

def expandAs (alignment : Alignment) (text : Text) : Text :=
  alignment.pattern.replaceAll alignment.expansion text

/-- Aligns the lines between arrows. Both kinds begin with the same arrow, and centring comes
first. -/
def expand (text : Text) : Text :=
  right.expandAs (center.expandAs text)

end Alignment

end MarkdownDialect
