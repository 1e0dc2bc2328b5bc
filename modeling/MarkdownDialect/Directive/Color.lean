import MarkdownDialect.Palette
import MarkdownDialect.Text.Number
import MarkdownDialect.Text.Pattern

/-!
Colours as directives name them, and coloured text: `%colour% text %%`.
-/

namespace MarkdownDialect

open Text

/-- A colour as a directive writes it. -/
inductive Color where
  /-- A palette name or any other CSS colour. -/
  | named (name : Text)
  /-- A literal `#RRGGBB`. -/
  | hex (literal : Text)
  deriving DecidableEq, Repr

namespace Color

def isHexLiteral : Text → Bool
  | '#' :: digits => digits.length = 6 && digits.all isHexDigit
  | _ => false

/-- Whatever is not a hexadecimal literal is a name. -/
def ofText (raw : Text) : Color :=
  if isHexLiteral (trim raw) then hex (trim raw) else named (trim raw)

def css (palette : Palette) : Color → Text
  | hex literal => literal
  | named name => palette.resolve name

end Color

namespace ColoredText

/-- The colour slot, between percent signs: a word of ASCII letters or a hexadecimal literal. -/
def slotPattern : Pattern :=
  .sequence [
    .literal "%".toList,
    .group 1 (.either (.oneOrMany isAsciiLetter)
      (.seq (.literal "#".toList) (.exactly 6 isHexDigit))),
    .literal "%".toList]

/-- The slot and the shortest text after which the directive closes. -/
def pattern : Pattern :=
  .sequence [
    slotPattern,
    .many isBlank,
    .group 2 (.oneOrFew isInLine),
    .many isBlank,
    .literal "%%".toList]

def html (color text : Text) : Text :=
  "<span style=\"color: ".toList ++ color ++ "\">".toList ++ text ++ "</span>".toList

def expansion (palette : Palette) (captures : Pattern.Captures) : Text :=
  html ((Color.ofText (captures.text 1)).css palette) (trim (captures.text 2))

/-- Colours every `%colour% text %%`. -/
def expand (palette : Palette) (text : Text) : Text :=
  pattern.replaceAll (expansion palette) text

end ColoredText

end MarkdownDialect
