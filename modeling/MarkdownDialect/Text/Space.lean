import MarkdownDialect.Text.Basic

/-!
White space: the Unicode property `White_Space`, by which texts are trimmed, and the blanks within
a line, which are the space and the tab.
-/

namespace MarkdownDialect.Text

/-- The Unicode property `White_Space`. -/
def isSpace (c : Char) : Bool :=
  ('\t' ≤ c && c ≤ '\r') || c = ' ' || c = '\u0085' || c = '\u00a0' || c = '\u1680' ||
    ('\u2000' ≤ c && c ≤ '\u200a') || c = '\u2028' || c = '\u2029' || c = '\u202f' ||
    c = '\u205f' || c = '\u3000'

/-- A space or a tab. -/
def isBlank (c : Char) : Bool :=
  c = ' ' || c = '\t'

def dropEndWhile (inClass : Char → Bool) (text : Text) : Text :=
  (text.reverse.dropWhile inClass).reverse

def trimStart (text : Text) : Text :=
  text.dropWhile isSpace

def trimEnd (text : Text) : Text :=
  dropEndWhile isSpace text

/-- A text without the white space at its ends. -/
def trim (text : Text) : Text :=
  trimEnd (trimStart text)

/-- A text without the blanks at its ends. -/
def trimBlanks (text : Text) : Text :=
  dropEndWhile isBlank (text.dropWhile isBlank)

/-- The first maximal run of characters that are not white space. -/
def firstWord? (text : Text) : Option Text :=
  match trimStart text with
  | [] => none
  | rest => some (rest.takeWhile fun c => !isSpace c)

end MarkdownDialect.Text
