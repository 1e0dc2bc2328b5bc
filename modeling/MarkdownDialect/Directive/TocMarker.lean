import MarkdownDialect.Text.DecimalDigit
import MarkdownDialect.Text.Number
import MarkdownDialect.Text.Pattern

/-!
Markers for a table of contents: a line `[TOC]` or `[TOC2]` becomes an empty element that the
renderer later fills.
-/

namespace MarkdownDialect.TocMarker

open Text

/-- A level brought into the range of heading levels. -/
def clampLevel (level : Nat) : Nat :=
  max 1 (min level 6)

/-- The first heading level that a marker lists. A missing digit, or one that is not an ASCII
digit, counts as one. -/
def levelOf (digit : Option Text) : Nat :=
  clampLevel ((digit.bind (readSignedDecimal 256)).getD 1)

def placeholderOpening : Text :=
  "<div class=\"toc\" data-start-level=\"".toList

def placeholderClosing : Text :=
  "\"></div>".toList

/-- The empty element that stands for a table of contents. -/
def placeholder (level : Nat) : Text :=
  placeholderOpening ++ ofNat level ++ placeholderClosing

/-- A marker with its digit, if it has one, and the carriage return that may end the line. -/
def pattern : Pattern :=
  .sequence [
    .lineStart,
    .literal "[TOC".toList,
    .group 1 (.optional (.char isDecimalDigit)),
    .literal "]".toList,
    .group 2 (.optional (.char (· = '\r'))),
    .lineEnd]

def expansion (captures : Pattern.Captures) : Text :=
  let digit := captures.text 1
  placeholder (levelOf (if digit.isEmpty then none else some digit)) ++ captures.text 2

/-- Replaces every marker by its placeholder. -/
def expand (text : Text) : Text :=
  pattern.replaceAll expansion text

/-- A placeholder at the front of a text: its level, from one to six, and what follows. -/
def readPlaceholder? (text : Text) : Option (Nat × Text) := do
  match ← placeholderOpening.isPrefixOf? text with
  | digit :: rest =>
    if '1' ≤ digit && digit ≤ '6' then
      return (digitValue digit, ← placeholderClosing.isPrefixOf? rest)
    else
      none
  | [] => none

/-- The levels of the placeholders in a text, in their order. -/
def levels (html : Text) : List Nat :=
  findMatches readPlaceholder? html

/-- Fills every placeholder with the text for its level. -/
def fill (content : Nat → Text) (html : Text) : Text :=
  replaceMatches (fun rest => (readPlaceholder? rest).map fun (level, after) =>
    (content level, after)) html

end MarkdownDialect.TocMarker
