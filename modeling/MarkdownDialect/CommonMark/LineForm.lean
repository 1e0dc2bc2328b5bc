import MarkdownDialect.CommonMark.Element
import MarkdownDialect.CommonMark.Margin
import MarkdownDialect.Text.Number
import MarkdownDialect.Text.Space

/-!
What a line looks like that begins or ends a block: thematic breaks, headings, fences, markers of
list items and tasks, and the delimiter row of a table.
-/

namespace MarkdownDialect.CommonMark

open Text

namespace Cursor

/-- The rest of the line, without its ending. -/
def line (cursor : Cursor) : Text :=
  cursor.rest.takeWhile fun c => !isLineEnd c

/-- The position after the line and its ending. -/
def skipLine (cursor : Cursor) : Cursor :=
  let ending := cursor.advance cursor.line.length
  ending.skipLineEnd?.getD ending

/-! ## Thematic breaks and headings -/

/-- A line of at least three equal marks with nothing but blanks between them. -/
def isRule (cursor : Cursor) : Bool :=
  match cursor.line with
  | [] => false
  | mark :: rest =>
    "*-_".toList.contains mark && rest.all (fun c => c = mark || isBlank c)
      && 2 ≤ rest.count mark

def maxHeadingLevel : Nat :=
  6

/-- The level of a heading whose number signs stand here. -/
def headingLevel? (cursor : Cursor) : Option Nat :=
  let level := cursor.count (· = '#')
  let closed := match (cursor.advance level).next? with
    | none => true
    | some c => isMarkupSpace c
  if 1 ≤ level && level ≤ maxHeadingLevel && closed then some level else none

/-- The level of a heading that this line underlines, and the position after the line. -/
def skipUnderline? (cursor : Cursor) : Option (Nat × Cursor) := do
  let mark ← cursor.next?
  let level ← if mark = '=' then some 1 else if mark = '-' then some 2 else none
  return (level, ← (cursor.skipWhile (· = mark)).skipBlankLine?)

end Cursor

/-! ## Fences -/

structure Fence where
  mark : Char
  length : Nat
  deriving DecidableEq, Repr

namespace Fence

def minLength : Nat :=
  3

/-- The fence that opens here. After backticks the line holds no other backtick. -/
def opening? (cursor : Cursor) : Option Fence := do
  let mark ← cursor.next?
  let length := cursor.count (· = mark)
  let info := (cursor.advance length).rest.takeWhile (· != '\n')
  if (mark = '\x60' || mark = '~') && minLength ≤ length && !(mark = '\x60' && info.contains mark)
  then return { mark, length }
  else none

/-- The end of the line that closes a fence. The end of the document closes every fence. -/
def closing? (fence : Fence) (cursor : Cursor) : Option Cursor :=
  if cursor.isAtEnd then
    some cursor
  else if cursor.count (· = fence.mark) < fence.length then
    none
  else
    let after := (cursor.skipWhile (· = fence.mark)).skipWhile (· = ' ')
    if after.isAtLineEnd then some after else none

end Fence

/-! ## List items -/

structure ListMarker where
  /-- The bullet, or the character after the number. -/
  delimiter : Char
  number : Nat
  /-- How many columns into the line the content of the item begins. -/
  indent : Nat
  deriving DecidableEq, Repr

namespace ListMarker

def isBullet (c : Char) : Bool :=
  c = '-' || c = '+' || c = '*'

def isNumberEnd (c : Char) : Bool :=
  c = '.' || c = ')'

/-- Lists whose delimiter is no bullet are ordered. -/
def isOrdered (delimiter : Char) : Bool :=
  isNumberEnd delimiter

def maxDigits : Nat :=
  9

/-- The delimiter and number of a marker at the front of a text, and how long it is. -/
def read? (text : Text) : Option (Char × Nat × Nat) :=
  let digits := text.takeWhile Char.isDigit
  match digits, text.dropWhile Char.isDigit with
  | [], c :: _ => if isBullet c then some (c, 0, 1) else none
  | _, c :: _ =>
    if isNumberEnd c && digits.length ≤ maxDigits then
      some (c, decimalValue digits, digits.length + 1)
    else
      none
  | _, [] => none

end ListMarker

namespace Margin

/-- Blanks of this width before a text make it indented code. -/
def codeIndent : Nat :=
  4

/-- Passes a list marker and the blanks after it, unless these are wide enough for code. -/
def skipListMarker? (margin : Margin) : Option (ListMarker × Margin) := do
  let (indent, atMarker) := margin.takeColumns codeIndent
  let (delimiter, number, length) ← ListMarker.read? atMarker.cursor.rest
  if indent = codeIndent || atMarker.cursor.isRule then
    none
  else
    let marked := { atMarker with cursor := atMarker.cursor.advance length }
    let (spaces, spaced) := marked.takeColumns 1
    if spaces = 0 && !marked.cursor.isAtLineEnd then
      none
    else
      let (extra, content) := spaced.takeColumns codeIndent
      let base := indent + length + 1
      if spaced.cursor.isBlankLine || extra = codeIndent then
        return ({ delimiter, number, indent := base }, spaced)
      else
        return ({ delimiter, number, indent := base + extra }, content)

/-- Passes a task marker, `[ ]` or `[x]` with white space after it, and tells whether it is
checked. -/
def skipTaskMarker? (margin : Margin) : Option (Bool × Margin) :=
  let atMarker := (margin.takeColumns maxMarkerIndent).2
  match atMarker.cursor.rest with
  | '[' :: mark :: ']' :: c :: _ =>
    let checked := mark = 'x' || mark = 'X'
    if (checked || isInlineSpace mark) && isInlineSpace c then
      some (checked, { atMarker with cursor := atMarker.cursor.advance 3 })
    else
      none
  | _ => none

end Margin

/-! ## Tables -/

namespace Cursor

/-- The alignment of a column whose delimiter is a row of hyphens and colons. -/
def columnAlignment (delimiter : Text) : ColumnAlignment :=
  match delimiter with
  | [] => .unset
  | first :: rest =>
    if first = ':' then
      if rest.contains ':' then .center else .left
    else if rest.contains ':' then .right
    else .unset

/-- The columns of the delimiter row that stands here, if it is one. Hyphens, colons and spaces
are all that stands between its pipes. -/
def delimiterRow? (cursor : Cursor) : Option (List ColumnAlignment) :=
  let row := cursor.line.dropWhile (· = ' ')
  if cursor.count (· = ' ') ≤ Margin.maxMarkerIndent && row.contains '-'
    && row.all (fun c => c = '-' || c = ':' || c = ' ' || c = '|')
  then
    let cells := (splitOn '|' ((['|'].isPrefixOf? row).getD row)).map (List.filter (· != ' '))
    some ((if cells.getLast? = some [] then cells.dropLast else cells).map columnAlignment)
  else
    none

end Cursor

end MarkdownDialect.CommonMark
