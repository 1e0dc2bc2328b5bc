import MarkdownDialect.CommonMark.Cursor

/-!
The beginning of a line, where columns count: a tab reaches to the next multiple of four and may be
spent column by column. The containers that are open claim their part of the margin.
-/

namespace MarkdownDialect.CommonMark

structure Margin where
  cursor : Cursor
  /-- The offset from which tab stops are counted: the start of the line or the end of the last
  tab. -/
  origin : Nat
  /-- Columns of the last tab that are not spent yet. -/
  pending : Nat
  deriving Repr

/-- What a block that holds other blocks claims of the lines within it. -/
inductive Container where
  | quote
  /-- An item whose content begins so many columns into the line. -/
  | item (indent : Nat)
  /-- A block that claims nothing. -/
  | free
  deriving DecidableEq, Repr

namespace Margin

/-- The margin of the line that begins at a position. -/
def start (cursor : Cursor) : Margin :=
  { cursor, origin := cursor.offset, pending := 0 }

def tabWidth : Nat :=
  4

/-- Spends one column of white space. -/
def takeColumn? (margin : Margin) : Option Margin :=
  if 0 < margin.pending then
    some { margin with pending := margin.pending - 1 }
  else
    match margin.cursor.next? with
    | some ' ' => some { margin with cursor := margin.cursor.step }
    | some '\t' =>
      let width := tabWidth - (margin.cursor.offset - margin.origin) % tabWidth
      some {
        cursor := margin.cursor.step
        origin := margin.cursor.offset + 1
        pending := width - 1 }
    | _ => none

/-- Spends up to `limit` columns, and tells how many there were. -/
def takeColumns (margin : Margin) : (limit : Nat) → Nat × Margin
  | 0 => (0, margin)
  | limit + 1 =>
    match margin.takeColumn? with
    | none => (0, margin)
    | some after =>
      let (count, last) := after.takeColumns limit
      (count + 1, last)

/-- Spends all blanks. -/
def skipBlanks (margin : Margin) : Margin :=
  { margin with
    cursor := margin.cursor.skipWhile fun c => c = ' ' || c = '\t'
    pending := 0 }

/-- Passes one given character, also when columns of a tab before it are not spent. -/
def skipChar? (margin : Margin) (c : Char) : Option Margin :=
  (margin.cursor.skipChar? c).map fun cursor => { margin with cursor }

/-- The deepest indentation of a marker that begins a block. -/
def maxMarkerIndent : Nat :=
  3

/-- Passes a quote marker and one column after it. -/
def skipQuoteMarker? (margin : Margin) : Option Margin := do
  let marked ← (margin.takeColumns maxMarkerIndent).2.skipChar? '>'
  return (marked.takeColumns 1).2

/-- Passes what a container claims. An item claims no columns of a line that ends before them. -/
def skipContainer? (margin : Margin) : Container → Option Margin
  | .quote => margin.skipQuoteMarker?
  | .item indent =>
    match margin.takeColumns indent with
    | (found, after) =>
      if found = indent || after.cursor.isAtLineEnd then some after else none
  | .free => some margin

/-- Passes what the containers claim, the outermost first, up to the first one that the line does
not continue. Tells how many it continues. -/
def skipContainers (margin : Margin) : List Container → Nat × Margin
  | [] => (0, margin)
  | container :: rest =>
    match margin.skipContainer? container with
    | none => (0, margin)
    | some after =>
      let (count, last) := after.skipContainers rest
      (count + 1, last)

end Margin

/-- The position after whatever the containers claim of a line that begins here. -/
def Cursor.skipPrefix (cursor : Cursor) (containers : List Container) : Cursor :=
  ((Margin.start cursor).skipContainers containers).2.cursor

end MarkdownDialect.CommonMark
