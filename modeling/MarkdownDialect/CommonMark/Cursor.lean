import MarkdownDialect.Text.Basic

/-!
Positions in a document. A position knows the character before it, how many characters stand
before it, and the rest of the document.
-/

namespace MarkdownDialect.CommonMark

structure Cursor where
  before : Option Char
  offset : Nat
  rest : Text
  deriving Repr

/-! ## Classes of characters -/

/-- The white space of CommonMark's blocks: tab, line feed, vertical tab, form feed, carriage
return and space. -/
def isMarkupSpace (c : Char) : Bool :=
  ('\t' ≤ c && c ≤ '\r') || c = ' '

def isLineEnd (c : Char) : Bool :=
  c = '\n' || c = '\r'

/-- White space that ends no line. -/
def isInlineSpace (c : Char) : Bool :=
  isMarkupSpace c && !isLineEnd c

namespace Cursor

def ofText (text : Text) : Cursor :=
  { before := none, offset := 0, rest := text }

def isAtEnd (cursor : Cursor) : Bool :=
  cursor.rest.isEmpty

def next? (cursor : Cursor) : Option Char :=
  cursor.rest.head?

def startsWith (cursor : Cursor) (text : Text) : Bool :=
  text.isPrefixOf cursor.rest

/-- The position one character further. The end of the document is never passed. -/
def step (cursor : Cursor) : Cursor :=
  match cursor.rest with
  | [] => cursor
  | c :: rest => { before := some c, offset := cursor.offset + 1, rest }

def advance (cursor : Cursor) : Nat → Cursor
  | 0 => cursor
  | count + 1 => cursor.step.advance count

/-- The position at an offset, which is not behind this one. -/
def seek (cursor : Cursor) (offset : Nat) : Cursor :=
  cursor.advance (offset - cursor.offset)

/-- How many characters of a class follow. -/
def count (cursor : Cursor) (inClass : Char → Bool) : Nat :=
  (cursor.rest.takeWhile inClass).length

def skipWhile (cursor : Cursor) (inClass : Char → Bool) : Cursor :=
  cursor.advance (cursor.count inClass)

/-- The text between a position and an offset. -/
def sliceTo (cursor : Cursor) (stop : Nat) : Text :=
  cursor.rest.take (stop - cursor.offset)

/-- The position after one given character. -/
def skipChar? (cursor : Cursor) (c : Char) : Option Cursor :=
  if cursor.next? = some c then some cursor.step else none

def skipOptional (cursor : Cursor) (c : Char) : Cursor :=
  (cursor.skipChar? c).getD cursor

/-- The length of the line ending at the front of a text. The end of the document ends a line
too. -/
def lineEndLength? : Text → Option Nat
  | [] => some 0
  | '\n' :: _ => some 1
  | '\r' :: '\n' :: _ => some 2
  | '\r' :: _ => some 1
  | _ => none

/-- The position after the line ending that stands here. -/
def skipLineEnd? (cursor : Cursor) : Option Cursor :=
  (lineEndLength? cursor.rest).map cursor.advance

def isAtLineEnd (cursor : Cursor) : Bool :=
  (lineEndLength? cursor.rest).isSome

/-- The position after the line, if nothing but white space is left of it. -/
def skipBlankLine? (cursor : Cursor) : Option Cursor :=
  (cursor.skipWhile isInlineSpace).skipLineEnd?

def isBlankLine (cursor : Cursor) : Bool :=
  cursor.skipBlankLine?.isSome

/-- Passes a blank line, if there is one. -/
def skipOptionalBlankLine (cursor : Cursor) : Cursor :=
  cursor.skipBlankLine?.getD cursor

/-- The position after the next line feed. -/
def nextLine (cursor : Cursor) : Cursor :=
  (cursor.skipWhile (· != '\n')).step

end Cursor

end MarkdownDialect.CommonMark
