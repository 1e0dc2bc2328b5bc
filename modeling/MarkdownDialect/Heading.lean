import MarkdownDialect.Heading.Slug
import MarkdownDialect.Text.Space

/-!
Headings of a document's source: the lines that begin with one to six number signs, outside fenced
code. The text of a heading is cleaned as the renderer shows it: without the closing run of number
signs, without emphasis and code markers, and without the arrows of a centred heading.
-/

namespace MarkdownDialect

open Text

structure Heading where
  level : Nat
  text : Text
  id : Text
  deriving DecidableEq, Repr

namespace Heading

/-- A heading whose id is the slug of its text. -/
def ofText (level : Nat) (text : Text) : Heading :=
  { level, text, id := slug text }

/-! ## Centred headings -/

/-- The deepest level that is centred. -/
def maxCenteredLevel : Nat :=
  3

/-- A heading is centred when its text holds both arrows. -/
def isCentered (level : Nat) (text : Text) : Bool :=
  level ≤ maxCenteredLevel && has "->".toList text && has "<-".toList text

def stripArrows (text : Text) : Text :=
  replaceAll "<-".toList [] (replaceAll "->".toList [] text)

/-! ## Reading the source -/

/-- The lines of a source, without line endings. A final line feed ends the last line and begins
no new one, and a carriage return belongs to the ending only before a line feed. -/
def sourceLines (source : Text) : List Text :=
  let pieces := lines source
  let ended := pieces.dropLast.map fun line => (stripReturn line).1
  match pieces.getLast? with
  | none | some [] => ended
  | some last => ended ++ [last]

/-- Whether a line opens or closes fenced code, and with which character. -/
def fenceMark? (line : Text) : Option Char :=
  let start := trimStart line
  if "\x60\x60\x60".toList.isPrefixOf start then some '\x60'
  else if "~~~".toList.isPrefixOf start then some '~'
  else none

/-- Drops the closing run of number signs, if a blank stands before it or it is all there is. -/
def stripClosingRun (text : Text) : Text :=
  let shorter := dropEndWhile (· = '#') text
  match shorter.getLast? with
  | none => []
  | some last => if isBlank last then trimEnd shorter else text

def stripMarkers (text : Text) : Text :=
  (replaceAll "~~".toList [] text).filter fun c => c != '*' && c != '\x60'

/-- The text of a heading, given what follows its number signs. -/
def cleanText (level : Nat) (raw : Text) : Text :=
  let text := stripMarkers (stripClosingRun (trim raw))
  trim (if isCentered level text then stripArrows text else text)

/-- Reads a heading line: number signs, at least one blank, and a text. -/
def ofLine? (line : Text) : Option Heading :=
  let level := (line.takeWhile (· = '#')).length
  match line.dropWhile (· = '#') with
  | [] => none
  | c :: rest =>
    let text := cleanText level rest
    if 1 ≤ level && level ≤ 6 && isBlank c && !text.isEmpty then some (ofText level text) else none

/-- The headings of the lines that follow, given the fence that is open. -/
def scan : (fence : Option Char) → List Text → List Heading
  | _, [] => []
  | fence, line :: rest =>
    match fence, fenceMark? line with
    | none, some mark => scan (some mark) rest
    | some mark, some other => scan (if mark = other then none else some mark) rest
    | some mark, none => scan (some mark) rest
    | none, none => (ofLine? line).toList ++ scan none rest

/-- The headings of a source in their order. -/
def extract (source : Text) : List Heading :=
  scan none (sourceLines source)

end Heading

end MarkdownDialect
