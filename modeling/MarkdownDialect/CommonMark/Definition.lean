import MarkdownDialect.CommonMark.LineForm
import MarkdownDialect.CommonMark.Link
import MarkdownDialect.CommonMark.RawHtml

/-!
Definitions of link targets, `[label]: destination "title"`, and the labels that begin footnotes.
The first definition of a label counts, and labels are compared without regard to case.
-/

namespace MarkdownDialect.CommonMark

open Text

/-! ## Paragraphs that end -/

/-- Whether a list item that begins here ends a paragraph. Within the paragraph's containers a list
has to begin with a bullet or the number one, and its first item must not be empty. -/
def Cursor.interruptsWithItem (cursor : Cursor) (withinContainers : Bool) : Bool :=
  match ListMarker.read? cursor.rest with
  | none => false
  | some (delimiter, number, length) =>
    let after := cursor.advance length
    let spaced := match after.next? with
      | none => true
      | some c => isBlank c || isLineEnd c
    spaced && (!withinContainers ||
      ((ListMarker.isBullet delimiter || number = 1) && !after.isBlankLine))

/-- Whether what stands here ends a paragraph that might go on. -/
def Cursor.interruptsParagraph (cursor : Cursor) (withinContainers : Bool) : Bool :=
  cursor.isAtLineEnd || cursor.isRule || cursor.headingLevel?.isSome
    || (Fence.opening? cursor).isSome || cursor.startsWith ['>']
    || cursor.interruptsWithItem withinContainers || (HtmlBlock.interrupting? cursor).isSome

/-! ## Reading -/

/-- The targets that labels are defined for, the latest first. -/
abbrev Definitions :=
  List (Text × LinkTarget)

namespace Definition

/-- The label of a definition as it is compared. -/
def key (label : Text) : Text :=
  foldCase label

/-- Adds a definition, unless its label has one. -/
def insert (definitions : Definitions) (label : Text) (target : LinkTarget) : Definitions :=
  if (definitions.lookup (key label)).isSome then definitions
  else (key label, target) :: definitions

def find? (definitions : Definitions) (label : Text) : Option LinkTarget :=
  definitions.lookup (key label)

/-- The position at which a label goes on in the line that begins here. -/
def continueLabel? (containers : List Container) (line : Cursor) : Option Cursor :=
  let (count, margin) := (Margin.start line).skipContainers containers
  if margin.cursor.interruptsParagraph (count = containers.length) then none
  else some margin.cursor

/-- Reads `[label]:`, given the position after what opens the label. -/
def readLabel? (containers : List Container) (cursor : Cursor) : Option (Text × Cursor) := do
  let (label, after) ← LinkTarget.labelAfter? (continueLabel? containers) cursor
  return (label, ← after.skipChar? ':')

/-- Passes white space with at most one line ending, and counts the line endings. The next line has
to continue all containers. -/
def skipSpace? (containers : List Container) (cursor : Cursor) : Option (Nat × Cursor) := do
  let spaced := cursor.skipWhile isInlineSpace
  match spaced.skipLineEnd? with
  | none => return (0, spaced)
  | some line =>
    let (count, margin) := (Margin.start line).skipContainers containers
    let next := margin.cursor.skipWhile isInlineSpace
    if count < containers.length || next.isAtLineEnd then none else return (1, next)

/-- The text of a title up to its end, and what follows the end. A title holds no blank line. The
flag tells whether there is only white space since a line feed. -/
def titleText? (closing : Char) : (afterLineFeed : Bool) → Text → Option (Text × Text)
  | _, [] => none
  | _, '\\' :: c :: rest =>
    (titleText? closing false rest).map fun (title, after) => ('\\' :: c :: title, after)
  | afterLineFeed, c :: rest =>
    if c = '\n' && afterLineFeed then none
    else if c = closing then some ([], rest)
    else
      (titleText? closing (c = '\n' || (afterLineFeed && isInlineSpace c)) rest).map
        fun (title, after) => (c :: title, after)

/-- Reads the title of a definition. -/
def readTitle? (cursor : Cursor) : Option (Text × Cursor) := do
  let closing ← LinkTarget.titleEnd? (← cursor.next?)
  let rest := cursor.step.rest
  let (title, after) ← titleText? closing false rest
  return (decodeEscapes title, cursor.step.advance (rest.length - after.length))

/-- How many parentheses may be open within one another in the destination of a definition. -/
def nesting : Nat :=
  2

/-- Reads the target of a definition, given the position after the colon. A title that is not
followed by the end of its line is none, and then it has to stand on a line of its own. -/
def readTarget? (containers : List Container) (cursor : Cursor) :
    Option (LinkTarget × Cursor) := do
  let (_, start) ← skipSpace? containers cursor
  let (destination, afterDestination) ← LinkTarget.readDestination? nesting start
  if afterDestination.offset = start.offset then
    none
  else
    let untitled := ({ destination, title := [] }, afterDestination)
    match skipSpace? containers afterDestination with
    | none => return untitled
    | some (lineEnds, next) =>
      if lineEnds = 0 && next.offset = afterDestination.offset then
        none
      else
        match readTitle? next with
        | some (title, afterTitle) =>
          match afterTitle.skipBlankLine? with
          | some last => return ({ destination, title }, last)
          | none => if 0 < lineEnds then return untitled else none
        | none => if 0 < lineEnds then return untitled else none

/-- Reads a definition that begins here: its label, its target and the position after it. -/
def read? (containers : List Container) (cursor : Cursor) :
    Option (Text × LinkTarget × Cursor) := do
  let (label, after) ← readLabel? containers (← cursor.skipChar? '[')
  let (target, last) ← readTarget? containers after
  return (label, target, last)

/-- Reads the beginning of a footnote, `[^label]:`. -/
def readFootnote? (containers : List Container) (cursor : Cursor) : Option (Text × Cursor) := do
  readLabel? containers (← (← cursor.skipChar? '[').skipChar? '^')

end Definition

end MarkdownDialect.CommonMark
