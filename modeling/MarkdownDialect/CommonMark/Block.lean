import MarkdownDialect.CommonMark.Definition
import MarkdownDialect.CommonMark.Piece

/-!
Blocks that hold no other blocks: code, raw HTML, headings, tables and paragraphs. Each reader
begins at the first line of its block and gives the block with the position after it. The
containers are those of the block; a line continues the block only if it continues all of them.
-/

namespace MarkdownDialect.CommonMark

open Text

/-- A block that is read, and where the next one begins. -/
structure BlockEnd where
  piece : Piece
  next : Cursor
  deriving Repr

/-- The margin after all containers, if the line that begins here continues them all. -/
def Cursor.continueAll? (containers : List Container) (line : Cursor) : Option Margin :=
  match (Margin.start line).skipContainers containers with
  | (count, margin) => if count = containers.length then some margin else none

/-! ## Code -/

/-- A line of code or HTML: what is left of a tab before it, and the line with its ending, which
becomes a line feed. -/
def verbatimLine (margin : Margin) : Text :=
  let line := margin.cursor.sliceTo margin.cursor.nextLine.offset
  let ended := match "\r\n".toList.isSuffixOf? line with
    | some content => content ++ ['\n']
    | none => line
  List.replicate margin.pending ' ' ++ ended

/-- The elements of a block of code. -/
def codeContent (code : Text) (stop : Nat) : List Piece :=
  if code.isEmpty then [] else [.leaf (.text code) stop]

/-- Reads lines of indented code. Blank lines count only if another line of code follows; `blank`
holds those not counted yet. -/
def readIndentedLines (containers : List Container) (code blank : Text) (margin : Margin) :
    (rounds : Nat) → Text × Cursor
  | 0 => (code, margin.cursor)
  | rounds + 1 =>
    let line := verbatimLine margin
    let (code, blank) := if margin.cursor.isBlankLine then (code, blank ++ line)
      else (code ++ blank ++ line, [])
    let next := margin.cursor.nextLine
    match next.continueAll? containers with
    | none => (code, next)
    | some margin =>
      let (indent, content) := margin.takeColumns Margin.codeIndent
      if (indent < Margin.codeIndent && !content.cursor.isAtLineEnd) || content.cursor.isAtEnd then
        (code, next)
      else
        readIndentedLines containers code blank content rounds

def readIndentedCode (containers : List Container) (margin : Margin) : BlockEnd :=
  let (code, next) :=
    readIndentedLines containers [] [] margin (margin.cursor.rest.length + 1)
  { piece := .block (.codeBlock none) (codeContent code next.offset) next.offset, next }

/-- Reads the lines after an opening fence, up to the closing one. As many columns as stood before
the fence are taken off each line. -/
def readFencedLines (containers : List Container) (fence : Fence) (indent : Nat) (code : Text)
    (line : Cursor) : (rounds : Nat) → Text × Cursor
  | 0 => (code, line)
  | rounds + 1 =>
    match line.continueAll? containers with
    | none => (code, line)
    | some margin =>
      let content := (margin.takeColumns indent).2
      let (width, atFence) := content.takeColumns Margin.codeIndent
      match if width < Margin.codeIndent then fence.closing? atFence.cursor else none with
      | some closed => (code, closed)
      | none =>
        readFencedLines containers fence indent (code ++ verbatimLine content)
          content.cursor.nextLine rounds

/-- Reads fenced code, given how many columns stand before the fence. -/
def readFencedCode (containers : List Container) (fence : Fence) (indent : Nat)
    (cursor : Cursor) : BlockEnd :=
  let infoStart := (cursor.advance fence.length).skipWhile isInlineSpace
  let body := infoStart.nextLine
  let info := dropEndWhile isMarkupSpace (infoStart.sliceTo body.offset)
  let (code, last) := readFencedLines containers fence indent [] body (body.rest.length + 2)
  { piece := .block (.codeBlock (some (decodeEscapes info))) (codeContent code last.offset)
      last.offset
    next := last.skipOptionalBlankLine }

/-! ## Raw HTML -/

/-- Reads lines of HTML up to the one that ends the block. -/
def readHtmlLines (containers : List Container) (block : HtmlBlock) (html : Text)
    (margin : Margin) : (rounds : Nat) → Text × Cursor
  | 0 => (html, margin.cursor)
  | rounds + 1 =>
    let next := margin.cursor.nextLine
    let html := html ++ verbatimLine margin
    let ends := match block with
      | .upTo marker => has marker (margin.cursor.sliceTo next.offset)
      | .upToBlankLine => false
    match if ends then none else next.continueAll? containers with
    | none => (html, next)
    | some margin =>
      let blank := block = .upToBlankLine && margin.cursor.isBlankLine
      if margin.cursor.isAtEnd || blank then (html, next)
      else readHtmlLines containers block html margin rounds

def readHtml (containers : List Container) (block : HtmlBlock) (margin : Margin) : BlockEnd :=
  let (html, next) :=
    readHtmlLines containers block [] margin (margin.cursor.rest.length + 1)
  { piece := .leaf (.html html) next.offset, next }

/-! ## Headings -/

/-- The end of a heading's text without the white space and the closing number signs at its end. A
closing run has a space before it or is all of the text. -/
def headingTextLength (text : Text) : Nat :=
  let trimmed := dropEndWhile (fun c => c = '\n' || c = '\r' || c = ' ') text
  match dropEndWhile (· = '#') trimmed with
  | [] => 0
  | opened =>
    if opened.getLast? = some ' ' then (dropEndWhile (· = ' ') opened).length else trimmed.length

/-- Reads a heading of a level whose number signs stand here. A backslash at its end is text. -/
def readHeading (level : Nat) (cursor : Cursor) : BlockEnd :=
  let marked := cursor.advance level
  match marked.skipLineEnd? with
  | some next => { piece := .block (.heading level) [] next.offset, next }
  | none =>
    let start := marked.skipWhile isInlineSpace
    let line := TokenLine.ofCursor start
    let stop := start.offset + headingTextLength (start.sliceTo line.next.offset)
    let tokens := adjustLast (fun _ => stop) (line.tokens ++ line.finalBackslash)
    { piece := .block (.heading level) (tokens.map .token) line.next.offset, next := line.next }

/-! ## Tables -/

/-- The cells of a line, cut at the pipes that no backslash escapes. -/
def cellTexts : Text → List Text
  | [] => [[]]
  | '\\' :: c :: rest =>
    if isAsciiPunctuation c then
      cellTexts rest
    else
      cellTexts (c :: rest)
  | c :: rest =>
    if c = '|' then
      [] :: cellTexts rest
    else
      match cellTexts rest with
      | [] => [[c]]
      | cell :: cells => (c :: cell) :: cells

/-- How many columns a line has as the head of a table. Pipes at its ends bound no cell. -/
def headColumns (line : Text) : Nat :=
  let cells := cellTexts line
  let bounded (cell : Option Text) : Nat :=
    if ((cell.getD []).all isInlineSpace) then 1 else 0
  cells.length - bounded cells.head? - bounded cells.getLast?

/-- Reads the cells of a row and the position after it. -/
def readCells (cursor : Cursor) : (rounds : Nat) → List Piece × Cursor
  | 0 => ([], cursor)
  | rounds + 1 =>
    let start := (cursor.skipOptional '|').skipWhile isInlineSpace
    match start.skipLineEnd? with
    | some next => ([], next)
    | none =>
      let line := TokenLine.ofCell start
      let tokens := adjustLast Token.trimmedStop line.tokens
      let cell := Piece.block .tableCell (tokens.map .token) line.next.offset
      let (cells, next) := readCells line.next rounds
      (cell :: cells, next)

/-- Reads a row of so many columns. Missing cells are empty, and more cells are dropped. -/
def readRow (tag : Tag) (columns : Nat) (cursor : Cursor) : BlockEnd :=
  let (cells, next) := readCells cursor (cursor.rest.length + 1)
  let missing := List.replicate (columns - cells.length) (.block .tableCell [] next.offset)
  { piece := .block tag (cells.take columns ++ missing) next.offset, next }

/-- Reads rows up to a line that begins another block. -/
def readRows (containers : List Container) (columns : Nat) (line : Cursor) :
    (rounds : Nat) → List Piece × Cursor
  | 0 => ([], line)
  | rounds + 1 =>
    match line.continueAll? containers with
    | none => ([], line)
    | some margin =>
      let start := margin.skipBlanks.cursor
      if start.interruptsParagraph true then
        ([], line)
      else
        let row := readRow .tableRow columns start
        let (rows, next) := readRows containers columns row.next rounds
        (row.piece :: rows, next)

/-- Reads the table whose head begins here, if a delimiter row with as many columns follows. -/
def readTable? (containers : List Container) (cursor : Cursor) : Option BlockEnd := do
  let next := cursor.skipLine
  if (cellTexts cursor.line).length = 1 || (cursor.advance cursor.line.length).isAtEnd then
    none
  else
    let margin ← next.continueAll? containers
    let alignments ← margin.cursor.delimiterRow?
    if alignments.length = headColumns cursor.line then
      let columns := alignments.length
      let head := readRow .tableHead columns cursor
      let body := margin.cursor.skipLine
      let (rows, last) := readRows containers columns body (body.rest.length + 1)
      return { piece := .block (.table alignments) (head.piece :: rows) last.offset, next := last }
    else
      none

/-! ## Paragraphs -/

/-- Reads a paragraph, or the heading that it turns out to be, given the tokens of the lines
before. -/
def readLines (containers : List Container) (before : List Token) (cursor : Cursor) :
    (rounds : Nat) → BlockEnd
  | 0 => { piece := .block .paragraph (before.map .token) cursor.offset, next := cursor }
  | rounds + 1 =>
    let line := TokenLine.ofCursor cursor
    let tokens := before ++ line.tokens
    let finished (tokens : List Token) (next : Cursor) : BlockEnd :=
      { piece := .block .paragraph (tokens.map .token) next.offset, next }
    let (count, margin) := (Margin.start line.next).skipContainers containers
    let within := count = containers.length
    let (width, content) := margin.takeColumns Margin.codeIndent
    let atMarker := width < Margin.codeIndent
    match if atMarker && within then content.cursor.skipUnderline? else none with
    | some (level, next) =>
      let text := if line.finalBackslash.isEmpty then adjustLast Token.trimmedStop tokens
        else tokens ++ line.finalBackslash
      { piece := .block (.heading level) (text.map .token) next.offset, next }
    | none =>
      let start := content.skipBlanks.cursor
      if (atMarker && content.cursor.interruptsParagraph within) || start.isAtLineEnd then
        finished tokens line.next
      else
        let tokens := tokens ++ line.ending.toList
        if (Definition.readFootnote? containers start).isSome then finished tokens start
        else readLines containers tokens start rounds

def readParagraph (containers : List Container) (cursor : Cursor) : BlockEnd :=
  match readTable? containers cursor with
  | some table => table
  | none => readLines containers [] cursor (cursor.rest.length + 1)

end MarkdownDialect.CommonMark
