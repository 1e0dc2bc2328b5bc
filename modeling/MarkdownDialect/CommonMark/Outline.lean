import MarkdownDialect.CommonMark.Block

/-!
How the blocks of a document are found. An outline holds the containers that are open at a
position: quotes, lists, their items and footnotes. Each step closes the containers that a line does
not continue, opens those that it begins, and reads the block that follows.
-/

namespace MarkdownDialect.CommonMark

open Text

inductive FrameKind where
  | quote
  /-- A list by its delimiter and first number; in a tight list no blank line separates items or
  their blocks. -/
  | list (delimiter : Char) (number : Nat) (tight : Bool)
  | item (indent : Nat)
  | footnote (label : Text)
  deriving DecidableEq, Repr

/-- A container that is open, with the pieces in it, the latest first. -/
structure Frame where
  kind : FrameKind
  pieces : List Piece
  deriving Repr

namespace Frame

def container (frame : Frame) : Container :=
  match frame.kind with
  | .quote => .quote
  | .item indent => .item indent
  | .list _ _ _ | .footnote _ => .free

/-- The piece that a container becomes when it is closed. -/
def close (frame : Frame) (stop : Nat) : Piece :=
  let children := frame.pieces.reverse
  match frame.kind with
  | .quote => .block .quote children stop
  | .list delimiter number tight =>
    .block (.list (if ListMarker.isOrdered delimiter then some number else none))
      (if tight then children.map Piece.tightened else children) stop
  | .item indent => .item indent children stop
  | .footnote label => .block (.footnote label) children stop

def isQuote (frame : Frame) : Bool :=
  match frame.kind with
  | .quote => true
  | _ => false

def isList (frame : Frame) : Bool :=
  match frame.kind with
  | .list _ _ _ => true
  | _ => false

def isFootnote (frame : Frame) : Bool :=
  match frame.kind with
  | .footnote _ => true
  | _ => false

/-- A list that is not tight. Other containers stay as they are. -/
def loosened (frame : Frame) : Frame :=
  match frame.kind with
  | .list delimiter number _ => { frame with kind := .list delimiter number false }
  | _ => frame

end Frame

structure Outline where
  /-- The open containers, the innermost first. -/
  frames : List Frame
  /-- The pieces outside all containers, the latest first. -/
  pieces : List Piece
  /-- Whether a blank line within a container came last. -/
  afterBlank : Bool
  /-- Whether an item has begun with a blank line. -/
  itemBegun : Bool
  definitions : Definitions
  deriving Repr

namespace Outline

def empty : Outline :=
  { frames := [], pieces := [], afterBlank := false, itemBegun := false, definitions := [] }

/-- What the open containers claim of a line, the outermost first. -/
def containers (outline : Outline) : List Container :=
  (outline.frames.map Frame.container).reverse

def innermost? (outline : Outline) : Option Frame :=
  outline.frames.head?

def isWithin (outline : Outline) (test : Frame → Bool) : Bool :=
  (outline.innermost?.map test).getD false

def append (outline : Outline) (piece : Piece) : Outline :=
  match outline.frames with
  | [] => { outline with pieces := piece :: outline.pieces }
  | frame :: rest =>
    { outline with frames := { frame with pieces := piece :: frame.pieces } :: rest }

def enter (outline : Outline) (kind : FrameKind) : Outline :=
  { outline with frames := { kind, pieces := [] } :: outline.frames }

/-- Closes the innermost container. -/
def leave (outline : Outline) (stop : Nat) : Outline :=
  match outline.frames with
  | [] => outline
  | frame :: rest => { outline with frames := rest }.append (frame.close stop)

def leaveMany (outline : Outline) (stop : Nat) : Nat → Outline
  | 0 => outline
  | count + 1 => (outline.leave stop).leaveMany stop count

/-- Closes the innermost container if it is of a kind. -/
def leaveIf (outline : Outline) (test : Frame → Bool) (stop : Nat) : Outline :=
  if outline.isWithin test then outline.leave stop else outline

/-! ## Lists -/

/-- Closes a list that no item continues. After a blank line the list around it is not tight. -/
def finishList (outline : Outline) (stop : Nat) : Outline :=
  let closed := outline.leaveIf Frame.isList stop
  if closed.afterBlank then
    let frames := match closed.frames with
      | inner :: outer :: rest => inner :: outer.loosened :: rest
      | frames => frames
    { closed with frames, afterBlank := false }
  else
    closed

/-- Opens a list for an item, unless the innermost list goes on with it. After a blank line the
list that goes on is not tight. -/
def continueList (outline : Outline) (marker : ListMarker) (stop : Nat) : Outline :=
  match outline.frames with
  | [] =>
    { outline with afterBlank := false }.enter (.list marker.delimiter marker.number true)
  | frame :: rest =>
    let opened :=
      { outline.finishList stop with afterBlank := false }.enter
        (.list marker.delimiter marker.number true)
    match frame.kind with
    | .list delimiter _ _ =>
      if delimiter = marker.delimiter then
        if outline.afterBlank then
          { outline with frames := frame.loosened :: rest, afterBlank := false }
        else
          outline
      else
        opened
    | _ => opened

/-! ## Steps -/

/-- An outline within a line. -/
structure InLine where
  outline : Outline
  margin : Margin
  deriving Repr

/-- An outline after a block, and the position at which the next line begins. -/
structure AfterBlock where
  outline : Outline
  next : Cursor
  deriving Repr

/-- Closes the containers that the line does not continue, and a footnote after a blank line. -/
def closeContainers (outline : Outline) (line : Cursor) : InLine :=
  let (count, margin) := (Margin.start line).skipContainers outline.containers
  let closed := outline.leaveMany line.offset (outline.frames.length - count)
  { outline := if closed.afterBlank then closed.leaveIf Frame.isFootnote line.offset else closed
    margin }

/-- Opens a footnote that begins here. -/
def openFootnote (state : InLine) : InLine :=
  let start := state.margin.cursor
  match Definition.readFootnote? state.outline.containers start with
  | none => state
  | some (label, after) =>
    let outer := (state.outline.leaveIf Frame.isFootnote start.offset).finishList start.offset
    { outline := outer.enter (.footnote label), margin := Margin.start after.skipOptionalBlankLine }

/-- Opens the items and quotes whose markers stand here. An item that begins with a blank line ends
the step. -/
def openContainers (stop : Nat) (state : InLine) : (rounds : Nat) → InLine ⊕ AfterBlock
  | 0 => .inl state
  | rounds + 1 =>
    match state.margin.skipListMarker? with
    | some (marker, margin) =>
      let outline := (state.outline.continueList marker stop).enter (.item marker.indent)
      match margin.cursor.skipBlankLine? with
      | some next => .inr { outline := { outline with itemBegun := true }, next }
      | none =>
        match margin.skipTaskMarker? with
        | some (checked, margin) =>
          let outline := outline.append (.leaf (.taskMarker checked) margin.cursor.offset)
          openContainers stop { outline, margin } rounds
        | none => openContainers stop { outline, margin } rounds
    | none =>
      match state.margin.skipQuoteMarker? with
      | some margin =>
        openContainers stop { outline := (state.outline.finishList stop).enter .quote, margin }
          rounds
      | none => .inl state

/-- Passes a blank line. An item ends with it if it began with a blank line already. -/
def skipBlank (outline : Outline) (stop : Nat) (next : Cursor) : AfterBlock :=
  if outline.frames.isEmpty || outline.isWithin Frame.isQuote then
    { outline, next }
  else
    let closed := if outline.itemBegun then outline.leave stop else outline
    { outline := { closed with afterBlank := true }, next }

/-- Reads the block whose text begins here, within the margin left by its containers. -/
def readLeaf (outline : Outline) (margin : Margin) : AfterBlock :=
  let containers := outline.containers
  let (indent, content) := margin.takeColumns Margin.codeIndent
  let cursor := content.cursor
  let withBlock (block : BlockEnd) : AfterBlock :=
    { outline := outline.append block.piece, next := block.next }
  if indent = Margin.codeIndent then
    withBlock (readIndentedCode containers content)
  else if let some block := HtmlBlock.starting? cursor then
    withBlock (readHtml containers block margin)
  else if cursor.isRule then
    withBlock { piece := .leaf .rule cursor.skipLine.offset, next := cursor.skipLine }
  else if let some level := cursor.headingLevel? then
    withBlock (readHeading level cursor)
  else if let some (label, target, next) := Definition.read? containers cursor then
    { outline :=
        { outline with definitions := Definition.insert outline.definitions label target }
      next := next.skipOptionalBlankLine }
  else if let some fence := Fence.opening? cursor then
    withBlock (readFencedCode containers fence indent cursor)
  else
    withBlock (readParagraph containers cursor)

/-- Reads a line with the block that it begins. -/
def step (outline : Outline) (line : Cursor) : AfterBlock :=
  let opened := openFootnote (outline.closeContainers line)
  match openContainers line.offset opened (opened.margin.cursor.rest.length + 1) with
  | .inr after => after
  | .inl { outline, margin } =>
    match margin.cursor.skipBlankLine? with
    | some next => outline.skipBlank line.offset next
    | none => ({ outline with itemBegun := false }.finishList line.offset).readLeaf margin

/-- Reads blocks up to the end of the document, and closes all containers. -/
def readBlocks (outline : Outline) (line : Cursor) : (rounds : Nat) → Outline
  | 0 => outline.leaveMany line.offset outline.frames.length
  | rounds + 1 =>
    if line.isAtEnd then
      outline.leaveMany line.offset outline.frames.length
    else
      let after := outline.step line
      after.outline.readBlocks after.next rounds

/-- The outline of a document, in which no container is open any more. -/
def ofText (text : Text) : Outline :=
  empty.readBlocks (Cursor.ofText text) (text.length + 1)

end Outline

end MarkdownDialect.CommonMark
