import MarkdownDialect.CommonMark.Definition
import MarkdownDialect.CommonMark.Emphasis

/-!
Links, images, footnote references, code and raw HTML within a text. Code and HTML are found first
as the tokens go by; a closing bracket is matched with the innermost open one.
-/

namespace MarkdownDialect.CommonMark

open Text

/-- What a text needs to know of its surroundings. -/
structure TextContext where
  definitions : Definitions
  containers : List Container
  /-- The offset at which the block of the text ends. -/
  stop : Nat
  deriving Repr

/-- The position with nothing after the offset at which a block ends. -/
def Cursor.within (cursor : Cursor) (stop : Nat) : Cursor :=
  { cursor with rest := cursor.sliceTo stop }

/-- A bracket that is open, with the parts after it, the latest first. -/
structure OpenBracket where
  opening : Token
  /-- Whether a link may still begin here. Images always may. -/
  active : Bool
  parts : List Inline
  deriving Repr

namespace OpenBracket

def isImage (bracket : OpenBracket) : Bool :=
  bracket.opening.kind = .imageOpening

/-- A bracket in which a link has been found. Links hold no links. -/
def disabled (bracket : OpenBracket) : OpenBracket :=
  { bracket with active := bracket.isImage }

/-- The position of the bracket itself. -/
def cursor (bracket : OpenBracket) : Cursor :=
  bracket.opening.start.seek (bracket.opening.stop - 1)

/-- The element that a bracket becomes when its target is known. -/
def element (bracket : OpenBracket) (target : LinkTarget) : Element :=
  .node (if bracket.isImage then .image target.destination target.title
    else .link .ordinary target.destination target.title)
    (Delimited.elementsOf bracket.parts.reverse)

end OpenBracket

/-- The open brackets, the innermost first, and the parts before them, the latest first. -/
structure Bracketed where
  brackets : List OpenBracket
  parts : List Inline
  /-- The offsets of closing brackets that were tried as references and are none. -/
  spent : List Nat
  deriving Repr

namespace Bracketed

def empty : Bracketed :=
  { brackets := [], parts := [], spent := [] }

/-- Adds parts, the latest first. -/
def append (state : Bracketed) (parts : List Inline) : Bracketed :=
  match state.brackets with
  | [] => { state with parts := parts ++ state.parts }
  | bracket :: rest =>
    { state with brackets := { bracket with parts := parts ++ bracket.parts } :: rest }

/-- A token that is text after all. -/
def plain (token : Token) : Inline :=
  .token { token with kind := .text }

/-- Turns the innermost bracket into text. -/
def giveUp (state : Bracketed) : Bracketed :=
  match state.brackets with
  | [] => state
  | bracket :: rest =>
    { state with brackets := rest }.append (bracket.parts ++ [plain bracket.opening])

def giveUpAll (state : Bracketed) : Bracketed :=
  state.brackets.foldl (fun current _ => current.giveUp) state

end Bracketed

/-! ## Code -/

/-- The first run of so many backticks, and the tokens before it. -/
def closingBackticks? (count : Nat) : List Inline → Option (List Token × Token)
  | [] => none
  | .token token :: rest =>
    match token.kind with
    | .backticks found _ =>
      if found = count then some ([], token)
      else (closingBackticks? count rest).map fun (between, last) => (token :: between, last)
    | _ => (closingBackticks? count rest).map fun (between, last) => (token :: between, last)
  | _ :: rest => closingBackticks? count rest

/-- The lines of code that begins at a position, given the tokens up to its end. -/
def codeLines (start : Cursor) (stop : Nat) : List Token → List Text
  | [] => [start.sliceTo stop]
  | token :: rest =>
    if token.kind = .softBreak || token.kind = .hardBreak then
      let next := match rest with
        | [] => token.start.seek stop
        | following :: _ => following.start
      (start.sliceTo (token.start.skipWhile fun c => !isLineEnd c).offset)
        :: codeLines next stop rest
    else
      codeLines start stop rest

/-- The text of code: its lines with a space between them, and without the one space at each end if
there are both, unless there is nothing else. -/
def codeText (lines : List Text) : Text :=
  let text := joinWith [' '] lines
  if text.all (· = ' ') then text
  else
    match text with
    | ' ' :: rest => if rest.getLast? = some ' ' then rest.dropLast else text
    | _ => text

/-! ## References -/

/-- What a text in brackets refers to. -/
inductive Reference where
  | target (target : LinkTarget)
  | footnote (label : Text)
  deriving Repr

namespace TextContext

/-- The position at which a label goes on in the line that begins here. -/
def continueLabel (context : TextContext) (line : Cursor) : Option Cursor :=
  some (line.skipPrefix context.containers)

/-- The label whose opening bracket stands here, if it is no footnote's. -/
def linkLabel? (context : TextContext) (cursor : Cursor) : Option (Text × Cursor) := do
  let inside ← cursor.skipChar? '['
  if inside.next? = some '^' then none
  else LinkTarget.labelAfter? context.continueLabel inside

/-- What the text between two brackets refers to as a label. -/
def shortcut? (context : TextContext) (cursor : Cursor) : Option Reference := do
  let inside ← cursor.skipChar? '['
  match inside.skipChar? '^' with
  | some note =>
    let (label, _) ← LinkTarget.labelAfter? context.continueLabel note
    return .footnote label
  | none =>
    let (label, _) ← LinkTarget.labelAfter? context.continueLabel inside
    (Definition.find? context.definitions label).map .target

/-- How a closing bracket goes on. -/
inductive Continuation where
  /-- A label follows in brackets of its own, up to an offset. -/
  | labelled (label : Text) (stop : Nat)
  /-- The text in the brackets is the label itself; it ends at an offset. -/
  | own (stop : Nat)
  deriving Repr

/-- What follows a closing bracket, given the parts after it. -/
def continuation (context : TextContext) (closing : Token) (rest : List Inline) : Continuation :=
  match rest with
  | .token next :: _ =>
    let following := next.start.within context.stop
    if following.startsWith "[]".toList then .own (next.start.offset + 2)
    else
      match context.linkLabel? following with
      | some (label, last) => .labelled label last.offset
      | none => .own closing.stop
  | _ => .own closing.stop

end TextContext

/-! ## Matching -/

/-- A step through the parts of a text: what is found, and the offset up to which the parts belong
to it. -/
structure Matched where
  state : Bracketed
  skipTo : Nat

namespace Bracketed

/-- Adds the element of the innermost bracket. -/
def closeWith (state : Bracketed) (bracket : OpenBracket) (outer : List OpenBracket)
    (target : LinkTarget) (stop : Nat) : Matched :=
  let outer := if bracket.isImage then outer else outer.map OpenBracket.disabled
  { state := { state with brackets := outer }.append [.element (bracket.element target) stop]
    skipTo := stop }

/-- Turns the innermost bracket and the closing one into text. -/
def closeAsText (state : Bracketed) (closing : Token) : Matched :=
  { state := state.giveUp.append [plain closing], skipTo := closing.stop }

/-- Replaces the innermost bracket by a reference to a footnote. No bracket around it can become a
link any more. -/
def closeAsFootnote (state : Bracketed) (outer : List OpenBracket) (label : Text)
    (stop : Nat) : Matched :=
  { state := { state with brackets := outer }.giveUpAll.append
      [.element (.leaf (.footnoteReference label)) stop]
    skipTo := stop }

/-- Matches a closing bracket, given the parts after it. -/
def closeBracket (context : TextContext) (state : Bracketed) (closing : Token)
    (rest : List Inline) : Matched :=
  match state.brackets with
  | [] => state.closeAsText closing
  | bracket :: outer =>
    if !bracket.active then
      state.closeAsText closing
    else
      let after := (closing.start.seek closing.stop).within context.stop
      match LinkTarget.readInline? context.containers after with
      | some (target, last) => state.closeWith bracket outer target last.offset
      | none =>
        match context.continuation closing rest with
        | .labelled label stop =>
          match Definition.find? context.definitions label with
          | some target => state.closeWith bracket outer target stop
          | none => { state with spent := (stop - 1) :: state.spent }.closeAsText closing
        | .own stop =>
          if state.spent.contains closing.start.offset then
            state.closeAsText closing
          else
            match context.shortcut? (bracket.cursor.within closing.stop) with
            | some (.target target) => state.closeWith bracket outer target stop
            | some (.footnote label) => state.closeAsFootnote outer label stop
            | none => state.closeAsText closing

/-- Reads an address or a tag that begins with an angle bracket, given the parts after it. -/
def openAngle (context : TextContext) (state : Bracketed) (opening : Token)
    (rest : List Inline) : Matched :=
  let asText : Matched := { state := state.append [plain opening], skipTo := opening.stop }
  match rest with
  | .token next :: _ =>
    let cursor := next.start.within context.stop
    match Autolink.read? cursor.rest with
    | some (kind, length) =>
      let address := cursor.rest.take length
      let stop := cursor.offset + length + 1
      let content := (opening.start.step).sliceTo (stop - 1)
      { state := state.append
          [.element (.node (.link kind address []) [textElement content]) stop]
        skipTo := stop }
    | none =>
      match inlineHtml? context.containers opening.start cursor with
      | some (html, stop) =>
        { state := state.append [.element (.leaf (.html html)) stop], skipTo := stop }
      | none => asText
  | _ => asText

/-- Reads code that begins with a run of backticks, given the parts after it. Of a run after a
backslash the first backtick is text. -/
def openCode (state : Bracketed) (opening : Token) (count : Nat) (escaped : Bool)
    (rest : List Inline) : Matched :=
  let width := if escaped then count - 1 else count
  match if width = 0 then none else closingBackticks? width rest with
  | none => { state := state.append [plain opening], skipTo := opening.stop }
  | some (between, closing) =>
    let code := codeText
      (codeLines (opening.start.seek opening.stop) closing.start.offset between)
    let literal := if escaped then [plain { opening with stop := opening.start.offset + 1 }] else []
    { state := state.append (.element (.leaf (.code code)) closing.stop :: literal)
      skipTo := closing.stop }

/-- Adds a token, given the parts after it. -/
def addToken (context : TextContext) (state : Bracketed) (token : Token)
    (rest : List Inline) : Matched :=
  match token.kind with
  | .angle => state.openAngle context token rest
  | .backticks count escaped => state.openCode token count escaped rest
  | .linkOpening | .imageOpening =>
    { state := { state with
        brackets := { opening := token, active := true, parts := [] } :: state.brackets }
      skipTo := token.stop }
  | .closing => state.closeBracket context token rest
  | _ => { state := state.append [.token token], skipTo := token.stop }

/-- Adds the parts of a text from an offset on. -/
def addAll (context : TextContext) (skipTo : Nat) (state : Bracketed) :
    List Inline → Bracketed
  | [] => state
  | part :: rest =>
    if part.stop ≤ skipTo then
      addAll context skipTo state rest
    else
      match part.clip skipTo with
      | .token token =>
        let found := state.addToken context token rest
        addAll context found.skipTo found.state rest
      | whole => addAll context skipTo (state.append [whole]) rest

end Bracketed

/-- The elements of a text. -/
def elementsOfText (context : TextContext) (parts : List Inline) : List Element :=
  let state := (Bracketed.empty.addAll context 0 parts).giveUpAll
  Delimited.elementsOf state.parts.reverse

end MarkdownDialect.CommonMark
