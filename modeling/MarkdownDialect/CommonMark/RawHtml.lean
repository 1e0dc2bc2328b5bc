import MarkdownDialect.CommonMark.Margin
import MarkdownDialect.Text.LetterCase

/-!
Raw HTML: the beginnings of HTML blocks, and the tags, comments, instructions and declarations that
may stand within a paragraph.
-/

namespace MarkdownDialect.CommonMark

open Text

/-! ## Blocks -/

/-- How a block of HTML ends. -/
inductive HtmlBlock where
  /-- With the line that holds a marker. -/
  | upTo (marker : Text)
  /-- Before a blank line. -/
  | upToBlankLine
  deriving DecidableEq, Repr

namespace HtmlBlock

/-- The elements whose text is no markup. -/
def verbatimElements : List String :=
  ["pre", "style", "script", "textarea"]

/-- The elements that begin a block. -/
def blockElements : List String :=
  ["address", "article", "aside", "base", "basefont", "blockquote", "body", "caption", "center",
    "col", "colgroup", "dd", "details", "dialog", "dir", "div", "dl", "dt", "fieldset",
    "figcaption", "figure", "footer", "form", "frame", "frameset", "h1", "h2", "h3", "h4", "h5",
    "h6", "head", "header", "hr", "html", "iframe", "legend", "li", "link", "main", "menu",
    "menuitem", "nav", "noframes", "ol", "optgroup", "option", "p", "param", "section", "source",
    "summary", "table", "tbody", "td", "tfoot", "th", "thead", "title", "tr", "track", "ul"]

/-- Sections that begin and end with a marker of their own. -/
def markedSections : List (String × String) :=
  [("!--", "-->"), ("?", "?>"), ("![CDATA[", "]]>")]

/-- Whether an element's name at the front of a text is followed by what may follow it. -/
def opensVerbatim (name text : Text) : Bool :=
  toLowerAscii (text.take name.length) = name &&
    match text.drop name.length with
    | [] => true
    | c :: _ => isMarkupSpace c || c = '>'

/-- The marker that ends a block that begins with this text after its angle bracket. -/
def marker? (text : Text) : Option Text :=
  match verbatimElements.find? fun name => opensVerbatim name.toList text with
  | some name => some ("</".toList ++ name.toList ++ ['>'])
  | none =>
    match markedSections.find? fun (opening, _) => opening.toList.isPrefixOf text with
    | some (_, closing) => some closing.toList
    | none =>
      match text with
      | '!' :: c :: _ => if c.isUpper then some ['>'] else none
      | _ => none

/-- Whether a tag of a block element begins with this text after its angle bracket. -/
def opensBlockElement (text : Text) : Bool :=
  let name := (['/'].isPrefixOf? text).getD text
  (blockElements.map String.toList).contains (toLowerAscii (name.takeWhile isAsciiAlphanumeric)) &&
    match name.dropWhile isAsciiAlphanumeric with
    | [] => true
    | '/' :: '>' :: _ => true
    | c :: _ => isBlankOrLineEnd c || c = '>'
where
  isBlankOrLineEnd (c : Char) : Bool :=
    c = ' ' || c = '\t' || isLineEnd c

/-- The block that begins here even within a paragraph. -/
def interrupting? (cursor : Cursor) : Option HtmlBlock :=
  match cursor.rest with
  | '<' :: text =>
    match marker? text with
    | some marker => some (upTo marker)
    | none => if opensBlockElement text then some upToBlankLine else none
  | _ => none

end HtmlBlock

/-! ## Tags -/

/-- A tag that is being read: the position reached, and the HTML before it. What containers claim
of a line is passed over and is no part of the HTML. -/
structure TagReader where
  cursor : Cursor
  html : Text
  deriving Repr

namespace TagReader

def take (reader : TagReader) (count : Nat) : TagReader :=
  { cursor := reader.cursor.advance count, html := reader.html ++ reader.cursor.rest.take count }

def takeWhile (reader : TagReader) (inClass : Char → Bool) : TagReader :=
  reader.take (reader.cursor.count inClass)

def takeChar? (reader : TagReader) (c : Char) : Option TagReader :=
  if reader.cursor.next? = some c then some (reader.take 1) else none

/-- Takes a line ending and passes what the containers claim of the next line. `none` stands for a
place where the tag has to stay on its line. -/
def takeLineEnd? (containers : Option (List Container)) (reader : TagReader) :
    Option TagReader := do
  let length ← Cursor.lineEndLength? reader.cursor.rest
  let ended := reader.take length
  let containers ← containers
  if length = 0 then none
  else return { ended with cursor := ended.cursor.skipPrefix containers }

/-- Takes white space over any number of lines. Each round but the last takes a line. -/
def takeSpace? (containers : Option (List Container)) (reader : TagReader) :
    (rounds : Nat) → Option TagReader
  | 0 => none
  | rounds + 1 =>
    let spaced := reader.takeWhile isInlineSpace
    if spaced.cursor.isAtLineEnd then
      (spaced.takeLineEnd? containers).bind fun next => next.takeSpace? containers rounds
    else
      some spaced

def isNameStart (c : Char) : Bool :=
  isAsciiLetter c || c = '_' || c = ':'

def isNameChar (c : Char) : Bool :=
  isAsciiAlphanumeric c || c = '_' || c = '.' || c = ':' || c = '-'

def isUnquotedChar (c : Char) : Bool :=
  !(isLineEnd c || " \"\x27=<>\x60".toList.contains c)

/-- Takes the rest of a quoted value, which may go over several lines. -/
def takeQuoted? (containers : Option (List Container)) (quote : Char) (reader : TagReader) :
    (rounds : Nat) → Option TagReader
  | 0 => none
  | rounds + 1 =>
    let part := reader.takeWhile fun c => c != quote && !isLineEnd c
    if part.cursor.isAtLineEnd then
      (part.takeLineEnd? containers).bind fun next => next.takeQuoted? containers quote rounds
    else
      part.takeChar? quote

def takeValue? (containers : Option (List Container)) (reader : TagReader) : Option TagReader := do
  let first ← reader.cursor.next?
  if first = '\x22' || first = '\x27' then
    (reader.take 1).takeQuoted? containers first (reader.cursor.rest.length + 1)
  else if isUnquotedChar first then
    some (reader.takeWhile isUnquotedChar)
  else
    none

/-- Takes an attribute with its value, if it has one. -/
def takeAttribute? (containers : Option (List Container)) (reader : TagReader) :
    Option TagReader := do
  let first ← reader.cursor.next?
  if isNameStart first then
    let named := reader.takeWhile isNameChar
    let spaced ← named.takeSpace? containers (named.cursor.rest.length + 1)
    match spaced.takeChar? '=' with
    | none => return named
    | some equals =>
      let before ← equals.takeSpace? containers (equals.cursor.rest.length + 1)
      before.takeValue? containers
  else
    none

/-- Takes attributes up to the end of the tag. There is white space before each. -/
def takeAttributes? (containers : Option (List Container)) (reader : TagReader) :
    (rounds : Nat) → Option TagReader
  | 0 => none
  | rounds + 1 => do
    let spaced ← reader.takeSpace? containers (reader.cursor.rest.length + 1)
    match spaced.cursor.next? with
    | some '/' | some '>' => return spaced
    | _ =>
      if spaced.cursor.offset = reader.cursor.offset then
        none
      else
        (← spaced.takeAttribute? containers).takeAttributes? containers rounds

/-- Reads an opening or closing tag, given the position after its angle bracket. -/
def readTag? (containers : Option (List Container)) (cursor : Cursor) : Option TagReader := do
  let start : TagReader := { cursor, html := ['<'] }
  let closing := start.takeChar? '/'
  let atName := closing.getD start
  if (atName.cursor.next?.map isAsciiLetter).getD false then
    let named := atName.takeWhile fun c => isAsciiAlphanumeric c || c = '-'
    let attributed ← if closing.isSome then some named
      else named.takeAttributes? containers (named.cursor.rest.length + 1)
    let spaced := attributed.takeWhile isInlineSpace
    let slashed := if closing.isSome then spaced else (spaced.takeChar? '/').getD spaced
    slashed.takeChar? '>'
  else
    none

end TagReader

/-! ## Comments, instructions and declarations -/

/-- The position after the first occurrence of a marker. -/
def Cursor.skipTo? (cursor : Cursor) (marker : Text) : Option Cursor :=
  (breakOn marker cursor.rest).map fun (before, _) =>
    cursor.advance (before.length + marker.length)

/-- The end of a comment, given the position after its two hyphens. Two hyphens within it end it,
or it is none. -/
def Cursor.skipComment? (cursor : Cursor) : Option Cursor :=
  if cursor.startsWith ['>'] || cursor.startsWith "->".toList then none
  else (cursor.skipTo? "--".toList).bind fun closed => closed.skipChar? '>'

/-- The end of a section that begins with an exclamation mark, given the position after the
mark. -/
def Cursor.skipDeclaration? (cursor : Cursor) : Option Cursor :=
  if cursor.startsWith "--".toList then (cursor.advance 2).skipComment?
  else if cursor.startsWith "[CDATA[".toList then cursor.skipTo? "]]>".toList
  else if (cursor.next?.map isAsciiLetter).getD false then cursor.skipTo? ['>']
  else none

/-- Raw HTML within a paragraph: its text and where it ends. `opening` is the position of the angle
bracket, and `cursor` the one after it. -/
def inlineHtml? (containers : List Container) (opening cursor : Cursor) : Option (Text × Nat) :=
  match cursor.next? with
  | some '!' =>
    cursor.step.skipDeclaration?.map fun after => (opening.sliceTo after.offset, after.offset)
  | some '?' =>
    (cursor.step.skipTo? "?>".toList).map fun after =>
      (opening.sliceTo after.offset, after.offset)
  | _ =>
    (TagReader.readTag? (some containers) cursor).map fun reader =>
      (reader.html, reader.cursor.offset)

namespace HtmlBlock

/-- The block of HTML that begins here, if none is interrupted by it. A tag of any name that is
alone on its line begins one too. -/
def starting? (cursor : Cursor) : Option HtmlBlock :=
  match interrupting? cursor with
  | some block => some block
  | none => do
    let reader ← TagReader.readTag? none (← cursor.skipChar? '<')
    if reader.cursor.isBlankLine then some upToBlankLine else none

end HtmlBlock

end MarkdownDialect.CommonMark
