import MarkdownDialect.CommonMark.Element
import MarkdownDialect.CommonMark.Entity
import MarkdownDialect.CommonMark.Margin

/-!
The parts of links: labels, destinations and titles, and the addresses that stand between angle
brackets.
-/

namespace MarkdownDialect.CommonMark

open Text

/-- What a link or an image points to. -/
structure LinkTarget where
  destination : Text
  title : Text
  deriving DecidableEq, Repr

namespace LinkTarget

/-! ## Labels -/

/-- A label that is being read. -/
structure LabelReader where
  /-- The position after the part that is read, which is `label`, with white space collapsed. -/
  cursor : Cursor
  label : Text
  deriving Repr

/-- Passes a run of white space that holds at most one line ending. `continueLine` gives the
position at which the label continues on the next line, if it may. -/
def skipLabelSpace? (continueLine : Cursor → Option Cursor) (lineEnds : Nat) (cursor : Cursor) :
    (rounds : Nat) → Option Cursor
  | 0 => none
  | rounds + 1 =>
    let spaced := cursor.skipWhile isInlineSpace
    if spaced.isAtEnd || !spaced.isAtLineEnd then some spaced
    else if 0 < lineEnds then none
    else
      spaced.skipLineEnd?.bind fun next =>
        (continueLine next).bind fun start =>
          skipLabelSpace? continueLine (lineEnds + 1) start rounds

/-- Reads a label up to its closing bracket, given the position after the opening one. Inside it
there is no other opening bracket, and something other than white space. -/
def readLabel? (continueLine : Cursor → Option Cursor) (reader : LabelReader) :
    (rounds : Nat) → Option (Text × Cursor)
  | 0 => none
  | rounds + 1 =>
    match reader.cursor.rest with
    | [] => none
    | '[' :: _ => none
    | ']' :: _ =>
      if reader.label.all (· = ' ') then none else some (reader.label, reader.cursor.step)
    | '\\' :: escaped =>
      readLabel? continueLine
        { cursor := reader.cursor.advance 2, label := reader.label ++ '\\' :: escaped.take 1 }
        rounds
    | c :: _ =>
      if isMarkupSpace c then
        (skipLabelSpace? continueLine 0 reader.cursor (reader.cursor.rest.length + 1)).bind
          fun next =>
            readLabel? continueLine { cursor := next, label := reader.label ++ [' '] } rounds
      else
        readLabel? continueLine { cursor := reader.cursor.step, label := reader.label ++ [c] }
          rounds

/-- The label whose opening bracket stands before a position. -/
def labelAfter? (continueLine : Cursor → Option Cursor) (cursor : Cursor) :
    Option (Text × Cursor) :=
  readLabel? continueLine { cursor, label := [] } (cursor.rest.length + 1)

/-! ## Destinations -/

/-- The length of a destination between angle brackets, given what follows the first one. -/
def bracketedLength? : Text → Option Nat
  | [] => none
  | '\\' :: c :: rest =>
    if isAsciiPunctuation c then (bracketedLength? rest).map (· + 2)
    else (bracketedLength? (c :: rest)).map (· + 1)
  | c :: rest =>
    if c = '>' then some 0
    else if isLineEnd c || c = '<' then none
    else (bracketedLength? rest).map (· + 1)

/-- The length of a destination without brackets, in which at most `limit` parentheses are open
within one another. It ends before white space, control characters and the parenthesis that closes
none. -/
def plainLength? (limit : Nat) : (opened : Nat) → Text → Option Nat
  | opened, [] => if opened = 0 then some 0 else none
  | opened, '\\' :: c :: rest =>
    if isAsciiPunctuation c then (plainLength? limit opened rest).map (· + 2)
    else (plainLength? limit opened (c :: rest)).map (· + 1)
  | opened, c :: rest =>
    if c ≤ ' ' then if opened = 0 then some 0 else none
    else if c = '(' then
      if limit ≤ opened then none else (plainLength? limit (opened + 1) rest).map (· + 1)
    else if c = ')' then
      if opened = 0 then some 0 else (plainLength? limit (opened - 1) rest).map (· + 1)
    else (plainLength? limit opened rest).map (· + 1)

/-- Reads a destination, which may be empty. -/
def readDestination? (limit : Nat) (cursor : Cursor) : Option (Text × Cursor) :=
  match cursor.rest with
  | '<' :: rest =>
    (bracketedLength? rest).map fun length =>
      (decodeEscapes (rest.take length), cursor.advance (length + 2))
  | rest =>
    (plainLength? limit 0 rest).map fun length =>
      (decodeEscapes (rest.take length), cursor.advance length)

/-! ## Titles -/

/-- The character that ends a title that begins with a character. -/
def titleEnd? (opening : Char) : Option Char :=
  if opening = '(' then some ')'
  else if opening = '\x22' || opening = '\x27' then some opening
  else none

/-- The position at which a paragraph continues on the line that begins here. -/
def continuation (containers : List Container) (cursor : Cursor) : Cursor :=
  ((Margin.start cursor).skipContainers containers).2.skipBlanks.cursor

/-- Reads a title up to its end, and decodes it. -/
def readTitleRest? (containers : List Container) (opening closing : Char) (title : Text)
    (cursor : Cursor) : (rounds : Nat) → Option (Text × Cursor)
  | 0 => none
  | rounds + 1 =>
    let continueWith := fun (decoded : Text) (next : Cursor) =>
      readTitleRest? containers opening closing (title ++ decoded) next rounds
    match cursor.rest with
    | [] => none
    | c :: rest =>
      if c = closing then some (title, cursor.step)
      else if c = opening then none
      else if c = '\r' && rest.head? = some '\n' then continueWith ['\r'] cursor.step
      else if isLineEnd c then continueWith ['\n'] (continuation containers cursor.step)
      else if c = '&' then
        match Entity.read? rest with
        | some (decoded, after) =>
          continueWith decoded (cursor.advance (rest.length - after.length + 1))
        | none => continueWith [c] cursor.step
      else if c = '\\' then
        match rest with
        | escaped :: _ =>
          if isAsciiPunctuation escaped then continueWith [escaped] (cursor.advance 2)
          else continueWith [c] cursor.step
        | [] => none
      else continueWith [c] cursor.step

/-- Reads a title with its quotes or parentheses. -/
def readTitle? (containers : List Container) (cursor : Cursor) : Option (Text × Cursor) := do
  let opening ← cursor.next?
  let closing ← titleEnd? opening
  readTitleRest? containers opening closing [] cursor.step (cursor.rest.length + 1)

/-! ## Targets in parentheses -/

/-- How many parentheses may be open within one another in the destination of an inline link. -/
def inlineNesting : Nat :=
  6

/-- Reads the target of an inline link: a destination and perhaps a title in parentheses. -/
def readInline? (containers : List Container) (cursor : Cursor) : Option (LinkTarget × Cursor) := do
  let start := (← cursor.skipChar? '(').skipWhile isMarkupSpace
  let (destination, afterDestination) ← readDestination? inlineNesting start
  let spaced := afterDestination.skipWhile isMarkupSpace
  let (title, last) := match readTitle? containers spaced with
    | some (title, afterTitle) => (title, afterTitle.skipWhile isMarkupSpace)
    | none => ([], spaced)
  return ({ destination, title }, ← last.skipChar? ')')

end LinkTarget

/-! ## Addresses between angle brackets -/

namespace Autolink

def isSchemeChar (c : Char) : Bool :=
  isAsciiAlphanumeric c || c = '.' || c = '-' || c = '+'

/-- The length of an address with a scheme of two to 32 characters. -/
def addressLength? (text : Text) : Option Nat :=
  let scheme := text.takeWhile isSchemeChar
  let address := text.takeWhile fun c => ' ' < c && c != '<' && c != '>'
  if (scheme.head?.map isAsciiLetter).getD false && 2 ≤ scheme.length && scheme.length ≤ 32
    && text[scheme.length]? = some ':' && text[address.length]? = some '>'
  then some address.length
  else none

def isMailboxChar (c : Char) : Bool :=
  isAsciiAlphanumeric c || ".!#$%&\x27*+/=?^_\x60\x7b|\x7d~-".toList.contains c

/-- A label of a domain: letters, digits and inner hyphens, at most 63. -/
def isDomainLabel (label : Text) : Bool :=
  !label.isEmpty && label.length ≤ 63 && label.head? != some '-' && label.getLast? != some '-'
    && label.all fun c => isAsciiAlphanumeric c || c = '-'

/-- The length of an electronic mail address. -/
def emailLength? (text : Text) : Option Nat :=
  let mailbox := text.takeWhile isMailboxChar
  match text.dropWhile isMailboxChar with
  | '@' :: rest =>
    let domain := rest.takeWhile (· != '>')
    if !mailbox.isEmpty && (splitOn '.' domain).all isDomainLabel
      && domain.length < rest.length
    then some (mailbox.length + 1 + domain.length)
    else none
  | _ => none

/-- The kind and length of the address that is followed by the closing bracket. -/
def read? (text : Text) : Option (LinkKind × Nat) :=
  match addressLength? text with
  | some length => some (.ordinary, length)
  | none => (emailLength? text).map fun length => (.email, length)

end Autolink

end MarkdownDialect.CommonMark
