import MarkdownDialect.CommonMark.Cursor
import MarkdownDialect.CommonMark.Entity
import MarkdownDialect.Text.Space

/-!
The tokens of a line of text: what may become emphasis, links, code or raw HTML, what is replaced at
once, and the text between.
-/

namespace MarkdownDialect.CommonMark

open Text

inductive TokenKind where
  | text
  | softBreak
  | hardBreak
  /-- A character reference or typographic punctuation, with what replaces it. -/
  | replaced (content : Text)
  /-- A run of equal delimiters of emphasis. -/
  | delimiters (mark : Char) (count : Nat) (canOpen canClose : Bool)
  | quote (mark : Char) (canOpen canClose : Bool)
  /-- A run of backticks; a backslash may stand before it. -/
  | backticks (count : Nat) (escaped : Bool)
  | angle
  | linkOpening
  | imageOpening
  | closing
  deriving DecidableEq, Repr

structure Token where
  start : Cursor
  stop : Nat
  kind : TokenKind
  deriving Repr

namespace Token

/-- The text of a token as it stands in the source. -/
def source (token : Token) : Text :=
  token.start.sliceTo token.stop

/-- The part of a token that does not stand before an offset. -/
def clip (token : Token) (offset : Nat) : Token :=
  { token with start := token.start.seek offset }

/-! ## Flanking -/

/-- Whether a delimiter between two characters can open emphasis or a quotation. -/
def canOpen (mark : Char) (before next : Option Char) : Bool :=
  match next, before with
  | none, _ => false
  | some next, none => !isSpace next
  | some next, some before =>
    !isSpace next &&
      ((mark = '*' && !isPunctuation next) || isSpace before
        || (isPunctuation before && !(mark = '\x27' && (before = ']' || before = ')'))))

/-- Whether a delimiter between two characters can close emphasis or a quotation. -/
def canClose (mark : Char) (before next : Option Char) : Bool :=
  match before, next with
  | none, _ => false
  | some before, none => !isSpace before
  | some before, some next =>
    !isSpace before &&
      ((mark = '*' && !isPunctuation before) || isSpace next || isPunctuation next)

/-! ## Marks -/

/-- What begins at a position within a line. -/
inductive Mark where
  /-- So many characters of ordinary text. -/
  | plain (length : Nat)
  /-- A backslash before a character that is then ordinary text. -/
  | escape
  /-- A token of so many characters, after some that belong to none. -/
  | token (kind : TokenKind) (dropped length : Nat)
  deriving Repr

/-- The dashes that so many hyphens stand for: em dashes as far as they go evenly, else en
dashes, else both. -/
def dashes (count : Nat) : Text :=
  let (ems, ens) :=
    if count % 3 = 0 then (count / 3, 0)
    else if count % 2 = 0 then (0, count / 2)
    else if count % 3 = 1 then (count / 3 - 1, 2)
    else (count / 3, 1)
  List.replicate ems '—' ++ List.replicate ens '–'

/-- A run of the delimiter that stands here. Tildes delimit only in pairs. -/
def delimiterRun (mark : Char) (here : Cursor) : Mark :=
  let count := here.count (· = mark)
  let next := (here.advance count).next?
  let opens := canOpen mark here.before next
  let closes := canClose mark here.before next
  if (opens || closes) && (mark != '~' || count = 2) then
    .token (.delimiters mark count opens closes) 0 count
  else
    .plain count

/-- What begins with a character, given the position at which it stands. -/
def markAt (c : Char) (here : Cursor) : Mark :=
  match c with
  | '\\' =>
    match here.step.next? with
    | some '\x60' =>
      let count := here.step.count (· = '\x60')
      .token (.backticks count true) 1 count
    | some next => if isAsciiPunctuation next then .escape else .plain 1
    | none => .plain 1
  | '*' | '_' | '~' => delimiterRun c here
  | '\x60' =>
    let count := here.count (· = '\x60')
    .token (.backticks count false) 0 count
  | '<' => .token .angle 0 1
  | '!' => if here.step.next? = some '[' then .token .imageOpening 0 2 else .plain 1
  | '[' => .token .linkOpening 0 1
  | ']' => .token .closing 0 1
  | '&' =>
    match Entity.read? here.step.rest with
    | some (content, after) => .token (.replaced content) 0 (here.rest.length - after.length)
    | none => .plain 1
  | '.' => if here.startsWith "...".toList then .token (.replaced ['…']) 0 3 else .plain 1
  | '-' =>
    let count := here.count (· = '-')
    if count = 1 then .plain 1 else .token (.replaced (dashes count)) 0 count
  | '\x22' | '\x27' =>
    let next := here.step.next?
    .token (.quote c (canOpen c here.before next) (canClose c here.before next)) 0 1
  | _ => .plain 1

end Token

/-! ## Lines -/

/-- A line of text that is read into tokens. -/
structure TokenLine where
  tokens : List Token
  /-- The break at the end of the line, which counts if another line follows. -/
  ending : Option Token
  /-- Where the line ends. -/
  next : Cursor
  deriving Repr

namespace TokenLine

/-- The text between a position and an offset, as a token unless it is empty. -/
def textToken (start : Cursor) (stop : Nat) : List Token :=
  if start.offset < stop then [{ start, stop, kind := .text }] else []

def prepend (tokens : List Token) (line : TokenLine) : TokenLine :=
  { line with tokens := tokens ++ line.tokens }

/-- How many blanks at the end of a line make a hard break. -/
def hardBreakWidth : Nat :=
  2

/-- The end of a line at a position, with the text that runs up to it. A line that ends with a
backslash, unless the document ends after it, or with two blanks ends with a hard break. -/
def finish (textStart here : Cursor) (afterBackslash : Bool) : TokenLine :=
  let next := here.skipLineEnd?.getD here
  let blanks := ((textStart.sliceTo here.offset).reverse.takeWhile isInlineSpace).length
  let hardBreakAt (offset : Nat) : TokenLine :=
    { tokens := textToken textStart offset
      ending := some { start := textStart.seek offset, stop := next.offset, kind := .hardBreak }
      next }
  if afterBackslash && !next.isAtEnd then hardBreakAt (here.offset - 1)
  else if hardBreakWidth ≤ blanks then hardBreakAt (here.offset - blanks)
  else
    { tokens := textToken textStart here.offset
      ending := some { start := here, stop := next.offset, kind := .softBreak }
      next }

/-- Reads the tokens up to the end of the line, or in a table cell up to the next pipe. The first
`skip` characters belong to something that is already read; `textStart` is where the text began
that runs up to here, and `afterBackslash` tells whether an unescaped backslash stands before. -/
def read (inCell : Bool) (skip : Nat) (textStart : Cursor) (afterBackslash : Bool)
    (before : Option Char) (offset : Nat) : Text → TokenLine
  | [] =>
    let here : Cursor := { before, offset, rest := [] }
    { tokens := textToken textStart offset, ending := none, next := here }
  | c :: rest =>
    let here : Cursor := { before, offset, rest := c :: rest }
    let continueWith (skip : Nat) (textStart : Cursor) : TokenLine :=
      read inCell skip textStart (skip = 0 && c = '\\') (some c) (offset + 1) rest
    match skip with
    | skip + 1 => read inCell skip textStart false (some c) (offset + 1) rest
    | 0 =>
      if inCell && (isLineEnd c || c = '|') then
        { tokens := textToken textStart offset, ending := none, next := here }
      else if isLineEnd c then
        finish textStart here afterBackslash
      else
        match Token.markAt c here with
        | .plain length => continueWith (length - 1) textStart
        | .escape => (continueWith 1 here.step).prepend (textToken textStart offset)
        | .token kind dropped length =>
          let start := here.advance dropped
          let stop := start.offset + length
          (continueWith (dropped + length - 1) (start.seek stop)).prepend
            (textToken textStart offset ++ [{ start, stop, kind }])

/-- The tokens of the line that begins at a position. -/
def ofCursor (cursor : Cursor) : TokenLine :=
  read false 0 cursor false cursor.before cursor.offset cursor.rest

/-- The tokens of the table cell that begins at a position. -/
def ofCell (cursor : Cursor) : TokenLine :=
  read true 0 cursor false cursor.before cursor.offset cursor.rest

/-- The backslash that made the end of a line a hard break, as text. -/
def finalBackslash (line : TokenLine) : List Token :=
  match line.ending with
  | some { start, kind := .hardBreak, .. } =>
    if start.next? = some '\\' then textToken start (start.offset + 1) else []
  | _ => []

end TokenLine

end MarkdownDialect.CommonMark
