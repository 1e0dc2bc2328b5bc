import MarkdownDialect.Text.Basic

/-!
Patterns, which are regular expressions with captures and with anchors for the ends of lines, and
the replacement of their matches. Where a pattern can match in more than one way, the way that it
prefers counts.
-/

namespace MarkdownDialect

open Text

inductive Pattern where
  | empty
  /-- One character of a class. -/
  | char (inClass : Char → Bool)
  /-- The start of the text or the place behind a line feed. -/
  | lineStart
  /-- The end of the text or the place before a line feed. -/
  | lineEnd
  | seq (first second : Pattern)
  /-- One of two patterns, preferably the first. -/
  | either (first second : Pattern)
  /-- Any number of characters of a class, preferably many. -/
  | many (inClass : Char → Bool)
  /-- Any number of characters of a class, preferably few. -/
  | few (inClass : Char → Bool)
  /-- A pattern whose text is captured under a number. -/
  | group (number : Nat) (inner : Pattern)

namespace Pattern

def sequence (patterns : List Pattern) : Pattern :=
  patterns.foldr seq empty

def literal (text : Text) : Pattern :=
  sequence (text.map fun c => char (· = c))

def oneOrMany (inClass : Char → Bool) : Pattern :=
  seq (char inClass) (many inClass)

def oneOrFew (inClass : Char → Bool) : Pattern :=
  seq (char inClass) (few inClass)

def exactly (count : Nat) (inClass : Char → Bool) : Pattern :=
  sequence (List.replicate count (char inClass))

/-- A pattern or nothing, preferably the pattern. -/
def optional (pattern : Pattern) : Pattern :=
  either pattern empty

/-! ## Matching -/

/-- The captured texts under the numbers of their groups. -/
abbrev Captures := List (Nat × Text)

def Captures.text (captures : Captures) (number : Nat) : Text :=
  (captures.lookup number).getD []

/-- What a match has read when it comes to some place in the text. -/
structure Trace where
  atLineStart : Bool
  /-- What the innermost open group has read, the last character first. -/
  read : Text := []
  captures : Captures := []

namespace Trace

def push (trace : Trace) (c : Char) : Trace :=
  { trace with atLineStart := c = '\n', read := c :: trace.read }

/-- The trace within a group that begins here. -/
def openGroup (trace : Trace) : Trace :=
  { trace with read := [] }

/-- The trace behind a group that began at `trace` and has come to its end at `inside`. -/
def closeGroup (trace inside : Trace) (number : Nat) : Trace :=
  { inside with
    read := inside.read ++ trace.read
    captures := (number, inside.read.reverse) :: inside.captures }

end Trace

section Run

variable {α : Type}

def runMany (inClass : Char → Bool) (next : Trace → Text → Option α) : Trace → Text → Option α
  | trace, [] => next trace []
  | trace, c :: rest =>
    if inClass c then
      runMany inClass next (trace.push c) rest <|> next trace (c :: rest)
    else
      next trace (c :: rest)

def runFew (inClass : Char → Bool) (next : Trace → Text → Option α) : Trace → Text → Option α
  | trace, [] => next trace []
  | trace, c :: rest =>
    next trace (c :: rest) <|>
      if inClass c then runFew inClass next (trace.push c) rest else none

/-- Matches a pattern and goes on with `next`. When that fails, the pattern tries its other ways to
match, in the order in which it prefers them. -/
def run : Pattern → (Trace → Text → Option α) → Trace → Text → Option α
  | empty, next => next
  | char inClass, next => fun trace text =>
    match text with
    | [] => none
    | c :: rest => if inClass c then next (trace.push c) rest else none
  | lineStart, next => fun trace text => if trace.atLineStart then next trace text else none
  | lineEnd, next => fun trace text => if text.head?.all (· = '\n') then next trace text else none
  | seq first second, next => first.run (second.run next)
  | either first second, next => fun trace text =>
    first.run next trace text <|> second.run next trace text
  | many inClass, next => runMany inClass next
  | few inClass, next => runFew inClass next
  | group number inner, next => fun trace =>
    inner.run (fun inside => next (trace.closeGroup inside number)) trace.openGroup

end Run

/-- The captures of a match at the front of a text. The whole match is number zero. -/
def captures? (pattern : Pattern) (atLineStart : Bool) (text : Text) : Option Captures :=
  (group 0 pattern).run (fun trace _ => some trace.captures) { atLineStart } text

/-! ## Replacement -/

/-- Cuts a text at the leftmost matches of a pattern, each beginning after the one before it has
ended: into the captures of the matches, and the characters between them. A match of nothing is
passed over. -/
def cut (pattern : Pattern) (text : Text) : List (Char ⊕ Captures) :=
  go true 0 text
where
  /-- The first `skip` characters belong to the match before them. -/
  go : Bool → Nat → Text → List (Char ⊕ Captures)
    | _, _, [] => []
    | _, skip + 1, c :: rest => go (c = '\n') skip rest
    | atLineStart, 0, c :: rest =>
      match pattern.captures? atLineStart (c :: rest) with
      | none => .inl c :: go (c = '\n') 0 rest
      | some captures =>
        match captures.text 0 with
        | [] => .inl c :: go (c = '\n') 0 rest
        | _ :: more => .inr captures :: go (c = '\n') more.length rest

/-- Replaces the leftmost matches of a pattern, given what takes the place of each. -/
def replaceAll (pattern : Pattern) (replacement : Captures → Text) (text : Text) : Text :=
  (pattern.cut text).flatMap (pieceText replacement)

end Pattern

end MarkdownDialect
