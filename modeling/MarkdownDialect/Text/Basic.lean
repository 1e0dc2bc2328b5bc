/-!
Text as the list of its characters: its lines, the places where one text occurs in another, and
the replacement of leftmost matches.
-/

namespace MarkdownDialect

/-- A text is the list of its characters. -/
abbrev Text := List Char

namespace Text

/-! ## Pieces and lines -/

/-- The pieces between the occurrences of `separator`; one more than there are occurrences. -/
def splitOn (separator : Char) : Text → List Text
  | [] => [[]]
  | c :: rest =>
    if c = separator then
      [] :: splitOn separator rest
    else
      match splitOn separator rest with
      | [] => [[c]]
      | piece :: pieces => (c :: piece) :: pieces

/-- The lines of a text, which are the pieces between its line feeds. -/
def lines (text : Text) : List Text :=
  splitOn '\n' text

def joinWith (separator : Text) (pieces : List Text) : Text :=
  List.intercalate separator pieces

def unlines (pieces : List Text) : Text :=
  joinWith ['\n'] pieces

/-- Changes every line on its own and keeps the line feeds between them. -/
def onLines (changeLine : Text → Text) (text : Text) : Text :=
  unlines ((lines text).map changeLine)

/-- Whether a character is neither a carriage return nor a line feed. -/
def isInLine (c : Char) : Bool :=
  c != '\r' && c != '\n'

/-- A line without the carriage return that may end it, and whether there was one. -/
def stripReturn (line : Text) : Text × Bool :=
  match ['\r'].isSuffixOf? line with
  | some shorter => (shorter, true)
  | none => (line, false)

/-- The carriage return that `stripReturn` took off. -/
def returnIf (hadReturn : Bool) : Text :=
  if hadReturn then ['\r'] else []

/-! ## Occurrences -/

def has (needle : Text) : Text → Bool
  | [] => needle.isEmpty
  | c :: rest => needle.isPrefixOf (c :: rest) || has needle rest

/-- What stands before and after the first occurrence of `needle`. -/
def breakOn (needle : Text) : Text → Option (Text × Text)
  | [] => if needle.isEmpty then some ([], []) else none
  | c :: rest =>
    match needle.isPrefixOf? (c :: rest) with
    | some after => some ([], after)
    | none => (breakOn needle rest).map fun (before, after) => (c :: before, after)

/-- What stands before and after the last occurrence of `needle`. -/
def breakOnLast (needle : Char) (text : Text) : Option (Text × Text) :=
  (breakOn [needle] text.reverse).map fun (after, before) => (before.reverse, after.reverse)

def removeFirst (needle text : Text) : Text :=
  match breakOn needle text with
  | some (before, after) => before ++ after
  | none => text

/-! ## Replacement -/

/-- Replaces the leftmost matches of `find`, each beginning after the one before it has ended. At
the front of a text `find` gives the replacement of a match and the text that follows the match. -/
def replaceMatches (find : Text → Option (Text × Text)) (text : Text) : Text :=
  go 0 text
where
  /-- The first `skip` characters belong to a match that is already replaced. -/
  go : Nat → Text → Text
    | _, [] => []
    | skip + 1, _ :: rest => go skip rest
    | 0, c :: rest =>
      match find (c :: rest) with
      | some (replacement, after) => replacement ++ go (rest.length - after.length) rest
      | none => c :: go 0 rest

/-- The leftmost matches of `find` that `replaceMatches` replaces. -/
def findMatches {α : Type} (find : Text → Option (α × Text)) (text : Text) : List α :=
  go 0 text
where
  /-- The first `skip` characters belong to a match that is already found. -/
  go : Nat → Text → List α
    | _, [] => []
    | skip + 1, _ :: rest => go skip rest
    | 0, c :: rest =>
      match find (c :: rest) with
      | some (found, after) => found :: go (rest.length - after.length) rest
      | none => go 0 rest

/-- The text of a piece that is a character or something found, given the texts of what is found. -/
def pieceText {α : Type} (textOf : α → Text) : Char ⊕ α → Text
  | .inl c => [c]
  | .inr item => textOf item

/-- Replaces the occurrences of a non-empty `old`, from the left and without overlap. -/
def replaceAll (old new : Text) (text : Text) : Text :=
  replaceMatches (fun rest => (old.isPrefixOf? rest).map fun after => (new, after)) text

end Text

end MarkdownDialect
