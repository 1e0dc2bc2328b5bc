import MarkdownDialect.Text.LetterCase
import MarkdownDialect.Text.Space

/-!
Admonitions: a header line `!!! kind title` with the indented lines below it. A block becomes a
single line of HTML, so that nothing that counts from the start of a line can match inside it.
-/

namespace MarkdownDialect

open Text

inductive AdmonitionKind where
  | note
  | info
  | warning
  | danger
  | greentext
  deriving DecidableEq, Repr

namespace AdmonitionKind

def all : List AdmonitionKind :=
  [note, info, warning, danger, greentext]

/-- The keyword of the directive, which is also part of the CSS class. -/
def name : AdmonitionKind → Text
  | note => "note".toList
  | info => "info".toList
  | warning => "warning".toList
  | danger => "danger".toList
  | greentext => "greentext".toList

/-- Reads a keyword in any letter case. -/
def ofText? (raw : Text) : Option AdmonitionKind :=
  all.find? fun kind => kind.name = toLower raw

/-- The title of a block that gives none: its keyword with a capital. -/
def defaultTitle (kind : AdmonitionKind) : Text :=
  match kind.name with
  | [] => []
  | first :: rest => first.toUpper :: rest

end AdmonitionKind

structure Admonition where
  kind : AdmonitionKind
  title : Text
  body : List Text
  deriving DecidableEq, Repr

namespace Admonition

/-- What follows the keyword of a header: nothing, or a blank and the rest of a single line. -/
def isTitlePart : Text → Bool
  | [] => true
  | c :: rest => isBlank c && !rest.contains '\n'

/-- Reads a header line. The block has no body yet. -/
def ofHeader? (line : Text) : Option Admonition := do
  let rest := (← "!!!".toList.isPrefixOf? line).dropWhile isBlank
  let kind ← AdmonitionKind.ofText? (rest.takeWhile isAsciiLetter)
  let titlePart := rest.dropWhile isAsciiLetter
  if isTitlePart titlePart then
    let title := trim titlePart
    return { kind, title := if title.isEmpty then kind.defaultTitle else title, body := [] }
  else
    none

/-- What separates the body lines in the HTML. -/
def bodySeparator : Text :=
  "<br/>".toList

def html (admonition : Admonition) : Text :=
  "<div class=\"admonition admonition-".toList ++ admonition.kind.name
    ++ "\"><div class=\"admonition-title\">".toList ++ admonition.title
    ++ "</div><div class=\"admonition-content\">".toList
    ++ joinWith bodySeparator admonition.body ++ "</div></div>".toList

/-- The indentation of body lines. -/
def indentation : Text :=
  "    ".toList

/-- The content of a body line: what follows the indentation, without a carriage return at the
end. A line that has nothing there belongs to no body. -/
def bodyLine? (line : Text) : Option Text := do
  let (content, _) := stripReturn (← indentation.isPrefixOf? line)
  if content.isEmpty then none else return content

/-- The body lines at the front of `lines`, and the lines that remain. -/
def takeBody : List Text → List Text × List Text
  | [] => ([], [])
  | line :: rest =>
    match bodyLine? line with
    | some content => ((content :: (takeBody rest).1), (takeBody rest).2)
    | none => ([], line :: rest)

theorem length_takeBody_le (rest : List Text) : (takeBody rest).2.length ≤ rest.length := by
  induction rest with
  | nil => simp [takeBody]
  | cons line rest induction =>
      unfold takeBody
      split
      · exact Nat.le_succ_of_le induction
      · exact Nat.le_refl _

/-- Replaces each header and its body by one line; the carriage return of the header stays. -/
def expandLines : List Text → List Text
  | [] => []
  | line :: rest =>
    let (header, hadReturn) := stripReturn line
    match ofHeader? header with
    | some admonition =>
      ({ admonition with body := (takeBody rest).1 }.html ++ returnIf hadReturn)
        :: expandLines (takeBody rest).2
    | none => line :: expandLines rest
termination_by lines => lines.length
decreasing_by
  · exact Nat.lt_succ_of_le (length_takeBody_le rest)
  · exact Nat.lt_succ_self _

/-- Expands every admonition block of a text. -/
def expand (text : Text) : Text :=
  unlines (expandLines (lines text))

end Admonition

end MarkdownDialect
