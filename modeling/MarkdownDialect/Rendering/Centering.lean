import MarkdownDialect.CommonMark.Element
import MarkdownDialect.Heading
import MarkdownDialect.Text.Number

/-!
Centred headings: `# -> Title <-` in the first three levels. The arrows are taken off, and the
heading is printed with a style of its own.
-/

namespace MarkdownDialect

open Text CommonMark

namespace Centering

/-- Joins texts that stand next to one another. -/
def mergeTexts : List Event → List Event
  | [] => []
  | .leaf (.text content) :: rest =>
    match mergeTexts rest with
    | .leaf (.text following) :: others => .leaf (.text (content ++ following)) :: others
    | others => .leaf (.text content) :: others
  | event :: rest => event :: mergeTexts rest

/-- The text of an event, if it is one. -/
def textOf : Event → Text
  | .leaf (.text content) => content
  | _ => []

/-- Changes the text of an event, if it is one. -/
def mapText (change : Text → Text) : Event → Event
  | .leaf (.text content) => .leaf (.text (change content))
  | event => event

def onFirst (change : Text → Text) : List Event → List Event
  | [] => []
  | event :: rest => mapText change event :: rest

def onLast (change : Text → Text) (events : List Event) : List Event :=
  (onFirst change events.reverse).reverse

/-- Takes the arrows off, and the white space at the ends of the heading. -/
def stripArrows (events : List Event) : List Event :=
  onLast trimEnd (onFirst trimStart (events.map (mapText Heading.stripArrows)))

def openingTag (level : Nat) : Text :=
  "<h".toList ++ ofNat level ++ " style=\"text-align: center;\">".toList

def closingTag (level : Nat) : Text :=
  "</h".toList ++ ofNat level ++ ">\n".toList

/-- A heading with the events within it; `last` holds the event that ends it. -/
def heading (level : Nat) (inner : List Event) (last : List Event) : List Event :=
  let merged := mergeTexts inner
  if Heading.isCentered level (merged.flatMap textOf) then
    .leaf (.html (openingTag level)) :: stripArrows merged ++ [.leaf (.html (closingTag level))]
  else
    .enter (.heading level) :: merged ++ last

/-- Centres the headings, given the one that is open with its events so far. -/
def go : Option (Nat × List Event) → List Event → List Event
  | none, [] => []
  | some (level, inner), [] => heading level inner []
  | none, .enter (.heading level) :: rest => go (some (level, [])) rest
  | none, event :: rest => event :: go none rest
  | some (level, inner), .leave (.heading closed) :: rest =>
    heading level inner [.leave (.heading closed)] ++ go none rest
  | some (level, inner), event :: rest => go (some (level, inner ++ [event])) rest

end Centering

/-- Prints the centred headings as such. -/
def centerHeadings (events : List Event) : List Event :=
  Centering.go none events

end MarkdownDialect
