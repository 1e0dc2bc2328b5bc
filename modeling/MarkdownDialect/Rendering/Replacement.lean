import MarkdownDialect.CommonMark.Element
import MarkdownDialect.Image

/-!
The elements that the dialect prints in its own way: images with hints, diagrams, and links that
open in a new tab. They are replaced by raw HTML in the sequence of events.
-/

namespace MarkdownDialect

open Text CommonMark

/-- What a rendering can be asked for. -/
structure RenderOptions where
  linksInNewTab : Bool := true
  headingIds : Bool := true
  /-- The caption of tables of contents. -/
  tocTitle : Option Text := none
  deriving DecidableEq, Repr

/-- The opening tag of a link that opens in a new tab. -/
def newTabTag (destination title : Text) : Text :=
  "<a".toList ++ Image.quotedAttribute "href".toList destination
    ++ (if title.isEmpty then [] else Image.quotedAttribute "title".toList title)
    ++ " target=\"_blank\" rel=\"noopener noreferrer\">".toList

namespace Diagram

/-- Fenced code is a diagram if the first word of its info string says so. -/
def isDiagram (info : Text) : Bool :=
  firstWord? info = some "mermaid".toList

def opening : Text :=
  "<div class=\"mermaid\">".toList

/-- The element in which a script draws the diagram. -/
def html (code : Text) : Text :=
  opening ++ escape (dropEndWhile (· = '\n') code) ++ "</div>\n".toList

end Diagram

/-- The element that is being replaced, with what is gathered of it so far. -/
inductive Gathering where
  | nothing
  /-- An image: its destination and title, the images open within it, and its description. -/
  | image (destination title : Text) (depth : Nat) (alt : Text)
  | diagram (code : Text)
  deriving DecidableEq, Repr

namespace Gathering

def htmlEvent (html : Text) : Event :=
  .leaf (.html html)

def imageHtml (destination title alt : Text) : Text :=
  (Image.ofDestination destination).html alt title

/-- An event outside everything that is replaced whole: what becomes of it, and what is gathered
after it. -/
def outside (options : RenderOptions) : Event → List Event × Gathering
  | .enter (.image destination title) => ([], image destination title 0 [])
  | .enter (.codeBlock (some info)) =>
    if Diagram.isDiagram info then ([], diagram [])
    else ([.enter (.codeBlock (some info))], nothing)
  | .enter (.link kind destination title) =>
    if options.linksInNewTab then ([htmlEvent (newTabTag destination title)], nothing)
    else ([.enter (.link kind destination title)], nothing)
  | .leave (.link kind destination title) =>
    if options.linksInNewTab then ([htmlEvent "</a>".toList], nothing)
    else ([.leave (.link kind destination title)], nothing)
  | other => ([other], nothing)

/-- An event within an image. Its description consists of the texts and codes at any depth. -/
def withinImage (destination title : Text) (depth : Nat) (alt : Text) :
    Event → List Event × Gathering
  | .enter (.image _ _) => ([], image destination title (depth + 1) alt)
  | .leave (.image _ _) =>
    if depth = 0 then ([htmlEvent (imageHtml destination title alt)], nothing)
    else ([], image destination title (depth - 1) alt)
  | .leaf (.text content) => ([], image destination title depth (alt ++ content))
  | .leaf (.code content) => ([], image destination title depth (alt ++ content))
  | _ => ([], image destination title depth alt)

def withinDiagram (code : Text) : Event → List Event × Gathering
  | .leave (.codeBlock _) => ([htmlEvent (Diagram.html code)], nothing)
  | .leaf (.text content) => ([], diagram (code ++ content))
  | _ => ([], diagram code)

def step (options : RenderOptions) : Gathering → Event → List Event × Gathering
  | nothing => outside options
  | image destination title depth alt => withinImage destination title depth alt
  | diagram code => withinDiagram code

/-- What is left when the events end. -/
def finish : Gathering → List Event
  | nothing => []
  | image destination title _ alt => [htmlEvent (imageHtml destination title alt)]
  | diagram code => [htmlEvent (Diagram.html code)]

def replace (options : RenderOptions) : Gathering → List Event → List Event
  | state, [] => state.finish
  | state, event :: rest =>
    let (events, next) := state.step options event
    events ++ next.replace options rest

end Gathering

/-- Replaces images, diagrams and, if asked for, links by raw HTML. -/
def replaceElements (options : RenderOptions) (events : List Event) : List Event :=
  Gathering.nothing.replace options events

end MarkdownDialect
