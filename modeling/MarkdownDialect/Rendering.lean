import MarkdownDialect.CommonMark.Document
import MarkdownDialect.CommonMark.Html
import MarkdownDialect.Heading.Identifier
import MarkdownDialect.Heading.Toc
import MarkdownDialect.Rendering.Centering
import MarkdownDialect.Rendering.Replacement
import MarkdownDialect.Stage

/-!
Rendering a document: its directives are expanded, the result is read as Markdown and printed as
HTML, and the HTML is completed with tables of contents and the ids of headings.
-/

namespace MarkdownDialect

open Text CommonMark

/-- Renders Markdown whose directives are already expanded. -/
def renderFragment (options : RenderOptions) (markdown : Text) : Text :=
  htmlOf (centerHeadings (replaceElements options (eventsOf (elementsOf markdown))))

namespace Toc

def caption : Option Text → Text
  | none => []
  | some title => "<div class=\"toc-title\">".toList ++ escape title ++ "</div>\n".toList

/-- A table of contents in its navigation element; nothing if it has no entries. -/
def navigation (title : Option Text) (headings : List Heading) (start : Nat) : Text :=
  match build headings start with
  | [] => []
  | toc => "<nav class=\"toc\">\n".toList ++ caption title ++ toc ++ "\n</nav>".toList

end Toc

/-- Fills the markers for tables of contents from the headings of the source, and gives headings
their ids. -/
def completeHtml (options : RenderOptions) (html source : Text) : Text :=
  let headings := Heading.extract source
  let filled := TocMarker.fill (Toc.navigation options.tocTitle headings) html
  if options.headingIds then HeadingElement.injectIds filled else filled

/-- Renders a document with directives. -/
def render (palette : Palette) (options : RenderOptions) (source : Text) : Text :=
  completeHtml options (renderFragment options (expandDirectives palette source)) source

/-- The table of contents of a document, from a level that is brought into the range of heading
levels. -/
def tableOfContents (options : RenderOptions) (source : Text) (start : Nat) : Text :=
  Toc.navigation options.tocTitle (Heading.extract source) (TocMarker.clampLevel start)

end MarkdownDialect
