import MarkdownDialect.Export.Format
import MarkdownDialect.Export.Stylesheet
import MarkdownDialect.Rendering

/-!
Exports: a source as Markdown with its directives expanded, or as an HTML document of its own.
-/

namespace MarkdownDialect

open Text

/-- What an HTML export can be asked for. -/
structure ExportOptions where
  includeStyles : Bool := true
  title : Option Text := none
  theme : Theme := .light
  /-- What is added to the stylesheet. -/
  customCss : Option Text := none
  includeToc : Bool := false
  deriving DecidableEq, Repr

namespace HtmlDocument

def defaultTitle : Text :=
  "Document".toList

def diagramModule : String :=
  "https://cdn.jsdelivr.net/npm/mermaid@10/dist/mermaid.esm.min.mjs"

/-- The script that draws diagrams. -/
def diagramScript : Text :=
  unlines (["<script type=\"module\">",
    "        import mermaid from \"" ++ diagramModule ++ "\";",
    "        mermaid.initialize(\x7b startOnLoad: true \x7d);",
    "    </script>"].map String.toList)

/-- An HTML document with its parts in their places. -/
def page (title styles toc content scripts : Text) : Text :=
  unlines [
    "<!DOCTYPE html>".toList,
    "<html lang=\"en\">".toList,
    "<head>".toList,
    "    <meta charset=\"UTF-8\">".toList,
    "    <meta name=\"viewport\" content=\"width=device-width, initial-scale=1.0\">".toList,
    "    <meta name=\"generator\" content=\"awsm-md\">".toList,
    "    <title>".toList ++ escape title ++ "</title>".toList,
    "    ".toList ++ styles,
    "</head>".toList,
    "<body>".toList,
    "    <article class=\"markdown-body\">".toList,
    "        ".toList ++ toc,
    "        ".toList ++ content,
    "    </article>".toList,
    "    ".toList ++ scripts,
    "</body>".toList,
    "</html>".toList]

/-- The HTML document of a source. A script is included only if there are diagrams. -/
def ofSource (palette : Palette) (rendering : RenderOptions) (options : ExportOptions)
    (source : Text) : Text :=
  let content := render palette rendering source
  page (options.title.getD defaultTitle)
    (if options.includeStyles then Stylesheet.html options.theme (options.customCss.getD [])
      else [])
    (if options.includeToc then tableOfContents rendering source 1 else [])
    content
    (if has Diagram.opening content then diagramScript else [])

end HtmlDocument

/-- Exports a source in a format. -/
def exportSource (palette : Palette) (rendering : RenderOptions) (options : ExportOptions)
    (format : ExportFormat) (source : Text) : Text :=
  match format with
  | .markdown => expandDirectives palette source
  | .html => HtmlDocument.ofSource palette rendering options source

end MarkdownDialect
