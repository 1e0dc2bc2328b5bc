import MarkdownDialect.Directive.Admonition
import MarkdownDialect.Directive.Alignment
import MarkdownDialect.Directive.Highlight
import MarkdownDialect.Directive.Spoiler
import MarkdownDialect.Directive.TocMarker
import MarkdownDialect.Directive.Underline

/-!
The dialect as a pipeline of stages. Each stage expands one kind of directive to Markdown with
embedded HTML, and no stage can fail.
-/

namespace MarkdownDialect

open Text

inductive Stage where
  | spoiler
  | coloredText
  | highlight
  | underline
  | alignment
  | admonition
  | tocPlaceholder
  /-- A backslash with an `n` after it becomes a line break. -/
  | lineBreak
  deriving DecidableEq, Repr

namespace Stage

/-- The stages that work within a line, in their order. -/
def inline : List Stage :=
  [spoiler, coloredText, highlight, underline, alignment]

/-- The stages for whole lines and blocks, in their order. -/
def block : List Stage :=
  [admonition, tocPlaceholder]

/-- All stages, in the order in which a document goes through them. -/
def pipeline : List Stage :=
  inline ++ block ++ [lineBreak]

def name : Stage → Text
  | spoiler => "spoiler".toList
  | coloredText => "colored-text".toList
  | highlight => "highlight".toList
  | underline => "underline".toList
  | alignment => "alignment".toList
  | admonition => "admonition".toList
  | tocPlaceholder => "toc-placeholder".toList
  | lineBreak => "line-break".toList

def ofName? (raw : Text) : Option Stage :=
  pipeline.find? fun stage => stage.name = raw

def lineBreakHtml : Text :=
  "<br/>".toList

/-- Runs one stage by itself. -/
def apply (palette : Palette) : Stage → Text → Text
  | spoiler => Spoiler.expand
  | coloredText => ColoredText.expand palette
  | highlight => Highlight.expand
  | underline => Underline.expand palette
  | alignment => Alignment.expand
  | admonition => Admonition.expand
  | tocPlaceholder => TocMarker.expand
  | lineBreak => replaceAll ['\\', 'n'] lineBreakHtml

/-- Runs stages one after the other. -/
def applyAll (palette : Palette) (stages : List Stage) (text : Text) : Text :=
  stages.foldl (fun current stage => stage.apply palette current) text

/-- The stages that change the text on its way through `stages`, each with the text after it. -/
def steps (palette : Palette) : List Stage → Text → List (Stage × Text)
  | [], _ => []
  | stage :: stages, text =>
    let next := stage.apply palette text
    if next = text then
      steps palette stages next
    else
      (stage, next) :: steps palette stages next

end Stage

def expandInline (palette : Palette) (text : Text) : Text :=
  Stage.applyAll palette Stage.inline text

def expandBlocks (text : Text) : Text :=
  Stage.applyAll Palette.standard Stage.block text

/-- Expands every directive of a document. -/
def expandDirectives (palette : Palette) (text : Text) : Text :=
  Stage.applyAll palette Stage.pipeline text

end MarkdownDialect
