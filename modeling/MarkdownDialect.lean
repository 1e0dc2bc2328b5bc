import MarkdownDialect.Export.Saving
import MarkdownDialect.FileTree.Access
import MarkdownDialect.Main
import MarkdownDialect.Proofs.Text.Lines
import MarkdownDialect.Proofs.Text.Replacement
import MarkdownDialect.Proofs.Text.Pattern
import MarkdownDialect.Proofs.Text.PatternReading
import MarkdownDialect.Proofs.Text.Markup
import MarkdownDialect.Proofs.Directive.BetweenBlanks
import MarkdownDialect.Proofs.Directive.ColoredText
import MarkdownDialect.Proofs.Directive.Highlight
import MarkdownDialect.Proofs.Directive.Underline
import MarkdownDialect.Proofs.Directive.InlinePattern
import MarkdownDialect.Proofs.Directive.WholeLine
import MarkdownDialect.Proofs.Directive.WholeLinePattern
import MarkdownDialect.Proofs.Directive.Admonition
import MarkdownDialect.Proofs.Stage.Composition
import MarkdownDialect.Proofs.Palette
import MarkdownDialect.Proofs.Directive.LineBreak
import MarkdownDialect.Proofs.Stage.Settled
import MarkdownDialect.Proofs.Stage.SecondPass
import MarkdownDialect.Proofs.Directive.UnderlineSpelling
import MarkdownDialect.Proofs.Stage.Writing
import MarkdownDialect.Proofs.Stage.Rendition
import MarkdownDialect.Proofs.Heading.Element
import MarkdownDialect.Proofs.Heading.Injection
import MarkdownDialect.Proofs.Text.Escape
import MarkdownDialect.Proofs.Heading.Extraction
import MarkdownDialect.Proofs.Heading.Toc
import MarkdownDialect.Proofs.Heading.Attribute
import MarkdownDialect.Proofs.Heading.Links
import MarkdownDialect.Proofs.Heading.SecondInjection
import MarkdownDialect.Proofs.Text.Unescape
import MarkdownDialect.Proofs.Heading.Printing
import MarkdownDialect.Proofs.Text.HtmlToken
import MarkdownDialect.Proofs.Heading.ListReading
import MarkdownDialect.Proofs.Heading.TocNesting
import MarkdownDialect.Proofs.Encoding.Utf8
import MarkdownDialect.Proofs.Encoding.Utf16
import MarkdownDialect.Proofs.Encoding.Reading
import MarkdownDialect.Proofs.CommonMark.Printing
import MarkdownDialect.Proofs.CommonMark.Address
import MarkdownDialect.Proofs.Rendering.Centering
import MarkdownDialect.Proofs.Rendering.Replacement
import MarkdownDialect.Proofs.Rendering.LinkTarget
import MarkdownDialect.Proofs.Text.LineEnding
import MarkdownDialect.Proofs.Directive.LineEnding
import MarkdownDialect.Proofs.Directive.AdmonitionEnding
import MarkdownDialect.Proofs.Stage.LineEnding
import MarkdownDialect.Proofs.Palette.Overrides
import MarkdownDialect.Proofs.Rendering.MarkerFilling
import MarkdownDialect.Proofs.CommandLine.Arguments
import MarkdownDialect.Proofs.CommandLine.Effect
import MarkdownDialect.Proofs.FileTree.Session
import MarkdownDialect.Proofs.Directive.ColorCapture
import MarkdownDialect.Proofs.Directive.AdmonitionWriting
import MarkdownDialect.Proofs.Heading.FencedCode
import MarkdownDialect.Proofs.Settings.Writing
import MarkdownDialect.Proofs.CommonMark.Forest
import MarkdownDialect.Proofs.Rendering.TreeReplacement
import MarkdownDialect.Proofs.Rendering.ImageDescription
import MarkdownDialect.Proofs.Heading.Spelling
import MarkdownDialect.Proofs.Directive.UnderlineWriting
import MarkdownDialect.Proofs.Image.Extent
import MarkdownDialect.Proofs.Image.Hint
import MarkdownDialect.Proofs.Image.Style
import MarkdownDialect.Proofs.Image.Tag
import MarkdownDialect.Proofs.FileTree.SizeLimit
import MarkdownDialect.Proofs.CommandLine.Writing
import MarkdownDialect.Proofs.Stage.BlockPass
import MarkdownDialect.Proofs.Stage.PlainText
import MarkdownDialect.Proofs.Directive.HighlightTag
import MarkdownDialect.Proofs.Export.SuggestedPath
import MarkdownDialect.Proofs.Palette.LastOverride
import MarkdownDialect.Proofs.Heading.SlugForm
import MarkdownDialect.Proofs.Text.EscapedForm
