import MarkdownDialect.Theme

/-!
The stylesheet of exported documents. It consists of the colours of a theme, the rules for screens
and for paper, and whatever the export adds.
-/

namespace MarkdownDialect.Stylesheet

open Text

/-- A rule of the stylesheet. -/
inductive Rule where
  /-- A rule with every selector and every declaration on a line of its own. -/
  | block (selectors : List String) (declarations : List String)
  /-- A rule on a single line. -/
  | line (selector : String) (declarations : List String)
  deriving Repr

/-! ## Printing -/

def indentStep : Nat :=
  4

def indentation (width : Nat) : Text :=
  List.replicate width ' '

def blockText (width : Nat) (selector : Text) (lines : Text) : Text :=
  indentation width ++ selector ++ " \x7b\n".toList ++ lines ++ indentation width ++ ['\x7d']

def declarationLine (width : Nat) (declaration : Text) : Text :=
  indentation width ++ declaration ++ ";\n".toList

def Rule.text (width : Nat) : Rule → Text
  | block selectors declarations =>
    blockText width (joinWith (",\n".toList ++ indentation width) (selectors.map String.toList))
      (declarations.flatMap fun declaration =>
        declarationLine (width + indentStep) declaration.toList)
  | line selector declarations =>
    indentation width ++ selector.toList ++ " \x7b ".toList
      ++ joinWith "; ".toList (declarations.map String.toList) ++ "; \x7d".toList

/-- Groups of rules with a blank line between them. -/
def groupsText (width : Nat) (groups : List (List Rule)) : Text :=
  joinWith "\n\n".toList (groups.map fun rules => unlines (rules.map (Rule.text width)))

/-! ## Colours -/

/-- The colours of the two themes, the light one first. -/
def themeColors : List (String × String × String) :=
  [("bg", "#eff1f5", "#1e1e2e"),
    ("text", "#4c4f69", "#cdd6f4"),
    ("heading", "#4c4f69", "#cdd6f4"),
    ("link", "#1e66f5", "#89b4fa"),
    ("code-bg", "#e6e9ef", "#181825"),
    ("border", "#ccd0da", "#45475a"),
    ("blockquote", "#6c6f85", "#a6adc8"),
    ("mark", "#df8e1d", "#f9e2af"),
    ("mark-text", "#eff1f5", "#1e1e2e"),
    ("spoiler", "#9ca0b0", "#585b70"),
    ("note", "#1e66f5", "#89b4fa"),
    ("info", "#179299", "#94e2d5"),
    ("warning", "#fe640b", "#fab387"),
    ("danger", "#d20f39", "#f38ba8"),
    ("greentext", "#40a02b", "#a6e3a1")]

def themeColor (theme : Theme) (light dark : String) : String :=
  match theme with
  | .light => light
  | .dark => dark

def themeText (theme : Theme) : Text :=
  blockText 12 ":root".toList (themeColors.flatMap fun (name, light, dark) =>
    declarationLine 16
      ("--color-".toList ++ name.toList ++ ": ".toList ++ (themeColor theme light dark).toList))

/-! ## Rules -/

def screenRules : List (List Rule) :=
  [[.block ["*"] ["box-sizing: border-box"]],
    [.block ["body"]
       ["font-family: -apple-system, BlinkMacSystemFont, \"Segoe UI\", Helvetica, Arial, sans-serif",
        "font-size: 16px", "line-height: 1.6", "color: var(--color-text)",
        "background-color: var(--color-bg)", "max-width: 900px", "margin: 0 auto",
        "padding: 2rem"]],
    [.block [".markdown-body h1, .markdown-body h2, .markdown-body h3",
         ".markdown-body h4, .markdown-body h5, .markdown-body h6"]
       ["color: var(--color-heading)", "margin-top: 24px", "margin-bottom: 16px",
        "font-weight: 600", "line-height: 1.25"]],
    [.line ".markdown-body h1"
       ["font-size: 2em", "border-bottom: 1px solid var(--color-border)",
        "padding-bottom: .3em"],
      .line ".markdown-body h2"
        ["font-size: 1.5em", "border-bottom: 1px solid var(--color-border)",
         "padding-bottom: .3em"],
      .line ".markdown-body h3" ["font-size: 1.25em"],
      .line ".markdown-body h4" ["font-size: 1em"],
      .line ".markdown-body h5" ["font-size: .875em"],
      .line ".markdown-body h6" ["font-size: .85em", "color: var(--color-blockquote)"]],
    [.block [".markdown-body a"] ["color: var(--color-link)", "text-decoration: none"]],
    [.block [".markdown-body a:hover"] ["text-decoration: underline"]],
    [.block [".markdown-body code"]
       ["background-color: var(--color-code-bg)", "padding: .2em .4em", "border-radius: 6px",
        "font-size: 85%",
        "font-family: \"SFMono-Regular\", Consolas, \"Liberation Mono\", Menlo, monospace"]],
    [.block [".markdown-body pre"]
       ["background-color: var(--color-code-bg)", "padding: 16px", "overflow: auto",
        "border-radius: 6px", "line-height: 1.45"]],
    [.block [".markdown-body pre code"]
       ["background: transparent", "padding: 0", "font-size: 100%"]],
    [.block [".markdown-body blockquote"]
       ["margin: 16px 0", "padding: 0 1em", "color: var(--color-blockquote)",
        "border-left: .25em solid var(--color-border)"]],
    [.block [".markdown-body table"]
       ["border-collapse: collapse", "width: 100%", "margin: 16px 0"]],
    [.block [".markdown-body table th", ".markdown-body table td"]
       ["padding: 6px 13px", "border: 1px solid var(--color-border)"]],
    [.block [".markdown-body img"] ["max-width: 100%", "border-radius: 6px"]],
    [.block [".markdown-body input[type=\"checkbox\"]"] ["margin-right: 8px"]],
    [.block [".markdown-body mark"]
       ["background-color: var(--color-mark)", "color: var(--color-mark-text)",
        "padding: 0 .2em", "border-radius: 3px"]],
    [.block [".spoiler"]
       ["background-color: var(--color-spoiler)", "color: transparent", "border-radius: 3px",
        "cursor: pointer", "transition: color .2s"]],
    [.block [".spoiler:hover"] ["color: var(--color-text)", "background-color: transparent"]],
    [.block [".admonition"]
       ["margin: 16px 0", "padding: 8px 16px",
        "border-left: 4px solid var(--admonition-color, var(--color-border))",
        "background-color: var(--color-code-bg)", "border-radius: 0 6px 6px 0",
        "white-space: pre-line"]],
    [.block [".admonition-title"]
       ["font-weight: 600", "color: var(--admonition-color, var(--color-heading))",
        "margin-bottom: 4px"]],
    [.line ".admonition-note" ["--admonition-color: var(--color-note)"],
      .line ".admonition-info" ["--admonition-color: var(--color-info)"],
      .line ".admonition-warning" ["--admonition-color: var(--color-warning)"],
      .line ".admonition-danger" ["--admonition-color: var(--color-danger)"],
      .line ".admonition-greentext" ["--admonition-color: var(--color-greentext)"],
      .line ".admonition-greentext .admonition-content" ["color: var(--color-greentext)"]],
    [.block [".mermaid"] ["margin: 16px 0", "text-align: center"]],
    [.block [".toc"]
       ["background-color: var(--color-code-bg)", "padding: 16px 24px", "border-radius: 6px",
        "margin-bottom: 24px"]],
    [.block [".toc-title"] ["font-weight: 600", "margin-bottom: 12px"]],
    [.block [".toc ul"] ["margin: 0", "padding-left: 1.5em", "list-style-type: none"]],
    [.block [".toc a"] ["color: var(--color-link)", "text-decoration: none"]]]

def paperRules : List (List Rule) :=
  [[.block ["body"] ["max-width: none", "padding: 1cm"]],
    [.block [".spoiler"] ["color: var(--color-text)"]],
    [.block ["pre, blockquote, .admonition"] ["page-break-inside: avoid"]]]

/-- The style element of an exported document. -/
def html (theme : Theme) (custom : Text) : Text :=
  "<style>\n        \n".toList ++ themeText theme ++ "\n\n".toList ++ groupsText 8 screenRules
    ++ "\n\n".toList
    ++ blockText 8 "@media print".toList (groupsText 12 paperRules ++ ['\n'])
    ++ "\n\n        ".toList ++ custom ++ "\n    </style>".toList

end MarkdownDialect.Stylesheet
