import MarkdownDialect.Text.LetterCase

/-!
Slugs, by which headings are linked: lower case, with one hyphen for every run of characters that
are no ASCII letters, digits or underscores. Hyphens at the ends stay.
-/

namespace MarkdownDialect

open Text

/-- An ASCII letter or digit, or an underscore. -/
def isSlugWord (c : Char) : Bool :=
  isAsciiAlphanumeric c || c = '_'

/-- Collapses runs. After a character of a run the rest of the run adds nothing. -/
def collapseRuns : (inRun : Bool) → Text → Text
  | _, [] => []
  | inRun, c :: rest =>
    if isSlugWord c then c :: collapseRuns false rest
    else if inRun then collapseRuns true rest
    else '-' :: collapseRuns true rest

def slug (text : Text) : Text :=
  collapseRuns false (toLower text)

end MarkdownDialect
