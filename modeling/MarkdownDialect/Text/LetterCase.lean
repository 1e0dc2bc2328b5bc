import MarkdownDialect.Text.LetterCase.Context
import MarkdownDialect.Text.LetterCase.Folding
import MarkdownDialect.Text.LetterCase.Lowering

/-!
Lower case and case folding by the full Unicode mappings. One mapping looks at its surroundings:
a capital sigma that ends a word becomes a final sigma.
-/

namespace MarkdownDialect.Text

/-- The lower case of a character that is not a capital sigma, which may be two characters. -/
def lowerChar (c : Char) : Text :=
  if c.toNat < 128 then
    [c.toLower]
  else if c = 'İ' then
    ['i', '\u0307']
  else
    [(mapByRuns loweringRuns c).getD c]

/-- Whether the nearest character that is not ignorable has a case. -/
def seesCased (text : Text) : Bool :=
  match text.dropWhile isCaseIgnorable with
  | [] => false
  | c :: _ => isCased c

/-- Lower case, given the characters before the text, the nearest first. -/
def lowerAfter : Text → Text → Text
  | _, [] => []
  | before, c :: rest =>
    (if c = 'Σ' then
      if seesCased before && !seesCased rest then ['ς'] else ['σ']
    else
      lowerChar c) ++ lowerAfter (c :: before) rest

def toLower (text : Text) : Text :=
  lowerAfter [] text

/-- The full case folding, by which texts are compared without regard to case. -/
def foldChar (c : Char) : Text :=
  match foldingExpansions.lookup c.toNat with
  | some codes => codes.map Char.ofNat
  | none =>
    match mapByRuns foldingRuns c with
    | some folded => [folded]
    | none => if c = 'Σ' then ['σ'] else lowerChar c

def foldCase (text : Text) : Text :=
  text.flatMap foldChar

/-- Lower case of the ASCII letters alone. -/
def toLowerAscii (text : Text) : Text :=
  text.map Char.toLower

def isAsciiLetter (c : Char) : Bool :=
  c.isAlpha

def isAsciiAlphanumeric (c : Char) : Bool :=
  c.isAlphanum

end MarkdownDialect.Text
