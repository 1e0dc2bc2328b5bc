import MarkdownDialect.Heading.Slug
import MarkdownDialect.Text.Escape
import MarkdownDialect.Text.Space

/-!
Identifiers of rendered headings: each `<h1>` to `<h6>` element that has none is given the slug of
its text.
-/

namespace MarkdownDialect.HeadingElement

open Text

/-- A heading element as it stands in HTML. The levels of its two tags may differ. -/
structure Element where
  level : Char
  attributes : Text
  content : Text
  closingLevel : Char
  deriving DecidableEq, Repr

def isLevelDigit (c : Char) : Bool :=
  '1' ≤ c && c ≤ '6'

/-- The attributes at the front of a text that follows a tag's name, and what follows the tag. -/
def readAttributes? : Text → Option (Text × Text)
  | [] => none
  | c :: rest =>
    if c = '>' then some ([], rest)
    else if isSpace c then breakOn ['>'] (c :: rest)
    else none

/-- A closing heading tag at the front of a text. -/
def readClosing? (text : Text) : Option (Char × Text) := do
  match ← "</h".toList.isPrefixOf? text with
  | level :: '>' :: rest => if isLevelDigit level then return (level, rest) else none
  | _ => none

/-- The content up to the next closing heading tag, and that tag's level. -/
def readContent? : Text → Option (Text × Char × Text)
  | [] => none
  | c :: rest =>
    match readClosing? (c :: rest) with
    | some (level, after) => some ([], level, after)
    | none =>
      (readContent? rest).map fun (content, level, after) => (c :: content, level, after)

/-- A heading element at the front of a text. -/
def read? (text : Text) : Option (Element × Text) := do
  match ← "<h".toList.isPrefixOf? text with
  | level :: rest =>
    if isLevelDigit level then
      let (attributes, rest) ← readAttributes? rest
      let (content, closingLevel, after) ← readContent? rest
      return ({ level, attributes, content, closingLevel }, after)
    else
      none
  | [] => none

/-- Whether the attributes hold an `id`, at their start or after white space. -/
def hasId (attributes : Text) : Bool :=
  startsId attributes || afterSpace attributes
where
  startsId (attributes : Text) : Bool :=
    match "id".toList.isPrefixOf? attributes with
    | some rest => (rest.dropWhile isSpace).head? = some '='
    | none => false
  afterSpace : Text → Bool
    | [] => false
    | c :: rest => (isSpace c && startsId rest) || afterSpace rest

/-- A tag at the front of a text, as nothing. -/
def dropTag? : Text → Option (Text × Text)
  | '<' :: rest => (breakOn ['>'] rest).map fun (_, after) => ([], after)
  | _ => none

def stripTags (html : Text) : Text :=
  replaceMatches dropTag? html

/-- The id that the content of a heading calls for. -/
def idOf (content : Text) : Text :=
  slug (trim (unescape (stripTags content)))

namespace Element

def openingTag (element : Element) (insertion : Text) : Text :=
  "<h".toList ++ [element.level] ++ insertion ++ element.attributes ++ ['>']

def html (element : Element) (insertion : Text) : Text :=
  element.openingTag insertion ++ element.content ++ "</h".toList ++ [element.closingLevel, '>']

/-- The id attribute that an element is given, if any: its tags agree, it has no id yet, and its
text is not empty. -/
def newId (element : Element) : Text :=
  let id := idOf element.content
  if element.level != element.closingLevel || hasId element.attributes || id.isEmpty then []
  else " id=\"".toList ++ id ++ ['\x22']

end Element

/-- Gives every heading element of a text its id. -/
def injectIds (html : Text) : Text :=
  replaceMatches (fun text => (read? text).map fun (element, after) =>
    (element.html element.newId, after)) html

end MarkdownDialect.HeadingElement
