import MarkdownDialect.CommonMark.Element
import MarkdownDialect.Encoding.Utf8
import MarkdownDialect.Text.Number

/-!
Documents as HTML. The events of a document are printed one after the other. A printer remembers
whether it stands at the start of a line, the numbers of the footnotes, and where it is in a table
or in the description of an image.
-/

namespace MarkdownDialect.CommonMark

open Text

/-! ## Escaping -/

/-- Escapes what ends a text or a quoted attribute. The apostrophe stays. -/
def escapeContent (text : Text) : Text :=
  text.flatMap fun c =>
    if c = '&' then "&amp;".toList
    else if c = '<' then "&lt;".toList
    else if c = '>' then "&gt;".toList
    else if c = '\x22' then "&quot;".toList
    else [c]

/-- The characters that stand for themselves in the address of a link. -/
def isAddressChar (c : Char) : Bool :=
  c.isAlphanum || "!#$%()*+,-./:;=?@_~".toList.contains c

/-- A byte as a percent sign and two hexadecimal digits. -/
def percentEscape (byte : UInt8) : Text :=
  ['%', hexDigit (byte.toNat / 16), hexDigit (byte.toNat % 16)]

/-- Escapes the address of a link: other characters become the escapes of their UTF-8 bytes. -/
def escapeAddress (address : Text) : Text :=
  address.flatMap fun c =>
    if isAddressChar c then [c]
    else if c = '&' then "&amp;".toList
    else if c = '\x27' then "&#x27;".toList
    else (Utf8.encode [c]).flatMap percentEscape

/-! ## Printing -/

/-- An image whose description is being printed. -/
structure OpenImage where
  /-- How many elements are open in the description. -/
  depth : Nat
  title : Text
  deriving DecidableEq, Repr

structure Printer where
  atLineStart : Bool
  /-- The labels of the footnotes met so far, in the order of their numbers. -/
  footnotes : List Text
  columns : List ColumnAlignment
  inTableHead : Bool
  /-- The column of the next table cell. -/
  column : Nat
  image : Option OpenImage
  deriving DecidableEq, Repr

namespace Printer

def initial : Printer :=
  { atLineStart := true, footnotes := [], columns := [], inTableHead := true, column := 0,
    image := none }

/-- The line feed that a block needs before it. -/
def freshLine (printer : Printer) : Text :=
  if printer.atLineStart then [] else ['\n']

/-- The number of a footnote; a label that is new gets the next one. -/
def footnoteNumber (printer : Printer) (label : Text) : Nat :=
  match printer.footnotes.findIdx? (· = label) with
  | some index => index + 1
  | none => printer.footnotes.length + 1

def withFootnote (printer : Printer) (label : Text) : Printer :=
  if printer.footnotes.contains label then printer
  else { printer with footnotes := printer.footnotes ++ [label] }

def headingName (level : Nat) : Text :=
  'h' :: ofNat level

def cellName (printer : Printer) : Text :=
  if printer.inTableHead then "th".toList else "td".toList

def alignmentStyle : ColumnAlignment → Text
  | .unset => []
  | .left => " style=\"text-align: left\"".toList
  | .center => " style=\"text-align: center\"".toList
  | .right => " style=\"text-align: right\"".toList

def titleAttribute (title : Text) : Text :=
  if title.isEmpty then [] else "\" title=\"".toList ++ escapeContent title

/-- The language of fenced code is the first word of its info string. -/
def languageClass : Option Text → Text
  | none => []
  | some info =>
    match info.takeWhile (· != ' ') with
    | [] => []
    | language => " class=\"language-".toList ++ escapeContent language ++ ['\x22']

/-- The scheme that an address lacks. -/
def addressScheme : LinkKind → Text
  | .ordinary => []
  | .email => "mailto:".toList

def enterText (printer : Printer) : Tag → Text
  | .paragraph => printer.freshLine ++ "<p>".toList
  | .heading level => printer.freshLine ++ ['<'] ++ headingName level ++ ['>']
  | .quote => printer.freshLine ++ "<blockquote>\n".toList
  | .codeBlock info =>
    printer.freshLine ++ "<pre><code".toList ++ languageClass info ++ ['>']
  | .list none => printer.freshLine ++ "<ul>\n".toList
  | .list (some first) =>
    printer.freshLine ++ if first = 1 then "<ol>\n".toList
      else "<ol start=\"".toList ++ ofNat first ++ "\">\n".toList
  | .item => printer.freshLine ++ "<li>".toList
  | .footnote label =>
    printer.freshLine ++ "<div class=\"footnote-definition\" id=\"".toList ++ escapeContent label
      ++ "\"><sup class=\"footnote-definition-label\">".toList
      ++ ofNat (printer.footnoteNumber label) ++ "</sup>".toList
  | .table _ => "<table>".toList
  | .tableHead => "<thead><tr>".toList
  | .tableRow => "<tr>".toList
  | .tableCell =>
    ['<'] ++ printer.cellName
      ++ alignmentStyle (printer.columns[printer.column]?.getD .unset) ++ ['>']
  | .emphasis => "<em>".toList
  | .strong => "<strong>".toList
  | .strikethrough => "<del>".toList
  | .link kind destination title =>
    "<a href=\"".toList ++ addressScheme kind ++ escapeAddress destination
      ++ titleAttribute title ++ "\">".toList
  | .image destination _ => "<img src=\"".toList ++ escapeAddress destination ++ "\" alt=\"".toList

def leaveText (printer : Printer) : Tag → Text
  | .paragraph => "</p>\n".toList
  | .heading level => "</".toList ++ headingName level ++ ">\n".toList
  | .quote => "</blockquote>\n".toList
  | .codeBlock _ => "</code></pre>\n".toList
  | .list none => "</ul>\n".toList
  | .list (some _) => "</ol>\n".toList
  | .item => "</li>\n".toList
  | .footnote _ => "</div>\n".toList
  | .table _ => "</tbody></table>\n".toList
  | .tableHead => "</tr></thead><tbody>\n".toList
  | .tableRow => "</tr>\n".toList
  | .tableCell => "</".toList ++ printer.cellName ++ ['>']
  | .emphasis => "</em>".toList
  | .strong => "</strong>".toList
  | .strikethrough => "</del>".toList
  | .link _ _ _ => "</a>".toList
  | .image _ _ => []

def leafText (printer : Printer) : Leaf → Text
  | .text content => escapeContent content
  | .code content => "<code>".toList ++ escapeContent content ++ "</code>".toList
  | .html content => content
  | .softBreak => ['\n']
  | .hardBreak => "<br />\n".toList
  | .rule => printer.freshLine ++ "<hr />\n".toList
  | .footnoteReference label =>
    "<sup class=\"footnote-reference\"><a href=\"#".toList ++ escapeContent label
      ++ "\">".toList ++ ofNat (printer.footnoteNumber label) ++ "</a></sup>".toList
  | .taskMarker true => "<input disabled=\"\" type=\"checkbox\" checked=\"\"/>\n".toList
  | .taskMarker false => "<input disabled=\"\" type=\"checkbox\"/>\n".toList

/-- A leaf within the description of an image, which has no elements. -/
def descriptionText (printer : Printer) : Leaf → Text
  | .text content | .code content | .html content => escapeContent content
  | .softBreak | .hardBreak | .rule => [' ']
  | .footnoteReference label => ['['] ++ ofNat (printer.footnoteNumber label) ++ [']']
  | .taskMarker true => "[x]".toList
  | .taskMarker false => "[ ]".toList

/-- What is printed for an event. -/
def eventText (printer : Printer) : Event → Text
  | .enter tag => if printer.image.isSome then [] else printer.enterText tag
  | .leave tag =>
    match printer.image with
    | none => printer.leaveText tag
    | some image =>
      if image.depth = 0 then titleAttribute image.title ++ "\" />".toList else []
  | .leaf leaf =>
    if printer.image.isSome then printer.descriptionText leaf else printer.leafText leaf

/-- Where the printer stands after a tag is entered. -/
def afterEnter (printer : Printer) : Tag → Printer
  | .footnote label => printer.withFootnote label
  | .table columns => { printer with columns }
  | .tableHead => { printer with inTableHead := true, column := 0 }
  | .tableRow => { printer with column := 0 }
  | .image _ title => { printer with image := some { depth := 0, title } }
  | _ => printer

def afterLeave (printer : Printer) : Tag → Printer
  | .tableHead => { printer with inTableHead := false }
  | .tableCell => { printer with column := printer.column + 1 }
  | _ => printer

/-- Everything that an event changes, except for the place in the line. -/
def afterEvent (printer : Printer) : Event → Printer
  | .enter tag =>
    match printer.image with
    | none => printer.afterEnter tag
    | some image => { printer with image := some { image with depth := image.depth + 1 } }
  | .leave tag =>
    match printer.image with
    | none => printer.afterLeave tag
    | some image =>
      if image.depth = 0 then { printer with image := none }
      else { printer with image := some { image with depth := image.depth - 1 } }
  | .leaf (.footnoteReference label) => printer.withFootnote label
  | .leaf _ => printer

/-- Whether a line starts after an event. Only a text that is empty counts as printed; other
empty output leaves the place as it is. -/
def startsLine (printer : Printer) (event : Event) : Bool :=
  match event, (printer.eventText event).getLast? with
  | _, some last => last = '\n'
  | .leaf (.text _), none => false
  | _, none => printer.atLineStart

def next (printer : Printer) (event : Event) : Printer :=
  { printer.afterEvent event with atLineStart := printer.startsLine event }

def print (printer : Printer) : List Event → Text
  | [] => []
  | event :: rest => printer.eventText event ++ (printer.next event).print rest

end Printer

/-- The HTML of a sequence of events. -/
def htmlOf (events : List Event) : Text :=
  Printer.initial.print events

end MarkdownDialect.CommonMark
