import MarkdownDialect.Directive.Color
import MarkdownDialect.Text.Number
import MarkdownDialect.Text.Pattern

/-!
Underlines: `!~text~!`, with up to four slots before the text, `!~colour;style;lines;width;text~!`.
-/

namespace MarkdownDialect

open Text

/-- How an underline is drawn. -/
inductive LineStyle where
  | solid
  | double
  | dotted
  | dashed
  | wavy
  deriving DecidableEq, Repr, Inhabited

namespace LineStyle

def all : List LineStyle :=
  [solid, double, dotted, dashed, wavy]

/-- The CSS value, which is also the keyword of the directive. -/
def css : LineStyle → Text
  | solid => "solid".toList
  | double => "double".toList
  | dotted => "dotted".toList
  | dashed => "dashed".toList
  | wavy => "wavy".toList

/-- Reads a keyword in any letter case. -/
def ofText? (raw : Text) : Option LineStyle :=
  all.find? fun style => style.css = toLower raw

end LineStyle

/-- Which lines an underline draws. -/
inductive Decoration where
  | underline
  | lineThrough
  | overline
  | both
  deriving DecidableEq, Repr, Inhabited

namespace Decoration

def all : List Decoration :=
  [underline, lineThrough, overline, both]

def keyword : Decoration → Text
  | underline => "underline".toList
  | lineThrough => "line-through".toList
  | overline => "overline".toList
  | both => "both".toList

/-- The CSS value; only `both` is spelled differently from its keyword. -/
def css : Decoration → Text
  | both => "underline overline".toList
  | other => other.keyword

/-- Reads a keyword in any letter case. -/
def ofText? (raw : Text) : Option Decoration :=
  all.find? fun decoration => decoration.keyword = toLower raw

end Decoration

/-- An underline directive. A slot is `none` when it is left out, empty or spelled `default`. -/
structure Underline where
  color : Option Color
  style : Option LineStyle
  decoration : Option Decoration
  /-- The thickness in pixels, at least one. -/
  thickness : Option Nat
  text : Text
  deriving DecidableEq, Repr

namespace Underline

/-- How many slots may stand before the text. -/
def slotCount : Nat :=
  4

/-- The content of a slot that does not ask for the default. -/
def slot? (slots : List Text) (position : Nat) : Option Text := do
  let content ← slots[position]?
  if content.isEmpty || toLowerAscii content = "default".toList then none else return content

/-- Reads a slot that may be left out: `none` when its content is malformed. -/
def readSlot? {α : Type} (read : Text → Option α) : Option Text → Option (Option α)
  | none => some none
  | some content => (read content).map some

def readThickness? (content : Text) : Option Nat :=
  (readSignedDecimal bound32 content).filter (0 < ·)

/-- Reads the body of a directive. There is none without a text, with too many slots, or with a
malformed slot. -/
def ofBody? (body : Text) : Option Underline := do
  let parts := (splitOn ';' body).map trim
  let text ← parts.getLast?
  let slots := parts.dropLast
  if text.isEmpty || slotCount < slots.length then
    none
  else
    return {
      color := (slot? slots 0).map Color.ofText
      style := ← readSlot? LineStyle.ofText? (slot? slots 1)
      decoration := ← readSlot? Decoration.ofText? (slot? slots 2)
      thickness := ← readSlot? readThickness? (slot? slots 3)
      text }

/-- The `text-decoration` value of an underline. -/
def decorationCss (palette : Palette) (underline : Underline) : Text :=
  (underline.decoration.getD .underline).css ++ [' '] ++ (underline.style.getD .solid).css ++ [' ']
    ++ (underline.color.map (Color.css palette)).getD "currentColor".toList

def html (palette : Palette) (underline : Underline) : Text :=
  "<span style=\"text-decoration: ".toList ++ underline.decorationCss palette
    ++ "; text-decoration-thickness: ".toList ++ ofNat (underline.thickness.getD 1)
    ++ "px;\">".toList ++ underline.text ++ "</span>".toList

def pattern : Pattern :=
  .sequence [
    .literal "!~".toList,
    .group 1 (.oneOrFew fun c => isInLine c && c != '~'),
    .literal "~!".toList]

/-- A directive with a malformed body stays as it is. -/
def expansion (palette : Palette) (captures : Pattern.Captures) : Text :=
  match ofBody? (captures.text 1) with
  | some underline => underline.html palette
  | none => captures.text 0

/-- Draws every well-formed `!~…~!`. -/
def expand (palette : Palette) (text : Text) : Text :=
  pattern.replaceAll (expansion palette) text

end Underline

end MarkdownDialect
