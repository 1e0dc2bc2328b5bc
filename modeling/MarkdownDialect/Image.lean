import MarkdownDialect.Text.Escape
import MarkdownDialect.Text.Number
import MarkdownDialect.Text.Space

/-!
Images whose destination carries hints: a size in braces at the end, and a marker `#left` or
`#right` anywhere. The hints are taken off the destination and become a style.
-/

namespace MarkdownDialect

open Text

/-- An extent of an image in one direction. -/
inductive Extent where
  /-- What a hint means that is out of range or cannot be read. -/
  | auto
  | pixels (count : Nat)
  | percent (count : Nat)
  | viewportWidth (count : Nat)
  | viewportHeight (count : Nat)
  deriving DecidableEq, Repr

namespace Extent

def maxPixels : Nat :=
  4000

/-- The largest count of the units that are relative to something. -/
def maxRelative : Nat :=
  500

def css : Extent → Text
  | auto => "auto".toList
  | pixels count => ofNat count ++ "px".toList
  | percent count => ofNat count ++ "%".toList
  | viewportWidth count => ofNat count ++ "vw".toList
  | viewportHeight count => ofNat count ++ "vh".toList

/-- An extent of so many units. A number without a unit counts pixels. -/
def ofUnit? (count : Nat) (unit : Text) : Option Extent :=
  if (unit = "px".toList || unit.isEmpty) && count ≤ maxPixels then some (pixels count)
  else if unit = "%".toList && count ≤ maxRelative then some (percent count)
  else if unit = "vw".toList && count ≤ maxRelative then some (viewportWidth count)
  else if unit = "hw".toList && count ≤ maxRelative then some (viewportHeight count)
  else none

/-- Reads an extent: a number and its unit, with white space around both. -/
def ofText? (raw : Text) : Option Extent := do
  let size := trim raw
  let count ← readDecimal bound32 (size.takeWhile Char.isDigit)
  ofUnit? count (size.dropWhile Char.isDigit)

/-- Reads an extent; what cannot be read is `auto`. -/
def ofText (raw : Text) : Extent :=
  (ofText? raw).getD auto

/-- Reads `W` or `H` on either side of the first `x` where both sides are extents, given the
characters before. -/
def ofCross? : (before : Text) → Text → Option (Extent × Extent)
  | _, [] => none
  | before, c :: rest =>
    if c = 'x' || c = 'X' then
      match ofText? before, ofText? rest with
      | some width, some height => some (width, height)
      | _, _ => ofCross? (before ++ [c]) rest
    else
      ofCross? (before ++ [c]) rest

/-- Reads `W`, `W:H` or `WxH`. -/
def ofPair (size : Text) : Extent × Option Extent :=
  match breakOn [':'] size with
  | some (width, height) => (ofText width, some (ofText height))
  | none =>
    match ofCross? [] size with
    | some (width, height) => (width, some height)
    | none => (ofText size, none)

end Extent

/-- The side on which an image floats. -/
inductive Float where
  | left
  | right
  deriving DecidableEq, Repr

namespace Float

def name : Float → Text
  | left => "left".toList
  | right => "right".toList

def marker (side : Float) : Text :=
  '#' :: side.name

/-- The margin of a floating image, on the sides where text flows past it. -/
def margin : Float → Text
  | left => "0 1rem 1rem 0".toList
  | right => "0 0 1rem 1rem".toList

/-- The side whose marker a destination holds; the left one comes first. -/
def of? (destination : Text) : Option Float :=
  [left, right].find? fun side => has side.marker destination

end Float

/-- An image with its hints taken off the destination. -/
structure Image where
  source : Text
  width : Option Extent
  height : Option Extent
  float : Option Float
  deriving DecidableEq, Repr

namespace Image

/-- The parts of `base{size}`, neither of which is empty. -/
def splitSize? (destination : Text) : Option (Text × Text) := do
  let inner ← ['\x7d'].isSuffixOf? destination
  let (base, size) ← breakOnLast '\x7b' inner
  if base.isEmpty || size.isEmpty then none else return (base, size)

def ofDestination (destination : Text) : Image :=
  let float := Float.of? destination
  let unfloated := match float with
    | some side => removeFirst side.marker destination
    | none => destination
  match splitSize? unfloated with
  | some (base, size) =>
    let (width, height) := Extent.ofPair size
    { source := base, width := some width, height, float }
  | none => { source := unfloated, width := none, height := none, float }

/-- The declarations of an image's style. -/
def declarations (image : Image) : List Text :=
  (image.width.map fun width => "width: ".toList ++ width.css ++ [';']).toList
    ++ (image.height.map fun height => "height: ".toList ++ height.css ++ [';']).toList
    ++ (image.float.map fun side =>
      "float: ".toList ++ side.name ++ "; margin: ".toList ++ side.margin ++ [';']).toList

/-- The style of an image, empty when it has no hints. -/
def style (image : Image) : Text :=
  joinWith [' '] image.declarations

/-- An attribute with its value escaped. -/
def quotedAttribute (name value : Text) : Text :=
  [' '] ++ name ++ "=\"".toList ++ escape value ++ ['\x22']

def html (image : Image) (alt title : Text) : Text :=
  "<img".toList ++ quotedAttribute "src".toList image.source ++ quotedAttribute "alt".toList alt
    ++ (if title.isEmpty then [] else quotedAttribute "title".toList title)
    ++ (if image.style.isEmpty then [] else " style=\"".toList ++ image.style ++ ['\x22'])
    ++ " />".toList

end Image

end MarkdownDialect
