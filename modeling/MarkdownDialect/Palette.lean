import MarkdownDialect.Text.LetterCase
import MarkdownDialect.Text.Space

/-!
The palette of colour names: the standard entries and the entries that override or extend them.
Names are compared in lower case, and the last entry written for a name is the one that counts.
-/

namespace MarkdownDialect

open Text

/-- Colour names in lower case, each once, with their CSS values. -/
structure Palette where
  entries : List (Text × Text)
  deriving DecidableEq, Repr

namespace Palette

def standardColors : List (String × String) :=
  [("red", "#f38ba8"), ("green", "#a6e3a1"), ("blue", "#89b4fa"), ("yellow", "#f9e2af"),
    ("orange", "#fab387"), ("purple", "#cba6f7"), ("pink", "#f5c2e7"), ("violet", "#cba6f7"),
    ("cyan", "#89dceb"), ("magenta", "#f5c2e7"), ("lime", "#a6e3a1"), ("indigo", "#89b4fa"),
    ("teal", "#94e2d5"), ("brown", "#eba0ac"), ("gray", "#9399b2"), ("grey", "#9399b2"),
    ("black", "#11111b"), ("white", "#cdd6f4"), ("lavender", "#b4befe"), ("peach", "#fab387"),
    ("maroon", "#eba0ac"), ("sky", "#89dceb"), ("sapphire", "#74c7ec"), ("rosewater", "#f5e0dc"),
    ("flamingo", "#f2cdcd"), ("mauve", "#cba6f7")]

def standard : Palette :=
  ⟨standardColors.map fun (name, value) => (name.toList, value.toList)⟩

/-- Writes an entry over the one of the same name, or behind all others if there is none. -/
def setEntry (name value : Text) : List (Text × Text) → List (Text × Text)
  | [] => [(name, value)]
  | entry :: rest =>
    if entry.1 = name then (name, value) :: rest else entry :: setEntry name value rest

/-- Adds an override; white space around the name and the value does not count. -/
def override (palette : Palette) (name value : Text) : Palette :=
  ⟨setEntry (toLower (trim name)) (trim value) palette.entries⟩

/-- The standard palette with overrides applied in their order. -/
def withOverrides (overrides : List (Text × Text)) : Palette :=
  overrides.foldl (fun palette (name, value) => palette.override name value) standard

def find? (palette : Palette) (name : Text) : Option Text :=
  palette.entries.lookup (toLower name)

/-- The CSS value of a name. A name that the palette does not hold stands for itself. -/
def resolve (palette : Palette) (name : Text) : Text :=
  (palette.find? name).getD name

def contains (palette : Palette) (name : Text) : Bool :=
  (palette.find? name).isSome

def size (palette : Palette) : Nat :=
  palette.entries.length

end Palette

end MarkdownDialect
