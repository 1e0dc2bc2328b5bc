import MarkdownDialect.Text.Basic

/-!
Paths as texts. A path is an optional root followed by components between slashes; empty components
and single dots count for nothing, except for a dot that begins a path.
-/

namespace MarkdownDialect

open Text

abbrev Path :=
  Text

namespace Path

/-- What stands before the components of a path. -/
inductive Base where
  | root
  /-- A single dot that begins the path. -/
  | dot
  | nothing
  deriving DecidableEq, Repr

/-- A path taken apart at its slashes. -/
structure Parts where
  base : Base
  components : List Text
  deriving DecidableEq, Repr

def currentName : Text :=
  ['.']

def parentName : Text :=
  ['.', '.']

def parts (path : Path) : Parts :=
  match path with
  | '/' :: rest => { base := .root, components := splitOn '/' rest }
  | _ =>
    match splitOn '/' path with
    | ['.'] :: rest => { base := .dot, components := rest }
    | components => { base := .nothing, components }

/-- Whether a component stands for something. -/
def counts (component : Text) : Bool :=
  !component.isEmpty && component != currentName

namespace Parts

def text (parts : Parts) : Path :=
  let body := joinWith ['/'] parts.components
  match parts.base with
  | .root => '/' :: body
  | .dot => if parts.components.isEmpty then currentName else currentName ++ '/' :: body
  | .nothing => body

/-- The parts up to the last component that counts. -/
def trimmed (parts : Parts) : Parts :=
  { parts with
    components := (parts.components.reverse.dropWhile fun component => !counts component).reverse }

end Parts

/-- The last component, unless the path ends with its root, a leading dot or two dots. -/
def fileName? (path : Path) : Option Text :=
  (path.parts.trimmed.components.getLast?).filter (· != parentName)

/-- The path without its last component. The root and the empty path have no parent. -/
def parent? (path : Path) : Option Path :=
  let trimmed := path.parts.trimmed
  if trimmed.components.isEmpty then
    if trimmed.base = .dot then some [] else none
  else
    some (Parts.trimmed { trimmed with components := trimmed.components.dropLast }).text

/-- A file name taken apart at its last dot. A dot at the beginning of a name is no such dot. -/
def splitName (name : Text) : Text × Option Text :=
  match breakOnLast '.' name with
  | none | some ([], _) => (name, none)
  | some (stem, extension) => (stem, some extension)

/-- The file name without its extension. -/
def stem? (path : Path) : Option Text :=
  path.fileName?.map fun name => (splitName name).1

def extension? (path : Path) : Option Text :=
  path.fileName?.bind fun name => (splitName name).2

/-- The path of a name in a directory; the empty path adds nothing to the name. -/
def join (directory : Path) (name : Text) : Path :=
  match directory.getLast? with
  | none => name
  | some last => if last = '/' then directory ++ name else directory ++ '/' :: name

end Path

end MarkdownDialect
