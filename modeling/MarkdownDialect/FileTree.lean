import MarkdownDialect.Encoding
import MarkdownDialect.Failure

/-!
Trees of files and directories, and where paths lead in them. A path is followed name by name from
the root or from the working directory; every name but the last has to be that of a directory.
-/

namespace MarkdownDialect

open Text

/-- The place of a file or directory: the names that lead to it from the root. -/
abbrev Location :=
  List Text

/-- The files and directories of a system. The root is always a directory. -/
structure FileTree where
  files : List (Location × Bytes) := []
  directories : List Location := []
  workingDirectory : Location := []
  deriving DecidableEq, Repr

/-! ## Errors -/

namespace SystemError

/-- An error with the words and the number that the system has for it. -/
def numbered (kind : SystemErrorKind) (words : String) (number : Nat) : SystemError :=
  { kind, words := words.toList ++ " (os error ".toList ++ ofNat number ++ ")".toList }

def noSuchFile : SystemError :=
  numbered .notFound "No such file or directory" 2

def busy : SystemError :=
  numbered .other "Device or resource busy" 16

def notADirectory : SystemError :=
  numbered .other "Not a directory" 20

def isADirectory : SystemError :=
  numbered .other "Is a directory" 21

def nameTooLong : SystemError :=
  numbered .other "File name too long" 36

/-- The error for paths with a NUL, which no file can have in its name. -/
def unexpectedNul : SystemError :=
  { kind := .other, words := "file name contained an unexpected NUL byte".toList }

end SystemError

namespace FileTree

/-! ## Entries -/

inductive Entry where
  | file (content : Bytes)
  | directory
  deriving DecidableEq, Repr

/-- The bytes of the file at a location. -/
def content? (tree : FileTree) (location : Location) : Option Bytes :=
  tree.files.lookup location

def isDirectory (tree : FileTree) (location : Location) : Bool :=
  location.isEmpty || tree.directories.contains location

def entry? (tree : FileTree) (location : Location) : Option Entry :=
  if tree.isDirectory location then some .directory
  else (tree.content? location).map .file

/-! ## Paths -/

/-- How many bytes a name has at most. -/
def nameLimit : Nat :=
  255

/-- How many bytes a path has at most. -/
def pathLimit : Nat :=
  4095

def byteLength (text : Text) : Nat :=
  (Utf8.encode text).length

/-- Looks up a name in a directory. -/
def lookUp (tree : FileTree) (directory : Location) (name : Text) :
    Except SystemError (Option Entry) :=
  if byteLength name > nameLimit then .error .nameTooLong
  else .ok (tree.entry? (directory ++ [name]))

/-- Follows the name of a directory. -/
def enter (tree : FileTree) (directory : Location) (name : Text) :
    Except SystemError Location :=
  if name = Path.currentName then .ok directory
  else if name = Path.parentName then .ok directory.dropLast
  else
    match tree.lookUp directory name with
    | .error error => .error error
    | .ok none => .error .noSuchFile
    | .ok (some (.file _)) => .error .notADirectory
    | .ok (some .directory) => .ok (directory ++ [name])

/-- Follows the names of directories. -/
def follow (tree : FileTree) : Location → List Text → Except SystemError Location
  | directory, [] => .ok directory
  | directory, name :: rest =>
    match tree.enter directory name with
    | .error error => .error error
    | .ok next => tree.follow next rest

/-- Where a path leads. -/
structure Target where
  /-- The directory that the last name belongs to. -/
  directory : Location
  /-- The last name. There is none if the path ends with its root, a dot or two dots, so that it
  leads to the directory itself. -/
  name : Option Text
  /-- Whether a slash follows the last name. -/
  slashed : Bool
  deriving DecidableEq, Repr

def Target.location (target : Target) : Location :=
  match target.name with
  | some name => target.directory ++ [name]
  | none => target.directory

/-- Where the names of a path begin. -/
def start (tree : FileTree) (path : Path) : Location :=
  if ['/'].isPrefixOf path then [] else tree.workingDirectory

/-- The names of a path. -/
def names (path : Path) : List Text :=
  (splitOn '/' path).filter fun name => !name.isEmpty

/-- The target of a path. The last name need not exist. -/
def target (tree : FileTree) (path : Path) : Except SystemError Target :=
  if path.contains '\x00' then .error .unexpectedNul
  else if byteLength path > pathLimit then .error .nameTooLong
  else if path.isEmpty then .error .noSuchFile
  else
    let last := (names path).getLast?.filter fun name =>
      name != Path.currentName && name != Path.parentName
    let leading := if last.isSome then (names path).dropLast else names path
    match tree.follow (tree.start path) leading with
    | .error error => .error error
    | .ok directory => .ok { directory, name := last, slashed := ['/'].isSuffixOf path }

/-- What is at a target. A slash after a name tells that it is the name of a directory. -/
def entryAt (tree : FileTree) (target : Target) : Except SystemError Entry :=
  match target.name with
  | none => .ok .directory
  | some name =>
    match tree.lookUp target.directory name with
    | .error error => .error error
    | .ok none => .error .noSuchFile
    | .ok (some .directory) => .ok .directory
    | .ok (some (.file content)) =>
      if target.slashed then .error .notADirectory else .ok (.file content)

/-- What a path leads to. -/
def find (tree : FileTree) (path : Path) : Except SystemError Entry :=
  match tree.target path with
  | .error error => .error error
  | .ok target => tree.entryAt target

/-! ## Changes -/

def putContent (location : Location) (content : Bytes) :
    List (Location × Bytes) → List (Location × Bytes)
  | [] => [(location, content)]
  | file :: rest =>
    if file.1 = location then (location, content) :: rest
    else file :: putContent location content rest

/-- The tree in which a location holds a file. -/
def put (tree : FileTree) (location : Location) (content : Bytes) : FileTree :=
  { tree with files := putContent location content tree.files }

/-- The tree in which a location holds no file. -/
def erase (tree : FileTree) (location : Location) : FileTree :=
  { tree with files := tree.files.filter fun file => file.1 != location }

/-- The tree in which a location is a directory. -/
def putDirectory (tree : FileTree) (location : Location) : FileTree :=
  if tree.isDirectory location then tree
  else { tree with directories := tree.directories ++ [location] }

/-- Follows names and makes directories of those that are none. -/
def makeDirectories (tree : FileTree) : Location → List Text → FileTree × Location
  | directory, [] => (tree, directory)
  | directory, name :: rest =>
    let next := match tree.enter directory name with
      | .ok next => next
      | .error _ => directory ++ [name]
    (tree.putDirectory next).makeDirectories next rest

/-- The tree with a directory at a path, and with those that lead to it. -/
def withDirectory (tree : FileTree) (path : Path) : FileTree :=
  (tree.makeDirectories (tree.start path) (names path)).1

/-- The tree with a file at a path, and with the directories that lead to it. -/
def withFile (tree : FileTree) (path : Path) (content : Bytes) : FileTree :=
  let (tree, directory) := tree.makeDirectories (tree.start path) (names path).dropLast
  tree.put (directory ++ ((names path).getLast?.toList)) content

/-- The files below a directory, each with the path that leads to it from there. -/
def filesBelow (tree : FileTree) (directory : Location) : List (Path × Bytes) :=
  tree.files.filterMap fun (location, content) =>
    (directory.isPrefixOf? location).map fun below => (joinWith ['/'] below, content)

end FileTree

end MarkdownDialect
