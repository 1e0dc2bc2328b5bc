import MarkdownDialect.FileAccess
import MarkdownDialect.FileTree

/-!
Access to the files of a tree, as a program that runs alone in it has: nothing is refused for want
of permission, and what fails leaves the tree as it was.
-/

namespace MarkdownDialect

namespace FileTree

def status (tree : FileTree) (path : Path) : Except SystemError FileStatus :=
  match tree.find path with
  | .error error => .error error
  | .ok (.file content) => .ok (.file content.length)
  | .ok .directory => .ok .other

def read (tree : FileTree) (path : Path) : Except SystemError Bytes :=
  match tree.find path with
  | .error error => .error error
  | .ok (.file content) => .ok content
  | .ok .directory => .error .isADirectory

/-- The location of the file that a write to a path makes or changes. -/
def writable (tree : FileTree) (path : Path) : Except SystemError Location :=
  match tree.target path with
  | .error error => .error error
  | .ok target =>
    match target.name with
    | none => .error .isADirectory
    | some name =>
      if target.slashed then .error .isADirectory
      else
        match tree.lookUp target.directory name with
        | .error error => .error error
        | .ok (some .directory) => .error .isADirectory
        | .ok _ => .ok target.location

def write (tree : FileTree) (path : Path) (content : Bytes) : Except SystemError FileTree :=
  match tree.writable path with
  | .error error => .error error
  | .ok location => .ok (tree.put location content)

/-- The location of the file that another file takes the place of. Nothing takes the place of a
directory, and a path that ends with its root or with dots is not even looked up. -/
def replaceable (tree : FileTree) (target : Target) : Except SystemError Location :=
  match target.name with
  | none => .error .busy
  | some name =>
    match tree.lookUp target.directory name with
    | .error error => .error error
    | .ok entry =>
      if target.slashed then .error .notADirectory
      else if entry = some .directory then .error .isADirectory
      else .ok target.location

/-- The location and the bytes of the file at a target. -/
def movable (tree : FileTree) (target : Target) : Except SystemError (Location × Bytes) :=
  match tree.entryAt target with
  | .error error => .error error
  | .ok .directory => .error .isADirectory
  | .ok (.file content) => .ok (target.location, content)

def move (tree : FileTree) (source target : Path) : Except SystemError FileTree :=
  match tree.target source with
  | .error error => .error error
  | .ok source =>
    match tree.target target with
    | .error error => .error error
    | .ok target =>
      match tree.movable source with
      | .error error => .error error
      | .ok (old, content) =>
        match tree.replaceable target with
        | .error error => .error error
        | .ok new => .ok ((tree.erase old).put new content)

def remove (tree : FileTree) (path : Path) : Except SystemError FileTree :=
  match tree.target path with
  | .error error => .error error
  | .ok target =>
    match tree.movable target with
    | .error error => .error error
    | .ok (location, _) => .ok (tree.erase location)

/-- What a change leaves: the changed tree, or the same tree with the error. -/
def changed (tree : FileTree) : Except SystemError FileTree → Except SystemError Unit × FileTree
  | .ok changed => (.ok (), changed)
  | .error error => (.error error, tree)

instance : FileAccess (StateM FileTree) where
  status path := fun tree => (tree.status path, tree)
  read path := fun tree => (tree.read path, tree)
  write path content := fun tree => tree.changed (tree.write path content)
  move source target := fun tree => tree.changed (tree.move source target)
  remove path := fun tree => tree.changed (tree.remove path)

end FileTree

end MarkdownDialect
