import MarkdownDialect.Encoding
import MarkdownDialect.Failure

/-!
Reading and writing documents, in any monad that gives access to files. A write is either complete
or leaves the file as it was: the content goes to a temporary file first, which then takes the
place of the file.
-/

namespace MarkdownDialect

open Text

inductive FileStatus where
  /-- A regular file with its size in bytes. -/
  | file (size : Nat)
  /-- A directory, or anything else that is no regular file. -/
  | other
  deriving DecidableEq, Repr

/-- Access to files by their paths. -/
class FileAccess (m : Type → Type) where
  status : Path → m (Except SystemError FileStatus)
  read : Path → m (Except SystemError Bytes)
  /-- Makes a file hold some bytes. The file is created if there is none. -/
  write : Path → Bytes → m (Except SystemError Unit)
  /-- Moves a file to a path, where it takes the place of the file that was there. -/
  move : (source target : Path) → m (Except SystemError Unit)
  remove : Path → m (Except SystemError Unit)

/-! ## Reading -/

/-- What a stream delivers before it ends, or before it fails. -/
structure ByteStream where
  bytes : Bytes
  failure : Option SystemError := none
  deriving DecidableEq, Repr

/-- The first `count` bytes of a stream, or all if there are fewer. A failure after that many bytes
is not noticed. -/
def ByteStream.take (stream : ByteStream) (count : Nat) : Except SystemError Bytes :=
  match stream.failure with
  | some error => if stream.bytes.length < count then .error error
    else .ok (stream.bytes.take count)
  | none => .ok (stream.bytes.take count)

/-- How many bytes tell whether a stream is longer than `limit`. -/
def probeLength (limit : Nat) : Nat :=
  min (limit + 1) (bound64 - 1)

/-- Reads a document of at most `limit` bytes from a stream, which is named in failures. -/
def readStream (stream : ByteStream) (source : Path) (limit : Nat) : Except FileFailure Document :=
  match stream.take (probeLength limit) with
  | .error error => .error (.ofReading source error)
  | .ok bytes =>
    if bytes.length > limit then .error (.tooLarge source bytes.length limit)
    else .ok (Document.ofBytes bytes)

section

variable {m : Type → Type} [Monad m] [FileAccess m]

/-- Reads a document from a file of at most `limit` bytes. -/
def readDocument (path : Path) (limit : Nat) : m (Except FileFailure Document) := do
  match ← FileAccess.status path with
  | .error error => return .error (.ofReading path error)
  | .ok .other => return .error (.notAFile path)
  | .ok (.file size) =>
    if size > limit then
      return .error (.tooLarge path size limit)
    else
      match ← FileAccess.read path with
      | .error error => return .error (.ofReading path error)
      | .ok bytes => return .ok (Document.ofBytes bytes)

/-! ## Writing -/

/-- The name of the temporary file for a file. The stamp tells it from those of other writes. -/
def temporaryName (stamp : Nat) (name : Text) : Text :=
  '.' :: name ++ '.' :: ofNat stamp ++ ".tmp".toList

/-- The directory of a file. -/
def directoryOf (path : Path) : Path :=
  match path.parent? with
  | none | some [] => Path.currentName
  | some parent => parent

/-- The temporary file beside a file. -/
def temporaryPath (stamp : Nat) (path : Path) : Path :=
  Path.join (directoryOf path) (temporaryName stamp (path.fileName?.getD "file".toList))

/-- Makes a file hold a text in UTF-8. On failure the file stays as it was, and the temporary file
is removed. -/
def writeAtomically (stamp : Nat) (path : Path) (content : Text) :
    m (Except FileFailure Unit) := do
  let temporary := temporaryPath stamp path
  match ← FileAccess.write temporary (Utf8.encode content) with
  | .error error =>
    let _ ← FileAccess.remove temporary
    return .error (.unwritable path error)
  | .ok () =>
    match ← FileAccess.move temporary path with
    | .error error =>
      let _ ← FileAccess.remove temporary
      return .error (.unreplaceable path error)
    | .ok () => return .ok ()

end

end MarkdownDialect
