import MarkdownDialect.CommandLine
import MarkdownDialect.FileTree

/-!
The program: the command line with the files, the streams and the environment of the system.
-/

namespace MarkdownDialect.CommandLine

/-! ## Errors -/

/-- The number and the words of a system's error, if it has them. -/
def numberAndWords : IO.Error → Option (Nat × String)
  | .alreadyExists _ number words => some (number.toNat, words)
  | .otherError number words => some (number.toNat, words)
  | .resourceBusy number words => some (number.toNat, words)
  | .resourceVanished number words => some (number.toNat, words)
  | .unsupportedOperation number words => some (number.toNat, words)
  | .hardwareFault number words => some (number.toNat, words)
  | .unsatisfiedConstraints number words => some (number.toNat, words)
  | .illegalOperation number words => some (number.toNat, words)
  | .protocolError number words => some (number.toNat, words)
  | .timeExpired number words => some (number.toNat, words)
  | .interrupted _ number words => some (number.toNat, words)
  | .noFileOrDirectory _ number words => some (number.toNat, words)
  | .invalidArgument _ number words => some (number.toNat, words)
  | .permissionDenied _ number words => some (number.toNat, words)
  | .resourceExhausted _ number words => some (number.toNat, words)
  | .inappropriateType _ number words => some (number.toNat, words)
  | .noSuchThing _ number words => some (number.toNat, words)
  | .unexpectedEof | .userError _ => none

/-- What kind of error has a number. -/
def kindOf (number : Nat) : SystemErrorKind :=
  if number = 2 then .notFound
  else if number = 1 || number = 13 then .permissionDenied
  else .other

def systemError (error : IO.Error) : SystemError :=
  match numberAndWords error with
  | some (number, words) => .numbered (kindOf number) words number
  | none => { kind := .other, words := error.toString.toList }

/-- An action whose errors are results. -/
def attempt {α : Type} (action : IO α) : IO (Except SystemError α) := do
  match ← action.toBaseIO with
  | .ok value => return .ok value
  | .error error => return .error (systemError error)

/-! ## Files and streams -/

def openFile (path : Path) : IO IO.FS.Handle :=
  IO.FS.Handle.mk (String.ofList path) .read

def metadata (path : Path) : IO IO.FS.Metadata := do
  (← IO.FS.realPath (String.ofList path)).metadata

/-- Opening a file without metadata tells why there is none. -/
def fileStatus (path : Path) : IO FileStatus := do
  match ← (metadata path).toBaseIO with
  | .error error =>
    let _ ← openFile path
    throw error
  | .ok metadata =>
    match metadata.type with
    | .file => return .file metadata.byteSize.toNat
    | _ => return .other

instance : FileAccess IO where
  status path := attempt (fileStatus path)
  read path := attempt do
    return (← (← openFile path).readBinToEnd).toList
  write path content := attempt do
    IO.FS.writeBinFile (String.ofList path) (ByteArray.mk content.toArray)
  move source target := attempt do
    IO.FS.rename (String.ofList source) (String.ofList target)
  remove path := attempt do
    IO.FS.removeFile (String.ofList path)

def chunkLength : Nat :=
  65536

/-- Reads at most `count` bytes after those that are already read. -/
def readBytes (stream : IO.FS.Stream) : (rounds : Nat) → (count : Nat) → ByteArray → IO ByteArray
  | 0, _, bytes => return bytes
  | rounds + 1, count, bytes => do
    if count = 0 then
      return bytes
    let chunk ← stream.read (min count chunkLength).toUSize
    if chunk.isEmpty then
      return bytes
    readBytes stream rounds (count - chunk.size) (bytes ++ chunk)

def readStandardInput (count : Nat) : IO ByteStream := do
  match ← attempt (readBytes (← IO.getStdin) count count ByteArray.empty) with
  | .ok bytes => return { bytes := bytes.toList }
  | .error failure => return { bytes := [], failure := some failure }

def environmentPath (name : String) : IO (Option Path) := do
  return (← IO.getEnv name).map String.toList

def surroundings : IO (Surroundings IO) := do
  let directory ← environmentPath "XDG_CONFIG_HOME"
  let home ← environmentPath "HOME"
  return {
    settingsPlace := Settings.usualPlace directory home
    standardInput := readStandardInput
    stamp := ← IO.monoMsNow }

end MarkdownDialect.CommandLine

def main (arguments : List String) : IO UInt32 := do
  let surroundings ← MarkdownDialect.CommandLine.surroundings
  let outcome ← MarkdownDialect.CommandLine.run surroundings (arguments.map String.toList)
  (← IO.getStdout).putStr (String.ofList outcome.output)
  (← IO.getStderr).putStr (String.ofList outcome.errors)
  return outcome.code.toUInt32
