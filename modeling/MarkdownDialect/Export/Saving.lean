import MarkdownDialect.Export
import MarkdownDialect.FileAccess

/-!
Exporting to a file.
-/

namespace MarkdownDialect

variable {m : Type → Type} [Monad m] [FileAccess m]

/-- Exports a source to a file. The path has to end with a file name. -/
def saveExport (stamp : Nat) (palette : Palette) (rendering : RenderOptions)
    (options : ExportOptions) (format : ExportFormat) (source : Text) (path : Path) :
    m (Except ExportFailure Unit) := do
  match path.fileName? with
  | none => return .error (.invalidPath path)
  | some _ =>
    match ← writeAtomically stamp path (exportSource palette rendering options format source) with
    | .error failure => return .error (.file failure)
    | .ok () => return .ok ()

end MarkdownDialect
