import MarkdownDialect.FileAccess
import MarkdownDialect.Settings

/-!
Loading the settings from their file.
-/

namespace MarkdownDialect.Settings

open Text

/-- The usual place of the settings: below the directory for settings if its path begins at the
root, or else below the home directory. -/
def usualPlace (directory home : Option Path) : Option Path :=
  let below := match directory.filter fun path => ['/'].isPrefixOf path with
    | some directory => some directory
    | none => (home.filter (· != [])).map fun home => Path.join home ".config".toList
  below.map fun below => Path.join (Path.join below "awsm-md".toList) "config.json".toList

variable {m : Type → Type} [Monad m] [FileAccess m]

/-- The failure to load a file, in words. -/
def unloadable (path : Path) (words : Text) : SettingsFailure :=
  .unloadable (path ++ ": ".toList ++ words)

/-- Loads the settings from a file, which has to be in UTF-8. -/
def load (path : Path) : m (Except SettingsFailure Settings) := do
  match ← FileAccess.read path with
  | .error error => return .error (unloadable path error.words)
  | .ok bytes =>
    if Utf8.isValid bytes then
      return ofJson (replaceMissing (Utf8.decode bytes))
    else
      return .error (unloadable path "stream did not contain valid UTF-8".toList)

/-- Loads the settings from their usual place. They have their defaults if nothing is there, or if
there is no such place. -/
def loadUsual : (place : Option Path) → m (Except SettingsFailure Settings)
  | none => return .ok {}
  | some path => do
    match ← FileAccess.status path with
    | .error _ => return .ok {}
    | .ok _ => load path

end MarkdownDialect.Settings
