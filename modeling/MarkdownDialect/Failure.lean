import MarkdownDialect.Path
import MarkdownDialect.Text.Number

/-!
What can go wrong around a conversion, with the messages for it. Expanding and rendering never
fail; reading and writing files, settings and exports can.
-/

namespace MarkdownDialect

open Text

inductive SystemErrorKind where
  | notFound
  | permissionDenied
  | other
  deriving DecidableEq, Repr

/-- Why the operating system refused an operation, with its own words for it. -/
structure SystemError where
  kind : SystemErrorKind
  words : Text
  deriving DecidableEq, Repr

inductive FileFailure where
  | notFound (path : Path)
  | permissionDenied (path : Path)
  | tooLarge (path : Path) (size limit : Nat)
  | notAFile (path : Path)
  | unreadable (path : Path) (cause : SystemError)
  | unwritable (path : Path) (cause : SystemError)
  /-- The new content was written, but could not be put in the place of the old one. -/
  | unreplaceable (path : Path) (cause : SystemError)
  deriving DecidableEq, Repr

inductive SettingsFailure where
  | unloadable (words : Text)
  | malformed (words : Text)
  | invalidValue (key reason : Text)
  | noDirectory
  deriving DecidableEq, Repr

inductive ExportFailure where
  | file (failure : FileFailure)
  | invalidPath (path : Path)
  | unsupportedFormat (name : Text)
  deriving DecidableEq, Repr

inductive Failure where
  | file (failure : FileFailure)
  | settings (failure : SettingsFailure)
  | exporting (failure : ExportFailure)
  | unexpected (words : Text)
  deriving DecidableEq, Repr

namespace FileFailure

/-- The failure to read a path. -/
def ofReading (path : Path) (error : SystemError) : FileFailure :=
  match error.kind with
  | .notFound => notFound path
  | .permissionDenied => permissionDenied path
  | .other => unreadable path error

def message : FileFailure → Text
  | notFound path => "File not found: ".toList ++ path
  | permissionDenied path => "Permission denied: ".toList ++ path
  | tooLarge path size limit =>
    "File too large: ".toList ++ path ++ " (".toList ++ ofNat size ++ " bytes, max ".toList
      ++ ofNat limit ++ " bytes)".toList
  | notAFile path => "Path is not a file: ".toList ++ path
  | unreadable path _ => "Could not read file: ".toList ++ path
  | unwritable path _ => "Could not save file: ".toList ++ path
  | unreplaceable path _ => "Could not complete file save (rename failed): ".toList ++ path

/-- What the user is advised. -/
def advice : FileFailure → Text
  | notFound _ => "The file could not be found. It may have been moved or deleted.".toList
  | permissionDenied _ =>
    "You don't have permission to access this file. Check file permissions.".toList
  | tooLarge _ _ limit =>
    "This file is too large to convert. Maximum file size is ".toList ++ ofNat limit
      ++ " bytes.".toList
  | unwritable _ _ | unreplaceable _ _ =>
    "Could not save the file. Check disk space and permissions.".toList
  | failure => failure.message

/-- The error of the operating system behind a failure. -/
def cause? : FileFailure → Option SystemError
  | unreadable _ cause | unwritable _ cause | unreplaceable _ cause => some cause
  | _ => none

end FileFailure

namespace SettingsFailure

def message : SettingsFailure → Text
  | unloadable words => "Could not load configuration: ".toList ++ words
  | malformed words => "Invalid configuration format: ".toList ++ words
  | invalidValue key reason =>
    "Invalid value for ".toList ++ key ++ ": ".toList ++ reason
  | noDirectory => "Could not access configuration directory".toList

def advice : SettingsFailure → Text
  | malformed words =>
    (malformed words).message
      ++ ". Fix or remove the configuration file to use defaults.".toList
  | noDirectory =>
    "Could not determine the configuration directory. Pass --config explicitly.".toList
  | failure => failure.message

end SettingsFailure

namespace ExportFailure

def message : ExportFailure → Text
  | file failure => failure.message
  | invalidPath path => "Invalid export path: ".toList ++ path
  | unsupportedFormat name => "Export format not supported: ".toList ++ name

def advice : ExportFailure → Text
  | file failure => failure.advice
  | unsupportedFormat name =>
    "Cannot export to '".toList ++ name ++ "'. Supported formats are md and html.".toList
  | failure => failure.message

def cause? : ExportFailure → Option SystemError
  | file failure => failure.cause?
  | _ => none

end ExportFailure

namespace Failure

def message : Failure → Text
  | file failure => failure.message
  | settings failure => failure.message
  | exporting failure => failure.message
  | unexpected words => "Unexpected error: ".toList ++ words

def advice : Failure → Text
  | file failure => failure.advice
  | settings failure => failure.advice
  | exporting failure => failure.advice
  | unexpected words => (unexpected words).message

def cause? : Failure → Option SystemError
  | file failure => failure.cause?
  | exporting failure => failure.cause?
  | _ => none

end Failure

end MarkdownDialect
