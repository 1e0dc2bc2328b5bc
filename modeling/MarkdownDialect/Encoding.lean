import MarkdownDialect.Encoding.Utf16

/-!
How the bytes of a document become its text: the encoding follows from the byte order mark, or
without one from whether the bytes are UTF-8. What does not decode is replaced by U+FFFD, and the
document is then marked as lossy.
-/

namespace MarkdownDialect

inductive Encoding where
  | utf8
  | utf8WithMark
  | utf16 (order : ByteOrder)
  /-- Bytes that are not UTF-8 and carry no mark; they are read as UTF-8 with replacements. -/
  | unknown
  deriving DecidableEq, Repr

/-- A document as it was read. -/
structure Document where
  content : Text
  encoding : Encoding
  sizeInBytes : Nat
  lossy : Bool
  deriving DecidableEq, Repr

namespace Encoding

/-- The byte order mark that announces an encoding. -/
def mark : Encoding → Bytes
  | utf8WithMark => [0xEF, 0xBB, 0xBF]
  | utf16 .littleEndian => [0xFF, 0xFE]
  | utf16 .bigEndian => [0xFE, 0xFF]
  | utf8 | unknown => []

/-- The encodings with a mark, in the order in which they are tried. -/
def marked : List Encoding :=
  [utf8WithMark, utf16 .littleEndian, utf16 .bigEndian]

def detect (bytes : Bytes) : Encoding :=
  match marked.find? fun encoding => encoding.mark.isPrefixOf bytes with
  | some encoding => encoding
  | none => if Utf8.isValid bytes then utf8 else unknown

/-- The characters of bytes whose mark is already taken off. -/
def decodeBody : Encoding → Bytes → List (Option Char)
  | utf16 order, bytes => Utf16.decodeUnits (Utf16.units order bytes)
  | _, bytes => Utf8.decode bytes

/-- Whether some of the bytes after the mark stand for no character. -/
def losesBytes (encoding : Encoding) (bytes : Bytes) : Bool :=
  let dangling := match encoding with
    | utf16 _ => bytes.length % 2 != 0
    | _ => false
  dangling || (encoding.decodeBody bytes).any Option.isNone

/-- The bytes of a text in an encoding, with its mark. -/
def encode (encoding : Encoding) (text : Text) : Bytes :=
  encoding.mark ++ match encoding with
    | utf16 order => Utf16.encode order text
    | _ => Utf8.encode text

end Encoding

/-- U+FFFD in place of whatever did not decode. -/
def replaceMissing (decoded : List (Option Char)) : Text :=
  decoded.map fun c => c.getD '\ufffd'

def Document.ofBytes (bytes : Bytes) : Document :=
  let encoding := Encoding.detect bytes
  let body := bytes.drop encoding.mark.length
  { content := replaceMissing (encoding.decodeBody body)
    encoding := encoding
    sizeInBytes := bytes.length
    lossy := encoding.losesBytes body }

end MarkdownDialect
