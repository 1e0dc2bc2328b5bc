import MarkdownDialect.CommonMark.Entity.Names
import MarkdownDialect.Text.LetterCase
import MarkdownDialect.Text.Number
import MarkdownDialect.Text.Punctuation

/-!
Character references, which are named (`&amp;`), decimal (`&#38;`) or hexadecimal (`&#x26;`), and
backslash escapes.
-/

namespace MarkdownDialect.CommonMark

open Text

namespace Entity

/-- An entry of the listing: a name, a colon, and code points joined by plus signs. -/
def readEntry (entry : Text) : Option (Text × Text) :=
  (breakOn [':'] entry).map fun (name, codes) =>
    (name, (splitOn '+' codes).map fun digits => Char.ofNat (hexValue digits))

/-- The names with the texts that they stand for. -/
def named : List (Text × Text) :=
  namedReferences.flatMap fun row => (splitOn ' ' row.toList).filterMap readEntry

/-- The character of a code point. Zero stands for U+FFFD, and there is none for surrogates and
numbers beyond Unicode. -/
def charOf? (code : Nat) : Option Char :=
  if code = 0 then some '\ufffd'
  else if code.isValidChar then some (Char.ofNat code)
  else none

/-- A numeric reference whose digits are of a class, given what follows its number sign. -/
def readNumeric? (inClass : Char → Bool) (value : Text → Nat) (text : Text) :
    Option (Text × Text) :=
  match text.takeWhile inClass, text.dropWhile inClass with
  | [], _ => none
  | digits, ';' :: rest => (charOf? (value digits)).map fun c => ([c], rest)
  | _, _ => none

/-- A character reference at the front of a text, given what follows the ampersand: the text that
it stands for, and what follows its semicolon. -/
def read? : Text → Option (Text × Text)
  | '#' :: 'x' :: rest => readNumeric? isHexDigit hexValue rest
  | '#' :: 'X' :: rest => readNumeric? isHexDigit hexValue rest
  | '#' :: rest => readNumeric? Char.isDigit decimalValue rest
  | text =>
    match text.dropWhile isAsciiAlphanumeric with
    | ';' :: rest =>
      (named.lookup (text.takeWhile isAsciiAlphanumeric)).map fun value => (value, rest)
    | _ => none

end Entity

/-- Decodes the references and backslash escapes of a destination or a title. Carriage returns are
dropped. -/
def decodeEscapes (text : Text) : Text :=
  replaceMatches decode? text
where
  decode? : Text → Option (Text × Text)
    | '\\' :: c :: rest => if isAsciiPunctuation c then some ([c], rest) else none
    | '&' :: rest => Entity.read? rest
    | '\r' :: rest => some ([], rest)
    | _ => none

end MarkdownDialect.CommonMark
