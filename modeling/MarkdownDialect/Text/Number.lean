import MarkdownDialect.Text.Basic

/-!
Natural numbers in decimal and hexadecimal ASCII digits.
-/

namespace MarkdownDialect.Text

def digitValue (c : Char) : Nat :=
  c.toNat - '0'.toNat

/-- The value of a row of ASCII digits. -/
def decimalValue (digits : Text) : Nat :=
  digits.foldl (fun value c => 10 * value + digitValue c) 0

/-- Reads a number that consists of ASCII digits and nothing else and stays below `bound`. -/
def readDecimal (bound : Nat) (text : Text) : Option Nat :=
  if !text.isEmpty && text.all Char.isDigit && decimalValue text < bound then
    some (decimalValue text)
  else
    none

/-- Reads a number as `readDecimal` does, after one optional plus sign. -/
def readSignedDecimal (bound : Nat) : Text → Option Nat
  | '+' :: digits => readDecimal bound digits
  | digits => readDecimal bound digits

def isHexDigit (c : Char) : Bool :=
  c.isDigit || ('a' ≤ c && c ≤ 'f') || ('A' ≤ c && c ≤ 'F')

def hexDigitValue (c : Char) : Nat :=
  if c.isDigit then digitValue c else c.toLower.toNat - 'a'.toNat + 10

/-- The value of a row of hexadecimal digits. -/
def hexValue (digits : Text) : Nat :=
  digits.foldl (fun value c => 16 * value + hexDigitValue c) 0

/-- The digit of a number below sixteen, with capital letters. -/
def hexDigit (value : Nat) : Char :=
  (Nat.digitChar value).toUpper

def ofNat (n : Nat) : Text :=
  Nat.toDigits 10 n

/-- The numbers below this bound fit in 32 bits. -/
def bound32 : Nat :=
  0x1_0000_0000

/-- The numbers below this bound fit in 64 bits. -/
def bound64 : Nat :=
  0x1_0000_0000_0000_0000

end MarkdownDialect.Text
