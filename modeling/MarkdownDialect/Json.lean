import MarkdownDialect.Text.Number

/-!
Reading JSON. White space and numbers follow the standard strictly, and nothing may stand after the
value. A string that escapes half of a surrogate pair is read, but has no content.
-/

namespace MarkdownDialect

open Text

inductive Json where
  | null
  | bool (value : Bool)
  /-- A number written in digits alone. -/
  | natural (value : Nat)
  /-- A number with a sign, a fraction or an exponent. -/
  | otherNumber
  | string (content : Option Text)
  | array (items : List Json)
  | object (members : List (Option Text × Json))
  deriving Repr

namespace Json

/-! ## Strings -/

/-- A part of a string: a character, or half of a surrogate pair. -/
inductive StringPart where
  | char (c : Char)
  | half (unit : Nat)
  deriving DecidableEq, Repr

def isHighHalf (unit : Nat) : Bool :=
  0xD800 ≤ unit && unit < 0xDC00

def isLowHalf (unit : Nat) : Bool :=
  0xDC00 ≤ unit && unit < 0xE000

def joinPair (high low : Nat) : Char :=
  Char.ofNat (0x10000 + (high - 0xD800) * 0x400 + (low - 0xDC00))

/-- Joins the halves of surrogate pairs. There is no text if one half stands alone. -/
def joinHalves : List StringPart → Option Text
  | [] => some []
  | .char c :: rest => (joinHalves rest).map (c :: ·)
  | .half high :: .half low :: rest =>
    if isHighHalf high && isLowHalf low then (joinHalves rest).map (joinPair high low :: ·)
    else none
  | .half _ :: _ => none

/-- What a backslash and a letter stand for. -/
def simpleEscapes : List (Char × Char) :=
  [('\x22', '\x22'), ('\\', '\\'), ('/', '/'), ('b', '\x08'), ('f', '\x0c'), ('n', '\n'),
    ('r', '\r'), ('t', '\t')]

/-- The part that a code unit in four hexadecimal digits stands for. -/
def partOfUnit (unit : Nat) : StringPart :=
  if isHighHalf unit || isLowHalf unit then .half unit else .char (Char.ofNat unit)

/-- Reads a string up to its closing quote. Control characters have to be escaped. -/
def readParts? : Text → Option (List StringPart × Text)
  | [] => none
  | '\x22' :: rest => some ([], rest)
  | '\\' :: 'u' :: a :: b :: c :: d :: rest =>
    if [a, b, c, d].all isHexDigit then
      let part := partOfUnit (hexValue [a, b, c, d])
      (readParts? rest).map fun (parts, after) => (part :: parts, after)
    else
      none
  | '\\' :: c :: rest =>
    match simpleEscapes.lookup c with
    | some decoded => (readParts? rest).map fun (parts, after) => (.char decoded :: parts, after)
    | none => none
  | c :: rest =>
    if c < ' ' then none
    else (readParts? rest).map fun (parts, after) => (.char c :: parts, after)

/-- Reads a string, given what follows its opening quote. -/
def readString? (text : Text) : Option (Option Text × Text) :=
  (readParts? text).map fun (parts, after) => (joinHalves parts, after)

/-! ## Numbers -/

/-- Reads at least one digit, and tells what follows. -/
def skipDigits? (text : Text) : Option Text :=
  match text with
  | c :: _ => if c.isDigit then some (text.dropWhile Char.isDigit) else none
  | [] => none

/-- Passes a fraction, if there is one. Tells whether there was. -/
def skipFraction? : Text → Option (Bool × Text)
  | '.' :: rest => (skipDigits? rest).map fun after => (true, after)
  | text => some (false, text)

def skipSign : Text → Text
  | '+' :: rest => rest
  | '-' :: rest => rest
  | text => text

/-- Passes an exponent, if there is one. Tells whether there was. -/
def skipExponent? : Text → Option (Bool × Text)
  | 'e' :: rest => (skipDigits? (skipSign rest)).map fun after => (true, after)
  | 'E' :: rest => (skipDigits? (skipSign rest)).map fun after => (true, after)
  | text => some (false, text)

/-- Reads the digits before a fraction. There is no leading zero. -/
def readInteger? (text : Text) : Option (Nat × Text) :=
  match text.takeWhile Char.isDigit with
  | [] => none
  | '0' :: _ :: _ => none
  | digits => some (decimalValue digits, text.dropWhile Char.isDigit)

def readNumber? (text : Text) : Option (Json × Text) := do
  let unsigned := (['-'].isPrefixOf? text).getD text
  let (value, afterInteger) ← readInteger? unsigned
  let (hasFraction, afterFraction) ← skipFraction? afterInteger
  let (hasExponent, after) ← skipExponent? afterFraction
  if hasFraction || hasExponent || unsigned.length < text.length then
    return (otherNumber, after)
  else
    return (natural value, after)

/-! ## Values -/

def isWhite (c : Char) : Bool :=
  c = ' ' || c = '\n' || c = '\t' || c = '\r'

def skipWhite (text : Text) : Text :=
  text.dropWhile isWhite

mutual

/-- Reads a value, with white space before it. Each value, item and member takes one round. -/
def readValue? : (rounds : Nat) → Text → Option (Json × Text)
  | 0, _ => none
  | rounds + 1, text =>
    match skipWhite text with
    | 'n' :: 'u' :: 'l' :: 'l' :: rest => some (null, rest)
    | 't' :: 'r' :: 'u' :: 'e' :: rest => some (bool true, rest)
    | 'f' :: 'a' :: 'l' :: 's' :: 'e' :: rest => some (bool false, rest)
    | '\x22' :: rest => (readString? rest).map fun (content, after) => (string content, after)
    | '[' :: rest =>
      match skipWhite rest with
      | ']' :: after => some (array [], after)
      | items => (readItems? rounds items).map fun (items, after) => (array items, after)
    | '\x7b' :: rest =>
      match skipWhite rest with
      | '\x7d' :: after => some (object [], after)
      | members =>
        (readMembers? rounds members).map fun (members, after) => (object members, after)
    | other => readNumber? other

/-- Reads the items of an array up to its closing bracket. -/
def readItems? : (rounds : Nat) → Text → Option (List Json × Text)
  | 0, _ => none
  | rounds + 1, text => do
    let (item, after) ← readValue? rounds text
    match skipWhite after with
    | ',' :: rest =>
      let (items, last) ← readItems? rounds rest
      return (item :: items, last)
    | ']' :: last => return ([item], last)
    | _ => none

/-- Reads the members of an object up to its closing brace. -/
def readMembers? : (rounds : Nat) → Text → Option (List (Option Text × Json) × Text)
  | 0, _ => none
  | rounds + 1, text => do
    match skipWhite text with
    | '\x22' :: name =>
      let (name, afterName) ← readString? name
      match skipWhite afterName with
      | ':' :: rest =>
        let (value, after) ← readValue? rounds rest
        match skipWhite after with
        | ',' :: rest =>
          let (members, last) ← readMembers? rounds rest
          return ((name, value) :: members, last)
        | '\x7d' :: last => return ([(name, value)], last)
        | _ => none
      | _ => none
    | _ => none

end

/-- Reads a text that is a single value. -/
def ofText? (text : Text) : Option Json := do
  let (value, after) ← readValue? (2 * text.length + 2) text
  if (skipWhite after).isEmpty then return value else none

end Json

end MarkdownDialect
