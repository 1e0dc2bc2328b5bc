import MarkdownDialect.Encoding.Utf8

/-!
UTF-16 in either byte order. Decoding never fails: `none` stands for a surrogate without its
partner.
-/

namespace MarkdownDialect

inductive ByteOrder where
  | littleEndian
  | bigEndian
  deriving DecidableEq, Repr

namespace Utf16

/-- The code unit of two neighbouring bytes. -/
def unitOf (order : ByteOrder) (first second : UInt8) : Nat :=
  match order with
  | .littleEndian => second.toNat * 256 + first.toNat
  | .bigEndian => first.toNat * 256 + second.toNat

/-- The code units of a row of bytes. An odd last byte belongs to none. -/
def units (order : ByteOrder) : Bytes → List Nat
  | first :: second :: rest => unitOf order first second :: units order rest
  | _ => []

def isHighSurrogate (unit : Nat) : Bool :=
  0xD800 ≤ unit && unit < 0xDC00

def isLowSurrogate (unit : Nat) : Bool :=
  0xDC00 ≤ unit && unit < 0xE000

/-- The character that a surrogate pair stands for. -/
def pairChar (high low : Nat) : Char :=
  Char.ofNat (0x10000 + (high - 0xD800) * 0x400 + (low - 0xDC00))

def decodeUnits : List Nat → List (Option Char)
  | [] => []
  | [unit] =>
    [if isHighSurrogate unit || isLowSurrogate unit then none else some (Char.ofNat unit)]
  | unit :: next :: rest =>
    if isHighSurrogate unit && isLowSurrogate next then
      some (pairChar unit next) :: decodeUnits rest
    else if isHighSurrogate unit || isLowSurrogate unit then
      none :: decodeUnits (next :: rest)
    else
      some (Char.ofNat unit) :: decodeUnits (next :: rest)

def encodeUnits (c : Char) : List Nat :=
  let code := c.toNat
  if code < 0x10000 then
    [code]
  else
    [0xD800 + (code - 0x10000) / 0x400, 0xDC00 + (code - 0x10000) % 0x400]

def unitBytes (order : ByteOrder) (unit : Nat) : Bytes :=
  match order with
  | .littleEndian => [UInt8.ofNat (unit % 256), UInt8.ofNat (unit / 256)]
  | .bigEndian => [UInt8.ofNat (unit / 256), UInt8.ofNat (unit % 256)]

def encode (order : ByteOrder) (text : Text) : Bytes :=
  (text.flatMap encodeUnits).flatMap (unitBytes order)

end Utf16

end MarkdownDialect
