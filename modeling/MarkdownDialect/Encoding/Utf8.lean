import MarkdownDialect.Text.Basic

/-!
UTF-8. Decoding never fails: `none` stands for the longest run of bytes that begins a character
without completing one, or for a single byte that can begin none.
-/

namespace MarkdownDialect

/-- A row of bytes. -/
abbrev Bytes := List UInt8

namespace Utf8

/-- The six low bits that a continuation byte carries. -/
def payload (byte : UInt8) : Nat :=
  byte.toNat % 64

def isContinuation (byte : UInt8) : Bool :=
  0x80 ≤ byte && byte ≤ 0xBF

/-- Whether `lead` begins a character of two bytes. -/
def isLead2 (lead : UInt8) : Bool :=
  0xC2 ≤ lead && lead ≤ 0xDF

/-- Whether `lead` and `second` begin a character of three bytes: no overlong form and no
surrogate. -/
def isLead3 (lead second : UInt8) : Bool :=
  if lead = 0xE0 then 0xA0 ≤ second && second ≤ 0xBF
  else if lead = 0xED then 0x80 ≤ second && second ≤ 0x9F
  else 0xE1 ≤ lead && lead ≤ 0xEF && isContinuation second

/-- Whether `lead` and `second` begin a character of four bytes: no overlong form and nothing past
the last code point. -/
def isLead4 (lead second : UInt8) : Bool :=
  if lead = 0xF0 then 0x90 ≤ second && second ≤ 0xBF
  else if lead = 0xF4 then 0x80 ≤ second && second ≤ 0x8F
  else 0xF1 ≤ lead && lead ≤ 0xF3 && isContinuation second

/-- The first character of a row of bytes, and how many of the bytes after the first belong to
it. -/
def decodeFirst (lead : UInt8) (rest : Bytes) : Option Char × Nat :=
  if lead < 0x80 then
    (some (Char.ofNat lead.toNat), 0)
  else
    match rest with
    | [] => (none, 0)
    | second :: rest =>
      if isLead2 lead && isContinuation second then
        (some (Char.ofNat ((lead.toNat - 0xC0) * 64 + payload second)), 1)
      else if isLead3 lead second then
        match rest with
        | third :: _ =>
          if isContinuation third then
            (some (Char.ofNat
              (((lead.toNat - 0xE0) * 64 + payload second) * 64 + payload third)), 2)
          else
            (none, 1)
        | [] => (none, 1)
      else if isLead4 lead second then
        match rest with
        | third :: rest =>
          if isContinuation third then
            match rest with
            | fourth :: _ =>
              if isContinuation fourth then
                (some (Char.ofNat ((((lead.toNat - 0xF0) * 64 + payload second) * 64
                  + payload third) * 64 + payload fourth)), 3)
              else
                (none, 2)
            | [] => (none, 2)
          else
            (none, 1)
        | [] => (none, 1)
      else
        (none, 0)

/-- Decodes after `skip` bytes that are already accounted for. -/
def decodeAfter : Nat → Bytes → List (Option Char)
  | _, [] => []
  | skip + 1, _ :: rest => decodeAfter skip rest
  | 0, lead :: rest =>
    (decodeFirst lead rest).1 :: decodeAfter (decodeFirst lead rest).2 rest

def decode (bytes : Bytes) : List (Option Char) :=
  decodeAfter 0 bytes

/-- Whether every byte belongs to a character. -/
def isValid (bytes : Bytes) : Bool :=
  (decode bytes).all Option.isSome

def encodeChar (c : Char) : Bytes :=
  let code := c.toNat
  let continuation (shift : Nat) : UInt8 := UInt8.ofNat (0x80 + code / shift % 64)
  if code < 0x80 then
    [UInt8.ofNat code]
  else if code < 0x800 then
    [UInt8.ofNat (0xC0 + code / 64), continuation 1]
  else if code < 0x10000 then
    [UInt8.ofNat (0xE0 + code / 4096), continuation 64, continuation 1]
  else
    [UInt8.ofNat (0xF0 + code / 262144), continuation 4096, continuation 64, continuation 1]

def encode (text : Text) : Bytes :=
  text.flatMap encodeChar

end Utf8

end MarkdownDialect
