import MarkdownDialect.Encoding.Utf16
import MarkdownDialect.Proofs.Encoding.Utf8

/-!
# UTF-16 there and back

The bytes are the code units, in either order of their two bytes, and the code units are the
characters. A row of bytes decodes to a text, with nothing missing and no byte left over, exactly
if it is the encoding of that text.
-/

namespace MarkdownDialect

namespace Utf16

/-! ## Code units and their bytes -/

section

variable {order : ByteOrder}

private theorem unitOf_lt (first second : UInt8) : unitOf order first second < 0x10000 := by
  have firstBound := first.toNat_lt
  have secondBound := second.toNat_lt
  cases order <;> simp only [unitOf] <;> omega

@[simp]
theorem unitBytes_unitOf (first second : UInt8) :
    unitBytes order (unitOf order first second) = [first, second] := by
  have firstBound := first.toNat_lt
  have secondBound := second.toNat_lt
  cases order with
  | littleEndian =>
      rw [unitOf, unitBytes, @byteOfNat_eq first _ (by omega), @byteOfNat_eq second _ (by omega)]
  | bigEndian =>
      rw [unitOf, unitBytes, @byteOfNat_eq first _ (by omega), @byteOfNat_eq second _ (by omega)]

theorem units_unitBytes_append {unit : Nat} (small : unit < 0x10000) (rest : Bytes) :
    units order (unitBytes order unit ++ rest) = unit :: units order rest := by
  have low : (UInt8.ofNat (unit % 256)).toNat = unit % 256 := toNat_byteOfNat (by omega)
  have high : (UInt8.ofNat (unit / 256)).toNat = unit / 256 := toNat_byteOfNat (by omega)
  have value : unit / 256 * 256 + unit % 256 = unit := Nat.div_add_mod' unit 256
  cases order <;>
    simp only [unitBytes, List.cons_append, List.nil_append, units, unitOf, low, high, value]

@[simp]
theorem length_flatMap_unitBytes (row : List Nat) :
    (row.flatMap (unitBytes order)).length = 2 * row.length := by
  induction row with
  | nil => rfl
  | cons unit row inductionHypothesis =>
      have two : (unitBytes order unit).length = 2 := by cases order <;> rfl
      rw [List.flatMap_cons, List.length_append, inductionHypothesis, two, List.length_cons]
      omega

private theorem units_flatMap_unitBytes {row : List Nat} (small : ∀ unit ∈ row, unit < 0x10000) :
    units order (row.flatMap (unitBytes order)) = row := by
  induction row with
  | nil => rfl
  | cons unit row inductionHypothesis =>
      rw [List.forall_mem_cons] at small
      rw [List.flatMap_cons, units_unitBytes_append small.1, inductionHypothesis small.2]

private theorem flatMap_unitBytes_units {bytes : Bytes} (even : bytes.length % 2 = 0) :
    (units order bytes).flatMap (unitBytes order) = bytes := by
  induction bytes using units.induct with
  | case1 first second rest inductionHypothesis =>
      have shorter : rest.length % 2 = 0 := by
        simp only [List.length_cons] at even
        omega
      rw [units, List.flatMap_cons, unitBytes_unitOf, inductionHypothesis shorter]
      rfl
  | case2 bytes notPair =>
      match bytes with
      | [] => rfl
      | [byte] => cases even
      | first :: second :: rest => exact absurd rfl (notPair first second rest)

private theorem lt_of_mem_units {bytes : Bytes} : ∀ unit ∈ units order bytes, unit < 0x10000 := by
  induction bytes using units.induct with
  | case1 first second rest inductionHypothesis =>
      rw [units, List.forall_mem_cons]
      exact ⟨unitOf_lt first second, inductionHypothesis⟩
  | case2 bytes notPair =>
      rw [units.eq_2 order bytes notPair]
      exact List.forall_mem_nil _

end

/-! ## The forms of a character -/

theorem isHighSurrogate_iff {unit : Nat} :
    isHighSurrogate unit = true ↔ 0xD800 ≤ unit ∧ unit < 0xDC00 := by
  simp [isHighSurrogate]

theorem isLowSurrogate_iff {unit : Nat} :
    isLowSurrogate unit = true ↔ 0xDC00 ≤ unit ∧ unit < 0xE000 := by
  simp [isLowSurrogate]

/-- The rows of code units that stand for a character. -/
inductive Spells : List Nat → Char → Prop
  | one {unit : Nat} : (isHighSurrogate unit || isLowSurrogate unit) = false → unit < 0x10000 →
      Spells [unit] (Char.ofNat unit)
  | pair {high low : Nat} : isHighSurrogate high = true → isLowSurrogate low = true →
      Spells [high, low] (pairChar high low)

theorem decodeUnits_append_of_spells {form : List Nat} {c : Char} (spells : Spells form c)
    (rest : List Nat) : decodeUnits (form ++ rest) = some c :: decodeUnits rest := by
  cases spells with
  | @one unit notSurrogate small =>
      cases rest with
      | nil =>
          simp only [List.append_nil, decodeUnits, notSurrogate, Bool.false_eq_true, if_false]
      | cons next rest =>
          have notHigh : isHighSurrogate unit = false := (Bool.or_eq_false_iff.mp notSurrogate).1
          rw [List.cons_append, List.nil_append, decodeUnits, notSurrogate, notHigh]
          rfl
  | pair isHigh isLow =>
      rw [List.cons_append, List.cons_append, List.nil_append, decodeUnits, isHigh, isLow]
      rfl

theorem decodeUnits_sound {row : List Nat} {c : Char} {decoded : List (Option Char)}
    (small : ∀ unit ∈ row, unit < 0x10000) (decoding : decodeUnits row = some c :: decoded) :
    ∃ form after, row = form ++ after ∧ Spells form c ∧ decodeUnits after = decoded := by
  match row with
  | [] => cases decoding
  | [unit] =>
      rw [decodeUnits, List.cons.injEq] at decoding
      split at decoding
      · cases decoding.1
      · next notSurrogate =>
          rw [Bool.not_eq_true] at notSurrogate
          obtain ⟨isChar, isRest⟩ := decoding
          cases isChar
          exact ⟨[unit], [], rfl, .one notSurrogate (small unit List.mem_cons_self), isRest⟩
  | unit :: next :: rest =>
      rw [decodeUnits] at decoding
      split at decoding
      · next isPair =>
          rw [Bool.and_eq_true] at isPair
          rw [List.cons.injEq, Option.some.injEq] at decoding
          obtain ⟨rfl, isRest⟩ := decoding
          exact ⟨[unit, next], rest, rfl, .pair isPair.1 isPair.2, isRest⟩
      · split at decoding
        · cases decoding
        · next notSurrogate =>
            rw [Bool.not_eq_true] at notSurrogate
            rw [List.cons.injEq, Option.some.injEq] at decoding
            obtain ⟨rfl, isRest⟩ := decoding
            exact ⟨[unit], next :: rest, rfl, .one notSurrogate (small unit List.mem_cons_self),
              isRest⟩

/-! ## Each character has one form -/

theorem encodeUnits_of_spells {form : List Nat} {c : Char} (spells : Spells form c) :
    encodeUnits c = form := by
  cases spells with
  | @one unit notSurrogate small =>
      rw [← Bool.not_eq_true, Bool.or_eq_true, isHighSurrogate_iff, isLowSurrogate_iff]
        at notSurrogate
      have isCode : (Char.ofNat unit).toNat = unit := toNat_charOfNat (by omega)
      rw [encodeUnits, isCode, if_pos small]
  | @pair high low isHigh isLow =>
      rw [isHighSurrogate_iff] at isHigh
      rw [isLowSurrogate_iff] at isLow
      unfold pairChar
      generalize value : 0x10000 + (high - 0xD800) * 0x400 + (low - 0xDC00) = code
      have isCode : (Char.ofNat code).toNat = code := toNat_charOfNat (by omega)
      have first : 0xD800 + (code - 0x10000) / 0x400 = high := by omega
      have second : 0xDC00 + (code - 0x10000) % 0x400 = low := by omega
      rw [encodeUnits, isCode, if_neg (by omega), first, second]

theorem spells_encodeUnits (c : Char) : Spells (encodeUnits c) c := by
  have scalar : c.toNat < 0xD800 ∨ 0xDFFF < c.toNat ∧ c.toNat < 0x110000 := c.valid
  by_cases one : c.toNat < 0x10000
  · have notSurrogate : (isHighSurrogate c.toNat || isLowSurrogate c.toNat) = false := by
      rw [← Bool.not_eq_true, Bool.or_eq_true, isHighSurrogate_iff, isLowSurrogate_iff]
      omega
    have spells : Spells [c.toNat] (Char.ofNat c.toNat) := .one notSurrogate one
    rw [encodeUnits, if_pos one]
    rwa [Char.ofNat_toNat] at spells
  · rw [encodeUnits, if_neg one]
    generalize first : 0xD800 + (c.toNat - 0x10000) / 0x400 = high
    generalize second : 0xDC00 + (c.toNat - 0x10000) % 0x400 = low
    have code : 0x10000 + (high - 0xD800) * 0x400 + (low - 0xDC00) = c.toNat := by omega
    have isChar : pairChar high low = c := by rw [pairChar, code, Char.ofNat_toNat]
    rw [← isChar]
    exact .pair (isHighSurrogate_iff.mpr (by omega)) (isLowSurrogate_iff.mpr (by omega))

private theorem Spells.lt_of_mem {form : List Nat} {c : Char} (spells : Spells form c) :
    ∀ unit ∈ form, unit < 0x10000 := by
  cases spells with
  | one notSurrogate small =>
      rw [List.forall_mem_singleton]
      exact small
  | pair isHigh isLow =>
      rw [isHighSurrogate_iff] at isHigh
      rw [isLowSurrogate_iff] at isLow
      rw [List.forall_mem_cons, List.forall_mem_singleton]
      omega

/-! ## Decoding and encoding of texts -/

@[simp]
theorem decodeUnits_flatMap (text : Text) :
    decodeUnits (text.flatMap encodeUnits) = text.map some := by
  induction text with
  | nil => rfl
  | cons c text inductionHypothesis =>
      rw [List.flatMap_cons, decodeUnits_append_of_spells (spells_encodeUnits c),
        inductionHypothesis, List.map_cons]

theorem flatMap_of_decodeUnits {row : List Nat} {text : Text}
    (small : ∀ unit ∈ row, unit < 0x10000) (decoded : decodeUnits row = text.map some) :
    text.flatMap encodeUnits = row := by
  induction text generalizing row with
  | nil =>
      match row with
      | [] => rfl
      | [unit] => cases decoded
      | unit :: next :: rest =>
          rw [decodeUnits] at decoded
          split at decoded
          · cases decoded
          · split at decoded <;> cases decoded
  | cons c text inductionHypothesis =>
      obtain ⟨form, after, rfl, spells, isRest⟩ := decodeUnits_sound small decoded
      rw [List.forall_mem_append] at small
      rw [List.flatMap_cons, encodeUnits_of_spells spells, inductionHypothesis small.2 isRest]

theorem encode_eq_iff {order : ByteOrder} {text : Text} {bytes : Bytes} :
    encode order text = bytes ↔
      bytes.length % 2 = 0 ∧ decodeUnits (units order bytes) = text.map some := by
  constructor
  · rintro rfl
    have small : ∀ unit ∈ text.flatMap encodeUnits, unit < 0x10000 := by
      intro unit isMember
      obtain ⟨c, -, inForm⟩ := List.mem_flatMap.mp isMember
      exact (spells_encodeUnits c).lt_of_mem unit inForm
    rw [encode, length_flatMap_unitBytes, units_flatMap_unitBytes small]
    exact ⟨Nat.mul_mod_right 2 _, decodeUnits_flatMap text⟩
  · rintro ⟨even, decoded⟩
    rw [encode, flatMap_of_decodeUnits lt_of_mem_units decoded, flatMap_unitBytes_units even]

end Utf16

end MarkdownDialect
