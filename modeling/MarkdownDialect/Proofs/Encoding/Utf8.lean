import MarkdownDialect.Encoding.Utf8

/-!
# UTF-8 there and back

A row of bytes decodes to a text, with nothing missing, exactly if it is the encoding of that text.
Between the two functions stands the table of the forms that a character can have: it says what is
decoded, and it holds each character in one form, in which it is encoded.
-/

namespace MarkdownDialect

/-! ## Characters and bytes by their values -/

theorem toNat_charOfNat {code : Nat}
    (isScalar : code < 0xD800 ∨ 0xDFFF < code ∧ code < 0x110000) :
    (Char.ofNat code).toNat = code := by
  rw [Char.ofNat, dif_pos isScalar]
  rfl

theorem toNat_byteOfNat {value : Nat} (small : value < 256) :
    (UInt8.ofNat value).toNat = value :=
  UInt8.toNat_ofNat_of_lt' small

theorem byteOfNat_eq {byte : UInt8} {value : Nat} (same : value = byte.toNat) :
    UInt8.ofNat value = byte := by
  rw [same, UInt8.ofNat_toNat]

namespace Utf8

/-! ## The classes of bytes by their values -/

theorem isContinuation_iff {byte : UInt8} :
    isContinuation byte = true ↔ 0x80 ≤ byte.toNat ∧ byte.toNat ≤ 0xBF := by
  simp [isContinuation, UInt8.le_iff_toNat_le]

theorem isLead2_iff {lead : UInt8} :
    isLead2 lead = true ↔ 0xC2 ≤ lead.toNat ∧ lead.toNat ≤ 0xDF := by
  simp [isLead2, UInt8.le_iff_toNat_le]

theorem isLead3_iff {lead second : UInt8} :
    isLead3 lead second = true ↔
      0xE0 ≤ lead.toNat ∧ lead.toNat ≤ 0xEF ∧ 0x80 ≤ second.toNat ∧ second.toNat ≤ 0xBF ∧
        (lead.toNat = 0xE0 → 0xA0 ≤ second.toNat) ∧
        (lead.toNat = 0xED → second.toNat ≤ 0x9F) := by
  have first : lead = 0xE0 ↔ lead.toNat = 0xE0 := UInt8.toNat_inj.symm
  have surrogates : lead = 0xED ↔ lead.toNat = 0xED := UInt8.toNat_inj.symm
  unfold isLead3
  split
  · next isFirst =>
      simp only [Bool.and_eq_true, decide_eq_true_eq, UInt8.le_iff_toNat_le, UInt8.reduceToNat]
      rw [first] at isFirst
      omega
  · next notFirst =>
      split
      · next isSurrogate =>
          simp only [Bool.and_eq_true, decide_eq_true_eq, UInt8.le_iff_toNat_le, UInt8.reduceToNat]
          rw [surrogates] at isSurrogate
          omega
      · next notSurrogate =>
          simp only [Bool.and_eq_true, decide_eq_true_eq, UInt8.le_iff_toNat_le,
            UInt8.reduceToNat, isContinuation_iff]
          rw [first] at notFirst
          rw [surrogates] at notSurrogate
          omega

theorem isLead4_iff {lead second : UInt8} :
    isLead4 lead second = true ↔
      0xF0 ≤ lead.toNat ∧ lead.toNat ≤ 0xF4 ∧ 0x80 ≤ second.toNat ∧ second.toNat ≤ 0xBF ∧
        (lead.toNat = 0xF0 → 0x90 ≤ second.toNat) ∧
        (lead.toNat = 0xF4 → second.toNat ≤ 0x8F) := by
  have first : lead = 0xF0 ↔ lead.toNat = 0xF0 := UInt8.toNat_inj.symm
  have last : lead = 0xF4 ↔ lead.toNat = 0xF4 := UInt8.toNat_inj.symm
  unfold isLead4
  split
  · next isFirst =>
      simp only [Bool.and_eq_true, decide_eq_true_eq, UInt8.le_iff_toNat_le, UInt8.reduceToNat]
      rw [first] at isFirst
      omega
  · next notFirst =>
      split
      · next isLast =>
          simp only [Bool.and_eq_true, decide_eq_true_eq, UInt8.le_iff_toNat_le, UInt8.reduceToNat]
          rw [last] at isLast
          omega
      · next notLast =>
          simp only [Bool.and_eq_true, decide_eq_true_eq, UInt8.le_iff_toNat_le,
            UInt8.reduceToNat, isContinuation_iff]
          rw [first] at notFirst
          rw [last] at notLast
          omega

/-! ## The forms of a character -/

/-- The rows of bytes that stand for a character. -/
inductive Spells : Bytes → Char → Prop
  | one {lead : UInt8} : lead < 0x80 → Spells [lead] (Char.ofNat lead.toNat)
  | two {lead second : UInt8} : isLead2 lead = true → isContinuation second = true →
      Spells [lead, second] (Char.ofNat ((lead.toNat - 0xC0) * 64 + payload second))
  | three {lead second third : UInt8} : isLead3 lead second = true → isContinuation third = true →
      Spells [lead, second, third]
        (Char.ofNat (((lead.toNat - 0xE0) * 64 + payload second) * 64 + payload third))
  | four {lead second third fourth : UInt8} : isLead4 lead second = true →
      isContinuation third = true → isContinuation fourth = true →
      Spells [lead, second, third, fourth]
        (Char.ofNat ((((lead.toNat - 0xF0) * 64 + payload second) * 64 + payload third) * 64
          + payload fourth))

theorem decodeFirst_sound {lead : UInt8} {rest : Bytes} {c : Char} {count : Nat}
    (decoding : decodeFirst lead rest = (some c, count)) :
    ∃ more after, rest = more ++ after ∧ more.length = count ∧ Spells (lead :: more) c := by
  unfold decodeFirst at decoding
  split at decoding
  · next ascii =>
      rw [Prod.mk.injEq, Option.some.injEq] at decoding
      obtain ⟨rfl, rfl⟩ := decoding
      exact ⟨[], rest, rfl, rfl, .one ascii⟩
  · split at decoding
    · simp at decoding
    · next second rest =>
        split at decoding
        · next isTwo =>
            rw [Bool.and_eq_true] at isTwo
            rw [Prod.mk.injEq, Option.some.injEq] at decoding
            obtain ⟨rfl, rfl⟩ := decoding
            exact ⟨[second], rest, rfl, rfl, .two isTwo.1 isTwo.2⟩
        · split at decoding
          · next isThree =>
              split at decoding
              · next third rest =>
                  split at decoding
                  · next isThird =>
                      rw [Prod.mk.injEq, Option.some.injEq] at decoding
                      obtain ⟨rfl, rfl⟩ := decoding
                      exact ⟨[second, third], rest, rfl, rfl, .three isThree isThird⟩
                  · simp at decoding
              · simp at decoding
          · split at decoding
            · next isFour =>
                split at decoding
                · next third rest =>
                    split at decoding
                    · next isThird =>
                        split at decoding
                        · next fourth rest =>
                            split at decoding
                            · next isFourth =>
                                rw [Prod.mk.injEq, Option.some.injEq] at decoding
                                obtain ⟨rfl, rfl⟩ := decoding
                                exact ⟨[second, third, fourth], rest, rfl, rfl,
                                  .four isFour isThird isFourth⟩
                            · simp at decoding
                        · simp at decoding
                    · simp at decoding
                · simp at decoding
            · simp at decoding

/-- Which form a row has is seen from its first two bytes. -/
theorem decodeFirst_complete {lead : UInt8} {more : Bytes} {c : Char}
    (spells : Spells (lead :: more) c) (rest : Bytes) :
    decodeFirst lead (more ++ rest) = (some c, more.length) := by
  have ascii : lead < 0x80 ↔ lead.toNat < 0x80 := UInt8.lt_iff_toNat_lt
  cases spells with
  | one isAscii =>
      rw [decodeFirst.eq_def, if_pos isAscii]
      rfl
  | @two lead second isLead isSecond =>
      have bounds := isLead2_iff.mp isLead
      have notAscii : ¬lead < 0x80 := by
        rw [ascii]
        omega
      simp only [decodeFirst, List.cons_append, List.nil_append, if_neg notAscii, isLead, isSecond,
        Bool.and_self, if_true, List.length_cons, List.length_nil]
  | @three lead second third isLead isThird =>
      have bounds := isLead3_iff.mp isLead
      have notAscii : ¬lead < 0x80 := by
        rw [ascii]
        omega
      have notTwo : isLead2 lead = false := by
        rw [← Bool.not_eq_true, isLead2_iff]
        omega
      simp only [decodeFirst, List.cons_append, List.nil_append, if_neg notAscii, notTwo, isLead,
        isThird, Bool.false_and, Bool.false_eq_true, if_false, if_true, List.length_cons,
        List.length_nil]
  | @four lead second third fourth isLead isThird isFourth =>
      have bounds := isLead4_iff.mp isLead
      have notAscii : ¬lead < 0x80 := by
        rw [ascii]
        omega
      have notTwo : isLead2 lead = false := by
        rw [← Bool.not_eq_true, isLead2_iff]
        omega
      have notThree : isLead3 lead second = false := by
        rw [← Bool.not_eq_true, isLead3_iff]
        omega
      simp only [decodeFirst, List.cons_append, List.nil_append, if_neg notAscii, notTwo, notThree,
        isLead, isThird, isFourth, Bool.false_and, Bool.false_eq_true, if_false, if_true,
        List.length_cons, List.length_nil]

/-! ## Each character has one form -/

section

variable {c : Char}

theorem encodeChar_one (ascii : c.toNat < 0x80) : encodeChar c = [UInt8.ofNat c.toNat] := by
  rw [encodeChar, if_pos ascii]

theorem encodeChar_two (low : 0x80 ≤ c.toNat) (high : c.toNat < 0x800) :
    encodeChar c = [UInt8.ofNat (0xC0 + c.toNat / 64), UInt8.ofNat (0x80 + c.toNat % 64)] := by
  rw [encodeChar, if_neg (by omega), if_pos high]
  simp only [Nat.div_one]

theorem encodeChar_three (low : 0x800 ≤ c.toNat) (high : c.toNat < 0x10000) :
    encodeChar c = [UInt8.ofNat (0xE0 + c.toNat / 4096), UInt8.ofNat (0x80 + c.toNat / 64 % 64),
      UInt8.ofNat (0x80 + c.toNat % 64)] := by
  rw [encodeChar, if_neg (by omega), if_neg (by omega), if_pos high]
  simp only [Nat.div_one]

theorem encodeChar_four (low : 0x10000 ≤ c.toNat) :
    encodeChar c = [UInt8.ofNat (0xF0 + c.toNat / 262144),
      UInt8.ofNat (0x80 + c.toNat / 4096 % 64), UInt8.ofNat (0x80 + c.toNat / 64 % 64),
      UInt8.ofNat (0x80 + c.toNat % 64)] := by
  rw [encodeChar, if_neg (by omega), if_neg (by omega), if_neg (by omega)]
  simp only [Nat.div_one]

end

theorem encodeChar_of_spells {bytes : Bytes} {c : Char} (spells : Spells bytes c) :
    encodeChar c = bytes := by
  cases spells with
  | @one lead isAscii =>
      have small : lead.toNat < 0x80 := UInt8.lt_iff_toNat_lt.mp isAscii
      have code := toNat_charOfNat (show lead.toNat < 0xD800 ∨ _ by omega)
      rw [encodeChar_one (by omega), code, UInt8.ofNat_toNat]
  | @two lead second isLead isSecond =>
      have leadBounds := isLead2_iff.mp isLead
      have secondBounds := isContinuation_iff.mp isSecond
      unfold payload
      generalize value : (lead.toNat - 0xC0) * 64 + second.toNat % 64 = code
      have isCode : (Char.ofNat code).toNat = code := toNat_charOfNat (by omega)
      rw [encodeChar_two (by omega) (by omega), isCode, @byteOfNat_eq lead _ (by omega),
        @byteOfNat_eq second _ (by omega)]
  | @three lead second third isLead isThird =>
      have leadBounds := isLead3_iff.mp isLead
      have thirdBounds := isContinuation_iff.mp isThird
      unfold payload
      generalize value : ((lead.toNat - 0xE0) * 64 + second.toNat % 64) * 64
        + third.toNat % 64 = code
      have isCode : (Char.ofNat code).toNat = code := toNat_charOfNat (by omega)
      rw [encodeChar_three (by omega) (by omega), isCode, @byteOfNat_eq lead _ (by omega),
        @byteOfNat_eq second _ (by omega), @byteOfNat_eq third _ (by omega)]
  | @four lead second third fourth isLead isThird isFourth =>
      have leadBounds := isLead4_iff.mp isLead
      have thirdBounds := isContinuation_iff.mp isThird
      have fourthBounds := isContinuation_iff.mp isFourth
      unfold payload
      generalize value : (((lead.toNat - 0xF0) * 64 + second.toNat % 64) * 64
        + third.toNat % 64) * 64 + fourth.toNat % 64 = code
      have isCode : (Char.ofNat code).toNat = code := toNat_charOfNat (by omega)
      rw [encodeChar_four (by omega), isCode, @byteOfNat_eq lead _ (by omega),
        @byteOfNat_eq second _ (by omega), @byteOfNat_eq third _ (by omega),
        @byteOfNat_eq fourth _ (by omega)]

theorem spells_encodeChar (c : Char) : Spells (encodeChar c) c := by
  have scalar : c.toNat < 0xD800 ∨ 0xDFFF < c.toNat ∧ c.toNat < 0x110000 := c.valid
  have third : (UInt8.ofNat (0x80 + c.toNat / 64 % 64)).toNat = 0x80 + c.toNat / 64 % 64 :=
    toNat_byteOfNat (by omega)
  have last : (UInt8.ofNat (0x80 + c.toNat % 64)).toNat = 0x80 + c.toNat % 64 :=
    toNat_byteOfNat (by omega)
  by_cases one : c.toNat < 0x80
  · have lead : (UInt8.ofNat c.toNat).toNat = c.toNat := toNat_byteOfNat (by omega)
    rw [encodeChar_one one]
    generalize UInt8.ofNat c.toNat = first at lead ⊢
    rw [← Char.ofNat_toNat c, ← lead]
    exact .one (UInt8.lt_iff_toNat_lt.mpr (by rw [lead]; exact one))
  · by_cases two : c.toNat < 0x800
    · have lead : (UInt8.ofNat (0xC0 + c.toNat / 64)).toNat = 0xC0 + c.toNat / 64 :=
        toNat_byteOfNat (by omega)
      rw [encodeChar_two (by omega) two]
      generalize UInt8.ofNat (0xC0 + c.toNat / 64) = byte₁ at lead ⊢
      generalize UInt8.ofNat (0x80 + c.toNat % 64) = byte₂ at last ⊢
      have code : (byte₁.toNat - 0xC0) * 64 + payload byte₂ = c.toNat := by
        unfold payload
        omega
      rw [← Char.ofNat_toNat c, ← code]
      exact .two (isLead2_iff.mpr (by omega)) (isContinuation_iff.mpr (by omega))
    · by_cases three : c.toNat < 0x10000
      · have lead : (UInt8.ofNat (0xE0 + c.toNat / 4096)).toNat = 0xE0 + c.toNat / 4096 :=
          toNat_byteOfNat (by omega)
        rw [encodeChar_three (by omega) three]
        generalize UInt8.ofNat (0xE0 + c.toNat / 4096) = byte₁ at lead ⊢
        generalize UInt8.ofNat (0x80 + c.toNat / 64 % 64) = byte₂ at third ⊢
        generalize UInt8.ofNat (0x80 + c.toNat % 64) = byte₃ at last ⊢
        have code : ((byte₁.toNat - 0xE0) * 64 + payload byte₂) * 64 + payload byte₃ =
            c.toNat := by
          unfold payload
          omega
        rw [← Char.ofNat_toNat c, ← code]
        exact .three (isLead3_iff.mpr (by omega)) (isContinuation_iff.mpr (by omega))
      · have lead : (UInt8.ofNat (0xF0 + c.toNat / 262144)).toNat = 0xF0 + c.toNat / 262144 :=
          toNat_byteOfNat (by omega)
        have second : (UInt8.ofNat (0x80 + c.toNat / 4096 % 64)).toNat =
            0x80 + c.toNat / 4096 % 64 :=
          toNat_byteOfNat (by omega)
        rw [encodeChar_four (by omega)]
        generalize UInt8.ofNat (0xF0 + c.toNat / 262144) = byte₁ at lead ⊢
        generalize UInt8.ofNat (0x80 + c.toNat / 4096 % 64) = byte₂ at second ⊢
        generalize UInt8.ofNat (0x80 + c.toNat / 64 % 64) = byte₃ at third ⊢
        generalize UInt8.ofNat (0x80 + c.toNat % 64) = byte₄ at last ⊢
        have code : (((byte₁.toNat - 0xF0) * 64 + payload byte₂) * 64 + payload byte₃) * 64
            + payload byte₄ = c.toNat := by
          unfold payload
          omega
        rw [← Char.ofNat_toNat c, ← code]
        exact .four (isLead4_iff.mpr (by omega)) (isContinuation_iff.mpr (by omega))
          (isContinuation_iff.mpr (by omega))

/-! ## Decoding and encoding of texts -/

theorem decodeAfter_eq (skip : Nat) (bytes : Bytes) :
    decodeAfter skip bytes = decode (bytes.drop skip) := by
  induction bytes generalizing skip with
  | nil => rw [decodeAfter, List.drop_nil, decode, decodeAfter]
  | cons byte rest inductionHypothesis =>
      cases skip with
      | zero => rw [List.drop_zero, decode]
      | succ skip => rw [decodeAfter, inductionHypothesis, List.drop_succ_cons]

theorem decode_cons (lead : UInt8) (rest : Bytes) :
    decode (lead :: rest) =
      (decodeFirst lead rest).1 :: decode (rest.drop (decodeFirst lead rest).2) := by
  rw [decode, decodeAfter, decodeAfter_eq]

theorem decode_append_of_spells {bytes : Bytes} {c : Char} (spells : Spells bytes c)
    (rest : Bytes) : decode (bytes ++ rest) = some c :: decode rest := by
  obtain ⟨lead, more, rfl⟩ : ∃ lead more, bytes = lead :: more := by
    cases spells <;> exact ⟨_, _, rfl⟩
  rw [List.cons_append, decode_cons, decodeFirst_complete spells, List.drop_left]

@[simp]
theorem decode_encode (text : Text) : decode (encode text) = text.map some := by
  induction text with
  | nil => rfl
  | cons c text inductionHypothesis =>
      rw [encode, List.flatMap_cons, decode_append_of_spells (spells_encodeChar c), List.map_cons,
        ← encode, inductionHypothesis]

/-- What is decoded first are the first bytes of the row, in the form of that character. -/
theorem decode_sound {bytes : Bytes} {c : Char} {decoded : List (Option Char)}
    (decoding : decode bytes = some c :: decoded) :
    ∃ form after, bytes = form ++ after ∧ Spells form c ∧ decode after = decoded := by
  cases bytes with
  | nil => cases decoding
  | cons lead rest =>
      rw [decode_cons, List.cons.injEq] at decoding
      obtain ⟨isFirst, isRest⟩ := decoding
      cases reading : decodeFirst lead rest with
      | mk first count =>
          rw [reading] at isFirst isRest
          cases isFirst
          obtain ⟨more, after, rfl, rfl, spells⟩ := decodeFirst_sound reading
          rw [List.drop_left] at isRest
          exact ⟨lead :: more, after, rfl, spells, isRest⟩

theorem encode_of_decode {bytes : Bytes} {text : Text} (decoded : decode bytes = text.map some) :
    encode text = bytes := by
  induction text generalizing bytes with
  | nil =>
      cases bytes with
      | nil => rfl
      | cons lead rest =>
          rw [decode_cons] at decoded
          cases decoded
  | cons c text inductionHypothesis =>
      obtain ⟨form, after, rfl, spells, isRest⟩ := decode_sound decoded
      rw [encode, List.flatMap_cons, encodeChar_of_spells spells, ← encode,
        inductionHypothesis isRest]

theorem encode_eq_iff {text : Text} {bytes : Bytes} :
    encode text = bytes ↔ decode bytes = text.map some := by
  constructor
  · rintro rfl
    exact decode_encode text
  · exact encode_of_decode

end Utf8

end MarkdownDialect
