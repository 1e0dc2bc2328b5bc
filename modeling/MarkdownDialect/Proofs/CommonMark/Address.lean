import MarkdownDialect.Proofs.Text.CharClass
import MarkdownDialect.Proofs.Text.Escape
import MarkdownDialect.CommonMark.Html

/-!
# Addresses read back

An address is printed with character references, and some of its bytes as percent escapes. Once
both are decoded, the ways of printing an address give the same bytes.
-/

namespace MarkdownDialect.CommonMark

open Text

/-! ## Character references -/

/-- The references that are printed, with the characters that they stand for. -/
def references : List (Char × Text) :=
  entities ++ [('\x27', "&#x27;".toList)]

/-- A reference at the front of a text. -/
def reference? (text : Text) : Option (Text × Text) :=
  references.findSome? fun reference =>
    (reference.2.isPrefixOf? text).map fun rest => ([reference.1], rest)

def decodeReferences (text : Text) : Text :=
  replaceMatches reference? text

private theorem advances_reference : Advances reference? := by
  intro text found after reading
  obtain ⟨reference, member, isFront⟩ := List.exists_of_findSome?_eq_some reading
  have nonempty : ∀ reference ∈ references, reference.2 ≠ [] := by
    decide
  exact advances_fixed [reference.1] (nonempty reference member) text found after isFront

theorem inert_reference {piece : Text} (noAmpersand : '&' ∉ piece) : Inert reference? piece := by
  apply inert_of_not_mem _ noAmpersand
  intro c rest different
  have beginning : ∀ reference ∈ references, reference.2.head? = some '&' := by
    decide
  unfold reference?
  rw [List.findSome?_eq_none_iff]
  intro reference member
  obtain ⟨others, isReference⟩ := List.head?_eq_some_iff.mp (beginning reference member)
  rw [Option.map_eq_none_iff, isReference]
  simp [List.isPrefixOf?, different.symm]

theorem reference?_append : ∀ reference ∈ references, ∀ rest,
    reference? (reference.2 ++ rest) = some ([reference.1], rest) := by
  unfold references entities
  simp [reference?, references, entities, List.isPrefixOf?]

/-- Where every character stays or is written as a reference, the text reads back character by
character. -/
theorem decodeReferences_flatMap {written decoded : Char → Text} {text : Text}
    (each : ∀ c ∈ text, '&' ∉ written c ∧ decoded c = written c ∨
      ∃ reference ∈ references, written c = reference.2 ∧ decoded c = [reference.1]) :
    decodeReferences (text.flatMap written) = text.flatMap decoded := by
  have pieces : ∀ c ∈ text, Inert reference? (written c) ∧ decoded c = written c ∨
      ∀ rest, reference? (written c ++ rest) = some (decoded c, rest) := by
    intro c member
    rcases each c member with ⟨noAmpersand, same⟩ | ⟨reference, isReference, isWritten, isDecoded⟩
    · exact Or.inl ⟨inert_reference noAmpersand, same⟩
    · right
      rw [isWritten, isDecoded]
      exact reference?_append reference isReference
  have replaced := replaceMatches_flatMap advances_reference pieces []
  rwa [replaceMatches_nil, List.append_nil, List.append_nil] at replaced

theorem decodeReferences_flatMap_eq_self {written : Char → Text} {text : Text}
    (each : ∀ c ∈ text, (c, written c) ∈ references ∨ c ≠ '&' ∧ written c = [c]) :
    decodeReferences (text.flatMap written) = text := by
  have decoded : decodeReferences (text.flatMap written) = text.flatMap fun c => [c] := by
    apply decodeReferences_flatMap
    intro c member
    rcases each c member with isReference | ⟨different, same⟩
    · exact Or.inr ⟨_, isReference, rfl, rfl⟩
    · rw [same]
      exact Or.inl ⟨by simpa using different.symm, rfl⟩
  rw [decoded, List.flatMap_singleton']

/-- What is escaped for HTML reads back. -/
@[simp]
theorem decodeReferences_escape (text : Text) : decodeReferences (escape text) = text := by
  rw [escape_eq_flatMap]
  apply decodeReferences_flatMap_eq_self
  intro c _
  by_cases special : c ∈ entities.map Prod.fst
  · have areReferences : ∀ c ∈ entities.map Prod.fst, (c, entityOf c) ∈ references := by
      rw [List.forall_mem_map]
      decide
    exact Or.inl (areReferences c special)
  · have different : c ≠ '&' := by
      rintro rfl
      exact special (by decide)
    exact Or.inr ⟨different, entityOf_eq_self special⟩

theorem escapeContent_singleton {c : Char} (ordinary : c ∉ ['&', '<', '>', '\x22']) :
    escapeContent [c] = [c] := by
  simp only [List.mem_cons, List.not_mem_nil, or_false, not_or] at ordinary
  obtain ⟨notAmpersand, notLess, notGreater, notQuote⟩ := ordinary
  unfold escapeContent
  rw [List.flatMap_singleton, if_neg notAmpersand, if_neg notLess, if_neg notGreater,
    if_neg notQuote]

@[simp]
theorem flatMap_escapeContent (text : Text) :
    text.flatMap (fun c => escapeContent [c]) = escapeContent text := by
  simp only [escapeContent, List.flatMap_singleton]

/-- What is escaped for a text or a quoted attribute reads back. -/
@[simp]
theorem decodeReferences_escapeContent (text : Text) :
    decodeReferences (escapeContent text) = text := by
  rw [← flatMap_escapeContent]
  apply decodeReferences_flatMap_eq_self
  intro c _
  by_cases special : c ∈ ['&', '<', '>', '\x22']
  · have areReferences : ∀ c ∈ ['&', '<', '>', '\x22'], (c, escapeContent [c]) ∈ references := by
      rw [List.forall_mem_cons, List.forall_mem_cons, List.forall_mem_cons,
        List.forall_mem_singleton]
      decide
    exact Or.inl (areReferences c special)
  · have different : c ≠ '&' := by
      rintro rfl
      exact special (by decide)
    exact Or.inr ⟨different, escapeContent_singleton special⟩

@[simp]
theorem quote_not_mem_escapeContent (text : Text) : '\x22' ∉ escapeContent text := by
  unfold escapeContent
  rw [List.mem_flatMap]
  intro ⟨c, _, inEscaped⟩
  split_ifs at inEscaped with ampersand less greater quote
  · exact absurd inEscaped (by decide)
  · exact absurd inEscaped (by decide)
  · exact absurd inEscaped (by decide)
  · exact absurd inEscaped (by decide)
  · exact quote (List.mem_singleton.mp inEscaped).symm

/-! ## Percent escapes -/

/-- The bytes of an address. Where two hexadecimal digits follow a percent sign, they are a byte;
everything else is in UTF-8. -/
def percentDecode : Text → Bytes
  | [] => []
  | '%' :: high :: low :: rest =>
    if isHexDigit high && isHexDigit low then
      UInt8.ofNat (hexValue [high, low]) :: percentDecode rest
    else
      Utf8.encodeChar '%' ++ percentDecode (high :: low :: rest)
  | c :: rest => Utf8.encodeChar c ++ percentDecode rest

theorem percentDecode_escape {high low : Char} (highIsDigit : isHexDigit high = true)
    (lowIsDigit : isHexDigit low = true) (rest : Text) :
    percentDecode ('%' :: high :: low :: rest) =
      UInt8.ofNat (hexValue [high, low]) :: percentDecode rest := by
  simp only [percentDecode, highIsDigit, lowIsDigit, Bool.and_self, if_true]

/-- A character that begins no escape stands for itself. -/
theorem percentDecode_cons {c : Char} {rest : Text}
    (noEscape : c = '%' → ∀ high low others, rest = high :: low :: others →
      (isHexDigit high && isHexDigit low) = false) :
    percentDecode (c :: rest) = Utf8.encodeChar c ++ percentDecode rest := by
  by_cases isLong : c = '%' ∧ ∃ high low others, rest = high :: low :: others
  · obtain ⟨rfl, high, low, others, rfl⟩ := isLong
    rw [percentDecode, noEscape rfl high low others rfl]
    rfl
  · rw [percentDecode]
    intro high low others isPercent split
    exact isLong ⟨isPercent, high, low, others, split⟩

theorem percentDecode_append {front : Text} (noPercent : '%' ∉ front) (rest : Text) :
    percentDecode (front ++ rest) = Utf8.encode front ++ percentDecode rest := by
  induction front with
  | nil => rfl
  | cons c others inductionHypothesis =>
      rw [List.mem_cons, not_or] at noPercent
      rw [List.cons_append, percentDecode_cons fun same => absurd same.symm noPercent.1,
        inductionHypothesis noPercent.2, ← List.append_assoc]
      rfl

@[simp]
theorem percentDecode_percentEscape (byte : UInt8) (rest : Text) :
    percentDecode (percentEscape byte ++ rest) = byte :: percentDecode rest := by
  have digits : ∀ n < 16, isHexDigit (hexDigit n) = true ∧ hexDigitValue (hexDigit n) = n := by
    decide
  have small : byte.toNat < 256 := byte.toNat_lt
  obtain ⟨highIsDigit, highValue⟩ := digits (byte.toNat / 16) (by omega)
  obtain ⟨lowIsDigit, lowValue⟩ := digits (byte.toNat % 16) (by omega)
  have value : hexValue [hexDigit (byte.toNat / 16), hexDigit (byte.toNat % 16)] =
      byte.toNat := by
    simp only [hexValue, List.foldl_cons, List.foldl_nil, highValue, lowValue]
    omega
  rw [percentEscape, List.cons_append, List.cons_append, List.cons_append, List.nil_append,
    percentDecode_escape highIsDigit lowIsDigit, value, UInt8.ofNat_toNat]

@[simp]
theorem percentDecode_percentEscapes (bytes : Bytes) (rest : Text) :
    percentDecode (bytes.flatMap percentEscape ++ rest) = bytes ++ percentDecode rest := by
  induction bytes with
  | nil => rfl
  | cons byte others inductionHypothesis =>
      rw [List.flatMap_cons, List.append_assoc, percentDecode_percentEscape, inductionHypothesis]
      rfl

/-- What is printed for a character of an address, with the references decoded. -/
def percentForm (c : Char) : Text :=
  if isAddressChar c || c = '&' || c = '\x27' then [c]
  else (Utf8.encode [c]).flatMap percentEscape

theorem not_mem_percentEscapes {c : Char} (different : c ≠ '%')
    (noDigit : isHexDigit c = false) (bytes : Bytes) : c ∉ bytes.flatMap percentEscape := by
  have isDigit : ∀ n < 16, isHexDigit (hexDigit n) = true := by
    decide
  have unlike : ∀ n < 16, c ≠ hexDigit n := by
    rintro n small rfl
    rw [isDigit n small] at noDigit
    contradiction
  rw [List.mem_flatMap]
  intro ⟨byte, _, inEscape⟩
  have small : byte.toNat < 256 := byte.toNat_lt
  have notHigh := unlike (byte.toNat / 16) (by omega)
  have notLow := unlike (byte.toNat % 16) (by omega)
  simp [percentEscape, different, notHigh, notLow] at inEscape

@[simp]
theorem quote_not_mem_escapeAddress (address : Text) : '\x22' ∉ escapeAddress address := by
  unfold escapeAddress
  rw [List.mem_flatMap]
  intro ⟨c, _, inEscaped⟩
  split at inEscaped
  · next isPlain =>
      rw [← List.mem_singleton.mp inEscaped] at isPlain
      exact absurd isPlain (by decide)
  · split at inEscaped
    · exact absurd inEscaped (by decide)
    · split at inEscaped
      · exact absurd inEscaped (by decide)
      · exact not_mem_percentEscapes (by decide) (by decide) _ inEscaped

private theorem escapeAddress_of_percentForm (c : Char) (different : c ∉ ['&', '\x27']) :
    escapeAddress [c] = percentForm c := by
  simp only [List.mem_cons, List.not_mem_nil, or_false, not_or] at different
  unfold escapeAddress percentForm
  rw [List.flatMap_singleton, if_neg different.1, if_neg different.2]
  simp only [different, decide_false, Bool.or_false]

/-- A printed address reads back up to its percent escapes. -/
theorem decodeReferences_escapeAddress (address : Text) :
    decodeReferences (escapeAddress address) = address.flatMap percentForm := by
  have decoded : decodeReferences (address.flatMap fun c => escapeAddress [c]) =
      address.flatMap percentForm := by
    apply decodeReferences_flatMap
    intro c _
    by_cases special : c ∈ ['&', '\x27']
    · have isReference : ∀ c ∈ ['&', '\x27'],
          (c, escapeAddress [c]) ∈ references ∧ percentForm c = [c] := by
        rw [List.forall_mem_cons, List.forall_mem_singleton]
        decide
      obtain ⟨inTable, isPlain⟩ := isReference c special
      exact Or.inr ⟨_, inTable, rfl, isPlain⟩
    · left
      rw [escapeAddress_of_percentForm c special]
      refine ⟨?_, rfl⟩
      unfold percentForm
      split
      · rw [List.mem_singleton]
        rintro rfl
        exact special (by decide)
      · exact not_mem_percentEscapes (by decide) (by decide) _
  have pieces : address.flatMap (fun c => escapeAddress [c]) = escapeAddress address := by
    simp only [escapeAddress, List.flatMap_singleton]
  rw [← pieces, decoded]

private theorem percentForm_of_isHexDigit {c : Char} (isDigit : isHexDigit c = true) :
    percentForm c = [c] := by
  have isPlain : isAddressChar c = true := by
    have small : ∀ n < 103, isHexDigit (Char.ofNat n) = true →
        isAddressChar (Char.ofNat n) = true := by
      decide
    have bounds := isHexDigit_bounds isDigit
    rw [← Char.ofNat_toNat c] at isDigit ⊢
    exact small c.toNat (by omega) isDigit
  rw [percentForm, isPlain]
  rfl

theorem percentForm_eq (c : Char) :
    percentForm c = [c] ∨ ∃ others, percentForm c = '%' :: others := by
  unfold percentForm
  split
  · exact Or.inl rfl
  · right
    unfold Utf8.encode Utf8.encodeChar
    rw [List.flatMap_singleton]
    dsimp only
    split_ifs
    all_goals exact ⟨_, rfl⟩

/-- A hexadecimal digit at the front of a printed address is there in the address itself. -/
private theorem eq_cons_of_flatMap_percentForm {address rest : Text} {c : Char}
    (isDigit : isHexDigit c = true) (printed : address.flatMap percentForm = c :: rest) :
    ∃ others, address = c :: others ∧ others.flatMap percentForm = rest := by
  cases address with
  | nil => contradiction
  | cons d others =>
      rw [List.flatMap_cons] at printed
      cases percentForm_eq d with
      | inl isPlain =>
          rw [isPlain, List.singleton_append, List.cons.injEq] at printed
          exact ⟨others, by rw [printed.1], printed.2⟩
      | inr isEscaped =>
          obtain ⟨digits, isEscaped⟩ := isEscaped
          rw [isEscaped, List.cons_append, List.cons.injEq] at printed
          rw [← printed.1] at isDigit
          contradiction

/-- No escape comes about behind a character when an address is printed. -/
private theorem isHexDigit_of_flatMap_percentForm {address others : Text} {high low : Char}
    (highIsDigit : isHexDigit high = true) (lowIsDigit : isHexDigit low = true)
    (printed : address.flatMap percentForm = high :: low :: others) :
    ∃ rest, address = high :: low :: rest := by
  obtain ⟨afterHigh, rfl, printedAfter⟩ := eq_cons_of_flatMap_percentForm highIsDigit printed
  obtain ⟨rest, rfl, _⟩ := eq_cons_of_flatMap_percentForm lowIsDigit printedAfter
  exact ⟨rest, rfl⟩

theorem percentDecode_percentForm_append {c : Char} {address : Text}
    (noEscape : c = '%' → ∀ high low others, address = high :: low :: others →
      (isHexDigit high && isHexDigit low) = false) :
    percentDecode (percentForm c ++ address.flatMap percentForm) =
      Utf8.encodeChar c ++ percentDecode (address.flatMap percentForm) := by
  unfold percentForm
  split
  · apply percentDecode_cons
    intro isPercent high low others printed
    by_contra areDigits
    rw [Bool.not_eq_false, Bool.and_eq_true] at areDigits
    obtain ⟨rest, isLong⟩ := isHexDigit_of_flatMap_percentForm areDigits.1 areDigits.2 printed
    have notDigits := noEscape isPercent high low rest isLong
    rw [areDigits.1, areDigits.2] at notDigits
    contradiction
  · rw [percentDecode_percentEscapes, Utf8.encode, List.flatMap_singleton]

/-- An address has the same bytes before and after it is printed. -/
theorem percentDecode_flatMap_percentForm (address : Text) :
    percentDecode (address.flatMap percentForm) = percentDecode address := by
  fun_induction percentDecode address with
  | case1 => rfl
  | case2 high low rest areDigits inductionHypothesis =>
      rw [Bool.and_eq_true] at areDigits
      have printed : ('%' :: high :: low :: rest).flatMap percentForm =
          '%' :: high :: low :: rest.flatMap percentForm := by
        simp only [List.flatMap_cons, percentForm_of_isHexDigit areDigits.1,
          percentForm_of_isHexDigit areDigits.2]
        rfl
      rw [printed, percentDecode_escape areDigits.1 areDigits.2, inductionHypothesis]
  | case3 high low rest notDigits inductionHypothesis =>
      rw [List.flatMap_cons, percentDecode_percentForm_append, inductionHypothesis]
      intro _ otherHigh otherLow others isLong
      rw [List.cons.injEq, List.cons.injEq] at isLong
      rw [← isLong.1, ← isLong.2.1]
      exact Bool.eq_false_iff.mpr notDigits
  | case4 c rest notLong inductionHypothesis =>
      rw [List.flatMap_cons, percentDecode_percentForm_append, inductionHypothesis]
      intro isPercent high low others isLong
      exact (notLong high low others isPercent isLong).elim

end MarkdownDialect.CommonMark
