import MarkdownDialect.FileAccess
import MarkdownDialect.Proofs.Encoding.Utf16

/-!
# Reading decodes what was encoded

An encoding is detected again in the bytes that it gives, so a text is read back from its bytes.
A document counts as lossy exactly if its bytes cannot be restored from its text.
-/

namespace MarkdownDialect

open Text

/-! ## Characters that are missing -/

@[simp]
theorem replaceMissing_map_some (text : Text) : replaceMissing (text.map some) = text := by
  rw [replaceMissing, List.map_map]
  exact List.map_id text

theorem any_isNone_eq_false_iff {decoded : List (Option Char)} :
    decoded.any Option.isNone = false ↔ decoded = (replaceMissing decoded).map some := by
  constructor
  · intro complete
    induction decoded with
    | nil => rfl
    | cons first decoded inductionHypothesis =>
        rw [List.any_cons, Bool.or_eq_false_iff] at complete
        obtain ⟨c, rfl⟩ := Option.isSome_iff_exists.mp (Option.isNone_eq_false_iff.mp complete.1)
        exact congrArg (some c :: ·) (inductionHypothesis complete.2)
  · intro complete
    rw [complete, List.any_map]
    exact List.any_eq_false.mpr fun c _ => Bool.false_ne_true

namespace Encoding

/-! ## What follows the mark -/

/-- The bytes of a text in an encoding, without its mark. -/
def encodeBody : Encoding → Text → Bytes
  | utf16 order, text => Utf16.encode order text
  | _, text => Utf8.encode text

theorem encode_eq (encoding : Encoding) (text : Text) :
    encoding.encode text = encoding.mark ++ encoding.encodeBody text := by
  cases encoding <;> rfl

@[simp]
theorem decodeBody_encodeBody (encoding : Encoding) (text : Text) :
    encoding.decodeBody (encoding.encodeBody text) = text.map some := by
  cases encoding with
  | utf16 order => exact (Utf16.encode_eq_iff.mp rfl).2
  | utf8 => exact Utf8.decode_encode text
  | utf8WithMark => exact Utf8.decode_encode text
  | unknown => exact Utf8.decode_encode text

theorem losesBytes_eq_false_iff {encoding : Encoding} {body : Bytes} :
    encoding.losesBytes body = false ↔
      encoding.encodeBody (replaceMissing (encoding.decodeBody body)) = body := by
  have inUtf8 : (Utf8.decode body).any Option.isNone = false ↔
      Utf8.encode (replaceMissing (Utf8.decode body)) = body := by
    rw [any_isNone_eq_false_iff, Utf8.encode_eq_iff]
  cases encoding with
  | utf16 order =>
      rw [encodeBody, Utf16.encode_eq_iff, decodeBody, ← any_isNone_eq_false_iff, losesBytes,
        decodeBody, Bool.or_eq_false_iff, bne_eq_false_iff_eq]
  | utf8 => exact inUtf8
  | utf8WithMark => exact inUtf8
  | unknown => exact inUtf8

/-! ## Which encoding is detected -/

private theorem mark_detect_prefix (bytes : Bytes) : (detect bytes).mark <+: bytes := by
  unfold detect
  split
  · next encoding found =>
      have isPrefix := List.find?_some found
      exact List.isPrefixOf_iff_prefix.mp isPrefix
  · split <;> exact List.nil_prefix

private theorem detect_append_mark {encoding : Encoding} (isMarked : encoding ∈ marked)
    (body : Bytes) :
    detect (encoding.mark ++ body) = encoding := by
  simp only [marked, List.mem_cons, List.not_mem_nil, or_false] at isMarked
  rcases isMarked with rfl | rfl | rfl <;> rfl

private theorem not_mark_prefix_of_utf8 {encoding : Encoding} (isMarked : encoding ∈ marked)
    {text : Text} (noMark : text.head? ≠ some '\ufeff') : ¬encoding.mark <+: Utf8.encode text := by
  rintro ⟨body, isEncoding⟩
  have decoded := Utf8.decode_encode text
  rw [← isEncoding] at decoded
  simp only [marked, List.mem_cons, List.not_mem_nil, or_false] at isMarked
  rcases isMarked with rfl | rfl | rfl
  · have isMark : Utf8.Spells (mark utf8WithMark) '\ufeff' := .three rfl rfl
    rw [Utf8.decode_append_of_spells isMark] at decoded
    have isFirst := congrArg List.head? decoded
    rw [List.head?_cons, List.head?_map] at isFirst
    cases text with
    | nil => cases isFirst
    | cons c text =>
        cases isFirst
        exact noMark rfl
  all_goals
    have isFirst := congrArg List.head? decoded
    rw [mark, List.cons_append, Utf8.decode_cons, List.head?_cons, List.head?_map] at isFirst
    cases text <;> cases isFirst

private theorem detect_utf8 {text : Text} (noMark : text.head? ≠ some '\ufeff') :
    detect (Utf8.encode text) = utf8 := by
  have unmarked : (marked.find? fun encoding => encoding.mark.isPrefixOf (Utf8.encode text)) =
      none := by
    rw [List.find?_eq_none]
    intro encoding isMarked
    rw [List.isPrefixOf_iff_prefix]
    exact not_mark_prefix_of_utf8 isMarked noMark
  have isValid : Utf8.isValid (Utf8.encode text) = true := by
    rw [Utf8.isValid, Utf8.decode_encode, List.all_map]
    exact List.all_eq_true.mpr fun c _ => rfl
  rw [detect, unmarked, isValid]
  rfl

theorem detect_encode {encoding : Encoding} {text : Text} (known : encoding ≠ unknown)
    (noMark : encoding = utf8 → text.head? ≠ some '\ufeff') :
    detect (encoding.encode text) = encoding := by
  cases encoding with
  | utf8 => exact detect_utf8 (noMark rfl)
  | utf8WithMark => exact detect_append_mark (by decide) _
  | utf16 order =>
      have isMarked : utf16 order ∈ marked := by cases order <;> decide
      exact detect_append_mark isMarked _
  | unknown => exact absurd rfl known

end Encoding

/-! ## Documents -/

theorem Document.ofBytes_encode {encoding : Encoding} {text : Text}
    (detected : Encoding.detect (encoding.encode text) = encoding) :
    Document.ofBytes (encoding.encode text) =
      { content := text, encoding := encoding, sizeInBytes := (encoding.encode text).length,
        lossy := false } := by
  have isBody : (encoding.encode text).drop encoding.mark.length = encoding.encodeBody text := by
    rw [Encoding.encode_eq, List.drop_left]
  have isText : replaceMissing (encoding.decodeBody (encoding.encodeBody text)) = text := by
    rw [Encoding.decodeBody_encodeBody, replaceMissing_map_some]
  have lossless : encoding.losesBytes (encoding.encodeBody text) = false := by
    rw [Encoding.losesBytes_eq_false_iff, isText]
  rw [Document.ofBytes, detected, isBody, isText, lossless]

theorem Document.lossy_ofBytes_eq_false_iff (bytes : Bytes) :
    (Document.ofBytes bytes).lossy = false ↔
      (Document.ofBytes bytes).encoding.encode (Document.ofBytes bytes).content = bytes := by
  obtain ⟨body, isBytes⟩ := Encoding.mark_detect_prefix bytes
  generalize detected : Encoding.detect bytes = encoding at isBytes
  have isBody : bytes.drop encoding.mark.length = body := by rw [← isBytes, List.drop_left]
  simp only [Document.ofBytes, detected, isBody]
  rw [Encoding.losesBytes_eq_false_iff, Encoding.encode_eq, ← isBytes, List.append_cancel_left_eq]

/-! ## Streams -/

private theorem ByteStream.take_of_lt {stream : ByteStream} {count : Nat}
    (short : stream.bytes.length < count) :
    stream.take count = match stream.failure with
      | some error => .error error
      | none => .ok stream.bytes := by
  rw [ByteStream.take, List.take_of_length_le (Nat.le_of_lt short)]
  cases stream.failure with
  | none => rfl
  | some error => exact if_pos short

private theorem ByteStream.take_of_le {stream : ByteStream} {count : Nat}
    (long : count ≤ stream.bytes.length) :
    stream.take count = .ok (stream.bytes.take count) := by
  rw [ByteStream.take]
  cases stream.failure with
  | none => rfl
  | some error => exact if_neg (Nat.not_lt.mpr long)

/-- A stream that is longer than the limit is refused, whatever follows its first bytes. No other
stream is cut, so its failure is noticed. -/
theorem readStream_eq {stream : ByteStream} (bounded : stream.bytes.length < bound64 - 1)
    (source : Path) (limit : Nat) :
    readStream stream source limit =
      if limit < stream.bytes.length then .error (.tooLarge source (limit + 1) limit)
      else match stream.failure with
        | some error => .error (.ofReading source error)
        | none => .ok (Document.ofBytes stream.bytes) := by
  by_cases long : limit < stream.bytes.length
  · have probed : probeLength limit = limit + 1 := by
      unfold probeLength
      omega
    have taken : (stream.bytes.take (limit + 1)).length = limit + 1 :=
      List.length_take_of_le long
    rw [readStream, probed, ByteStream.take_of_le long, if_pos long]
    simp only [taken]
    exact if_pos (Nat.lt_succ_self limit)
  · have short : stream.bytes.length < probeLength limit := by
      unfold probeLength
      omega
    rw [readStream, ByteStream.take_of_lt short, if_neg long]
    cases stream.failure with
    | some error => rfl
    | none => exact if_neg long

theorem readStream_eq_ok_iff {stream : ByteStream} {source : Path} {limit : Nat}
    {document : Document} (bounded : stream.bytes.length < bound64 - 1) :
    readStream stream source limit = .ok document ↔
      stream.failure = none ∧ stream.bytes.length ≤ limit ∧
        document = Document.ofBytes stream.bytes := by
  rw [readStream_eq bounded]
  by_cases long : limit < stream.bytes.length
  · simp [long, Nat.not_le.mpr long]
  · cases stream.failure <;> simp [long, Nat.not_lt.mp long, eq_comm]

theorem readStream_restores_encoded_text :
    (∀ (encoding : Encoding) (text : Text) (source : Path) (limit : Nat),
      encoding ≠ .unknown → (encoding = .utf8 → text.head? ≠ some '\ufeff') →
      (encoding.encode text).length < bound64 - 1 → (encoding.encode text).length ≤ limit →
      readStream { bytes := encoding.encode text } source limit =
        .ok { content := text, encoding := encoding,
              sizeInBytes := (encoding.encode text).length, lossy := false }) ∧
    (∀ (stream : ByteStream) (source : Path) (limit : Nat) (document : Document),
      stream.bytes.length < bound64 - 1 → readStream stream source limit = .ok document →
      (document.lossy = false ↔ document.encoding.encode document.content = stream.bytes)) := by
  constructor
  · intro encoding text source limit known noMark bounded fits
    have detected := Encoding.detect_encode known noMark
    rw [readStream_eq_ok_iff bounded, Document.ofBytes_encode detected]
    exact ⟨rfl, fits, rfl⟩
  · intro stream source limit document bounded isRead
    obtain ⟨-, -, rfl⟩ := (readStream_eq_ok_iff bounded).mp isRead
    exact Document.lossy_ofBytes_eq_false_iff stream.bytes

/-- A clef outside the basic plane is read back. The first half of its surrogate pair alone is
not. -/
theorem readStream_restores_clef :
    readStream { bytes := Encoding.encode (.utf16 .bigEndian) ['𝄞'] } "score".toList 6 =
        .ok { content := ['𝄞'], encoding := .utf16 .bigEndian,
              sizeInBytes := (Encoding.encode (.utf16 .bigEndian) ['𝄞']).length,
              lossy := false } ∧
      Encoding.encode (.utf16 .bigEndian) ['\ufffd'] ≠ [0xFE, 0xFF, 0xD8, 0x34] := by
  have isRead : readStream { bytes := [0xFE, 0xFF, 0xD8, 0x34] } "score".toList 6 =
      .ok { content := ['\ufffd'], encoding := .utf16 .bigEndian, sizeInBytes := 4,
            lossy := true } :=
    (readStream_eq_ok_iff (by decide)).mpr ⟨rfl, by decide, by decide +kernel⟩
  constructor
  · exact readStream_restores_encoded_text.1 (.utf16 .bigEndian) ['𝄞'] "score".toList 6 (by decide)
      (by decide) (by decide) (by decide)
  · intro restored
    cases (readStream_restores_encoded_text.2 _ _ _ _ (by decide) isRead).mpr restored

end MarkdownDialect
