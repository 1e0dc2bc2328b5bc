import MarkdownDialect.Image
import MarkdownDialect.Proofs.Text.CharClass
import MarkdownDialect.Proofs.Text.Number
import MarkdownDialect.Proofs.Text.Occurrence
import Mathlib.Data.Bool.AllAny
import Mathlib.Data.List.Basic
import Mathlib.Tactic.SplitIfs

/-!
# Extents as they are written

An extent is written as digits with a unit, and with any white space around both. Of the places in
a pair of extents at which it could be cut in two, only the one between them leaves an extent on the
left: an `x` within an extent belongs to `px`, and no extent ends with a `p`.
-/

namespace MarkdownDialect.Extent

open Text

/-! ## Single extents -/

/-- A unit, the largest count of it and the extents that it measures. -/
inductive KnownUnit : Text → Nat → (Nat → Extent) → Prop
  | bare : KnownUnit [] maxPixels pixels
  | pixels : KnownUnit "px".toList maxPixels pixels
  | percent : KnownUnit "%".toList maxRelative percent
  | viewportWidth : KnownUnit "vw".toList maxRelative viewportWidth
  | viewportHeight : KnownUnit "hw".toList maxRelative viewportHeight

/-- An extent without white space around it. Its digits may begin with any number of zeros. -/
inductive Writes : Text → Extent → Prop
  | count {digits unit : Text} {limit : Nat} {measured : Nat → Extent} :
      digits ≠ [] → (∀ c ∈ digits, c.isDigit = true) → KnownUnit unit limit measured →
        decimalValue digits ≤ limit → Writes (digits ++ unit) (measured (decimalValue digits))

theorem ofUnit?_eq_some_iff {count : Nat} {unit : Text} {extent : Extent} :
    ofUnit? count unit = some extent ↔
      ∃ limit measured,
        KnownUnit unit limit measured ∧ count ≤ limit ∧ extent = measured count := by
  constructor
  · intro reading
    simp only [ofUnit?, Bool.and_eq_true, Bool.or_eq_true, decide_eq_true_eq, List.isEmpty_iff]
      at reading
    split_ifs at reading with inPixels inPercent inWidth inHeight
    · cases reading
      rcases inPixels with ⟨rfl | rfl, inRange⟩
      · exact ⟨_, _, .pixels, inRange, rfl⟩
      · exact ⟨_, _, .bare, inRange, rfl⟩
    · cases reading
      exact ⟨_, _, inPercent.1 ▸ .percent, inPercent.2, rfl⟩
    · cases reading
      exact ⟨_, _, inWidth.1 ▸ .viewportWidth, inWidth.2, rfl⟩
    · cases reading
      exact ⟨_, _, inHeight.1 ▸ .viewportHeight, inHeight.2, rfl⟩
  · rintro ⟨limit, measured, known, inRange, rfl⟩
    unfold ofUnit?
    cases known <;> simp [inRange]

section

variable {unit : Text} {limit : Nat} {measured : Nat → Extent}
  (known : KnownUnit unit limit measured)
include known

private theorem KnownUnit.limit_lt : limit < bound32 := by
  cases known <;> decide

theorem KnownUnit.visible : ∀ c ∈ unit, isSpace c = false ∧ c.isDigit = false := by
  cases known with
  | _ => exact List.all_iff_forall_prop.mp (by decide)

end

theorem isSpace_append_unit {digits unit : Text} (areDigits : ∀ c ∈ digits, c.isDigit = true)
    (noSpaces : ∀ c ∈ unit, isSpace c = false) : ∀ c ∈ digits ++ unit, isSpace c = false :=
  List.forall_mem_append.mpr
    ⟨fun c member => isSpace_eq_false_of_isDigit (areDigits c member), noSpaces⟩

theorem Writes.visible {content : Text} {extent : Extent} (written : Writes content extent) :
    ∀ c ∈ content, isSpace c = false := by
  cases written with
  | count _ areDigits known _ =>
      exact isSpace_append_unit areDigits fun c member => (known.visible c member).1

/-- Exactly the extents that are written are read, whatever white space stands around them. -/
theorem ofText?_eq_some_iff {raw : Text} {extent : Extent} :
    ofText? raw = some extent ↔ ∃ content, Writes content extent ∧ IsPadded content raw := by
  constructor
  · intro reading
    rw [ofText?, Option.bind_eq_bind, Option.bind_eq_some_iff] at reading
    obtain ⟨count, countReading, unitReading⟩ := reading
    obtain ⟨nonempty, areDigits, rfl, -⟩ := readDecimal_eq_some_iff.mp countReading
    obtain ⟨limit, measured, known, inRange, rfl⟩ := ofUnit?_eq_some_iff.mp unitReading
    refine ⟨trim raw, ?_, isPadded_trim raw⟩
    have written := Writes.count nonempty areDigits known inRange
    rwa [List.takeWhile_append_dropWhile] at written
  · rintro ⟨content, written, padded⟩
    have trimmed := padded.trim_eq (.of_visible written.visible)
    cases written with
    | @count digits unit limit measured nonempty areDigits known inRange =>
        obtain ⟨taken, left⟩ := isDigit_append areDigits fun c isFirst =>
          (known.visible c (List.mem_of_head? isFirst)).2
        rw [ofText?, trimmed, taken, left, Option.bind_eq_bind, Option.bind_eq_some_iff]
        refine ⟨decimalValue digits, ?_, ?_⟩
        · exact readDecimal_eq_some_iff.mpr
            ⟨nonempty, areDigits, rfl, Nat.lt_of_le_of_lt inRange known.limit_lt⟩
        · exact ofUnit?_eq_some_iff.mpr ⟨limit, measured, known, inRange, rfl⟩

theorem ofText_of_reading {raw : Text} {extent : Extent} (reading : ofText? raw = some extent) :
    ofText raw = extent := by
  rw [ofText, reading, Option.getD_some]

/-- An extent holds white space, digits and the characters of its unit. -/
theorem not_mem_of_reading {raw : Text} {extent : Extent} (reading : ofText? raw = some extent)
    {c : Char} (visible : isSpace c = false) (noDigit : c.isDigit = false)
    (inNoUnit : c ∉ "px%vhw".toList) : c ∉ raw := by
  obtain ⟨content, written, padded⟩ := ofText?_eq_some_iff.mp reading
  apply padded.not_mem visible
  cases written with
  | @count digits unit limit measured _ areDigits known _ =>
      have unitChars : unit ⊆ "px%vhw".toList := by
        cases known <;> decide
      rw [List.mem_append, not_or]
      refine ⟨fun member => ?_, fun member => inNoUnit (unitChars member)⟩
      rw [areDigits c member] at noDigit
      exact absurd noDigit (by decide)

/-! ## Pairs of extents -/

/-- The characters between the two extents of a pair, apart from the colon. -/
def IsCross (c : Char) : Prop :=
  c = 'x' ∨ c = 'X'

private theorem IsCross.foreign {c : Char} (isCross : IsCross c) :
    isSpace c = false ∧ c.isDigit = false ∧ c ≠ 'p' := by
  rcases isCross with rfl | rfl <;> decide

private theorem Writes.getLast?_ne {content : Text} {extent : Extent}
    (written : Writes content extent) :
    content.getLast? ≠ some 'p' := by
  cases written with
  | @count digits unit limit measured nonempty areDigits known _ =>
      cases known with
      | bare =>
          rw [List.append_nil]
          intro isLast
          exact absurd (areDigits 'p' (List.mem_of_getLast? isLast)) (by decide)
      | _ => simp

private theorem ofText?_eq_none_of_getLast? {raw : Text}
    (endsInP : (trim raw).getLast? = some 'p') :
    ofText? raw = none := by
  rw [Option.eq_none_iff_forall_ne_some]
  intro extent reading
  obtain ⟨content, written, padded⟩ := ofText?_eq_some_iff.mp reading
  rw [padded.trim_eq (.of_visible written.visible)] at endsInP
  exact written.getLast?_ne endsInP

/-- What stands before an `x` within an extent is no extent. -/
private theorem ofText?_before_cross {before after : Text} {c : Char} {extent : Extent}
    (isCross : IsCross c) (reading : ofText? (before ++ c :: after) = some extent) :
    ofText? before = none := by
  obtain ⟨visible, noDigit, notP⟩ := isCross.foreign
  obtain ⟨content, written, front, back, split, frontSpaces, backSpaces⟩ :=
    ofText?_eq_some_iff.mp reading
  have notInSpaces {spaces : Text} (areSpaces : ∀ d ∈ spaces, isSpace d = true) : c ∉ spaces :=
    fun member => by simp [areSpaces c member] at visible
  cases written with
  | @count digits unit limit measured _ areDigits known _ =>
      have notInDigits : c ∉ digits := fun member => by simp [areDigits c member] at noDigit
      -- The only cross within an extent belongs to `px`, so a `p` ends what stands before it.
      cases known with
      | pixels =>
          have cut : (front ++ (digits ++ ['p'])) ++ 'x' :: back = before ++ c :: after := by
            rw [split]
            simp
          have notInBefore : c ∉ front ++ (digits ++ ['p']) := by
            simp [notInSpaces frontSpaces, notInDigits, notP]
          obtain ⟨rfl, -, -⟩ :=
            (List.append_cons_inj_of_notMem notInBefore (notInSpaces backSpaces)).mp cut
          have padded : IsPadded (digits ++ ['p']) (front ++ (digits ++ ['p'])) :=
            ⟨front, [], by simp, frontSpaces, by simp⟩
          have visibleEnds : HasVisibleEnds (digits ++ ['p']) :=
            .of_visible (isSpace_append_unit areDigits (List.forall_mem_singleton.mpr (by decide)))
          apply ofText?_eq_none_of_getLast?
          rw [padded.trim_eq visibleEnds, List.getLast?_concat]
      | _ =>
          have inWhole : c ∈ before ++ c :: after := by simp
          rw [split] at inWhole
          rcases isCross with rfl | rfl <;>
            simp [notInSpaces frontSpaces, notInSpaces backSpaces, notInDigits] at inWhole

/-- No cross is found in a front that leaves no extent before any of its crosses. -/
theorem ofCross?_append {before front : Text}
    (noExtent : ∀ first c last, front = first ++ c :: last → IsCross c →
      ofText? (before ++ first) = none) (rest : Text) :
    ofCross? before (front ++ rest) = ofCross? (before ++ front) rest := by
  induction front generalizing before with
  | nil => rw [List.nil_append, List.append_nil]
  | cons c others inductionHypothesis =>
      have step : ofCross? before (c :: (others ++ rest)) =
          ofCross? (before ++ [c]) (others ++ rest) := by
        rw [ofCross?]
        split
        · next isCross =>
            have isCrossHere : IsCross c := by
              simpa only [IsCross, Bool.or_eq_true, decide_eq_true_eq] using isCross
            have noneBefore := noExtent [] c others rfl isCrossHere
            rw [List.append_nil] at noneBefore
            rw [noneBefore]
        · rfl
      rw [List.cons_append, step, inductionHypothesis, List.append_assoc, List.singleton_append]
      intro first d last split isCross
      rw [List.append_assoc]
      exact noExtent (c :: first) d last (by rw [split, List.cons_append]) isCross

/-- A pair is not cut within its width. -/
theorem ofCross?_extent {width : Text} {extent : Extent} (reading : ofText? width = some extent)
    (rest : Text) : ofCross? [] (width ++ rest) = ofCross? width rest := by
  apply ofCross?_append
  intro first c last split isCross
  exact ofText?_before_cross isCross (split ▸ reading)

theorem ofPair_single {width : Text} {extent : Extent} (reading : ofText? width = some extent) :
    ofPair width = (extent, none) := by
  have noColon : ':' ∉ width := not_mem_of_reading reading (by decide) (by decide) (by decide)
  have notCut := ofCross?_extent reading []
  rw [List.append_nil, ofCross?] at notCut
  rw [ofPair, breakOn_singleton_eq_none noColon, notCut]
  exact congrArg (·, none) (ofText_of_reading reading)

theorem ofPair_colon {width : Text} {extent : Extent} (reading : ofText? width = some extent)
    (height : Text) : ofPair (width ++ ':' :: height) = (extent, some (ofText height)) := by
  have noColon : ':' ∉ width := not_mem_of_reading reading (by decide) (by decide) (by decide)
  rw [ofPair, breakOn_singleton_eq_some_iff.mpr ⟨rfl, noColon⟩]
  exact congrArg (·, some (ofText height)) (ofText_of_reading reading)

theorem ofPair_cross {width height : Text} {widthExtent heightExtent : Extent}
    (widthReading : ofText? width = some widthExtent)
    (heightReading : ofText? height = some heightExtent) {c : Char} (isCross : IsCross c) :
    ofPair (width ++ c :: height) = (widthExtent, some heightExtent) := by
  have noColon : ':' ∉ width ++ c :: height := by
    have notInWidth : ':' ∉ width :=
      not_mem_of_reading widthReading (by decide) (by decide) (by decide)
    have notInHeight : ':' ∉ height :=
      not_mem_of_reading heightReading (by decide) (by decide) (by decide)
    have notCross : ':' ≠ c := by
      rcases isCross with rfl | rfl <;> decide
    simp [notInWidth, notInHeight, notCross]
  have isCrossHere : (c = 'x' || c = 'X') = true := by
    simpa only [IsCross, Bool.or_eq_true, decide_eq_true_eq] using isCross
  have cut := ofCross?_extent widthReading (c :: height)
  rw [ofCross?, if_pos isCrossHere, widthReading, heightReading] at cut
  rw [ofPair, breakOn_singleton_eq_none noColon, cut]

end MarkdownDialect.Extent
