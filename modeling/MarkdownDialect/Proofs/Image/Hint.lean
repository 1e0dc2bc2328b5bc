import MarkdownDialect.Proofs.Image.Extent

/-!
# Hints on a destination

A size in braces and the marker of a side are written behind a destination, in either order. What
stands before them may hold braces and number signs of its own, as long as it holds no marker: a
number sign begins every marker and stands nowhere else in one, so that neither the size nor the
front of the destination can complete a marker that it does not hold whole.
-/

namespace MarkdownDialect

open Text

/-! ## Markers -/

namespace Float

@[simp]
theorem not_mem_name (side : Float) : '#' ∉ side.name := by
  cases side <;> decide

theorem not_isInfix_of_not_mem {text : Text} (noSign : '#' ∉ text) (side : Float) :
    ¬side.marker <:+: text := by
  intro occurs
  exact noSign (occurs.subset List.mem_cons_self)

private theorem eq_of_isPrefix {side other : Float}
    (begins : other.marker <+: side.marker ∨ side.marker <+: other.marker) : other = side := by
  revert begins
  cases side <;> cases other <;> decide

/-- A marker behind a text without markers is the only one. -/
theorem isInfix_append_iff {front back : Text} {side : Float}
    (unmarked : ∀ other : Float, ¬other.marker <:+: front) (noSign : '#' ∉ back) (other : Float) :
    other.marker <:+: front ++ (side.marker ++ back) ↔ other = side := by
  constructor
  · intro occurs
    rcases isInfix_append_cons other.not_mem_name occurs with inFront | inBack
    · exact absurd inFront (unmarked other)
    · rw [List.infix_cons_iff] at inBack
      rcases inBack with atSign | behindSign
      · have begins : side.marker <+: side.marker ++ back := List.prefix_append _ _
        exact eq_of_isPrefix (List.prefix_or_prefix_of_prefix atSign begins)
      · refine absurd behindSign (not_isInfix_of_not_mem ?_ other)
        exact List.not_mem_append side.not_mem_name noSign
  · rintro rfl
    exact ⟨front, back, List.append_assoc _ _ _⟩

private theorem of?_of_unmarked {destination : Text}
    (unmarked : ∀ side : Float, ¬side.marker <:+: destination) : of? destination = none := by
  rw [of?, List.find?_eq_none]
  intro side _
  rw [has_iff_isInfix]
  exact unmarked side

private theorem of?_of_only {destination : Text} {side : Float}
    (only : ∀ other : Float, other.marker <:+: destination ↔ other = side) :
    of? destination = some side := by
  have hasOnly (other : Float) : has other.marker destination = decide (other = side) := by
    rw [Bool.eq_iff_iff, has_iff_isInfix, only other, decide_eq_true_eq]
  rw [of?, funext hasOnly]
  cases side <;> decide

end Float

namespace Image

/-! ## Writing hints -/

def braced (size : Text) : Text :=
  '\x7b' :: (size ++ ['\x7d'])

/-- The side whose marker is written and its place beside the size. -/
inductive Marking where
  | absent
  | beforeSize (side : Float)
  | behindSize (side : Float)

def Marking.float : Marking → Option Float
  | absent => none
  | beforeSize side => some side
  | behindSize side => some side

def Marking.destination (base size : Text) : Marking → Text
  | absent => base ++ braced size
  | beforeSize side => base ++ (side.marker ++ braced size)
  | behindSize side => base ++ (braced size ++ side.marker)

/-- A size within which neither a marker nor another size can begin. -/
structure IsPlain (size : Text) : Prop where
  nonempty : size ≠ []
  noSign : '#' ∉ size
  noBrace : '\x7b' ∉ size

private theorem isPlain_of_reading {size : Text} {extent : Extent}
    (reading : Extent.ofText? size = some extent) : IsPlain size where
  nonempty := by
    rintro rfl
    have unreadable : Extent.ofText? [] = none := by decide
    rw [reading] at unreadable
    cases unreadable
  noSign := Extent.not_mem_of_reading reading (by decide) (by decide) (by decide)
  noBrace := Extent.not_mem_of_reading reading (by decide) (by decide) (by decide)

theorem IsPlain.not_mem_braced {size : Text} (plain : IsPlain size) : '#' ∉ braced size := by
  simp [braced, plain.noSign]

theorem IsPlain.append_cons {width height : Text} (plainWidth : IsPlain width)
    (plainHeight : IsPlain height) {separator : Char} (known : separator ∈ ['x', 'X', ':']) :
    IsPlain (width ++ separator :: height) where
  nonempty := by simp
  noSign := by
    have different : '#' ≠ separator := by
      rintro rfl
      exact absurd known (by decide)
    simp [plainWidth.noSign, plainHeight.noSign, different]
  noBrace := by
    have different : '\x7b' ≠ separator := by
      rintro rfl
      exact absurd known (by decide)
    simp [plainWidth.noBrace, plainHeight.noBrace, different]

/-! ## Taking hints off -/

private theorem splitSize?_braced {base size : Text} (baseNonempty : base ≠ [])
    (plain : IsPlain size) :
    splitSize? (base ++ braced size) = some (base, size) := by
  have inner : ['\x7d'].isSuffixOf? (base ++ braced size) = some (base ++ '\x7b' :: size) := by
    rw [isSuffixOf?_eq_some_iff]
    simp [braced]
  have parts : (base.isEmpty || size.isEmpty) = false := by
    simp [baseNonempty, plain.nonempty]
  simp only [splitSize?, inner, breakOnLast_append_cons base plain.noBrace, Option.bind_eq_bind,
    Option.bind_some, parts, Bool.false_eq_true, if_false]
  rfl

/-- A marker is taken off wherever it stands, and the size is read from what is left. -/
private theorem ofDestination_of_marker {front back base size : Text} {side : Float}
    (unmarked : ∀ other : Float, ¬other.marker <:+: front) (noSign : '#' ∉ back)
    (split : splitSize? (front ++ back) = some (base, size)) :
    ofDestination (front ++ (side.marker ++ back)) =
      { source := base, width := some (Extent.ofPair size).1, height := (Extent.ofPair size).2,
        float := some side } := by
  have found : Float.of? (front ++ (side.marker ++ back)) = some side :=
    Float.of?_of_only (Float.isInfix_append_iff unmarked noSign)
  have removed : removeFirst side.marker (front ++ (side.marker ++ back)) = front ++ back :=
    removeFirst_of_not_isInfix side.not_mem_name (unmarked side) back
  simp only [ofDestination, found, removed, split]

section

variable {base size : Text} (unmarked : ∀ side : Float, ¬side.marker <:+: base)
  (plain : IsPlain size)
include unmarked plain

private theorem unmarked_append_braced (side : Float) : ¬side.marker <:+: base ++ braced size := by
  have noBrace : '\x7b' ∉ side.name := by
    cases side <;> decide
  intro occurs
  rcases isInfix_append_cons noBrace occurs with inBase | inBraces
  · exact unmarked side inBase
  · exact Float.not_isInfix_of_not_mem plain.not_mem_braced side inBraces

private theorem ofDestination_marked (baseNonempty : base ≠ []) (marking : Marking) :
    ofDestination (marking.destination base size) =
      { source := base, width := some (Extent.ofPair size).1, height := (Extent.ofPair size).2,
        float := marking.float } := by
  have split := splitSize?_braced baseNonempty plain
  have unmarkedWhole := unmarked_append_braced unmarked plain
  cases marking with
  | absent =>
      have found := Float.of?_of_unmarked unmarkedWhole
      simp only [Marking.destination, Marking.float, ofDestination, found, split]
  | beforeSize side => exact ofDestination_of_marker unmarked plain.not_mem_braced split
  | behindSize side =>
      have splitWhole : splitSize? (base ++ braced size ++ []) = some (base, size) := by
        rwa [List.append_nil]
      rw [Marking.destination, ← List.append_assoc, ← List.append_nil side.marker]
      exact ofDestination_of_marker unmarkedWhole List.not_mem_nil splitWhole

end

/-! ## Hints in every spelling -/

private theorem ofPair_of_separator {width height : Text} {widthExtent heightExtent : Extent}
    (widthReading : Extent.ofText? width = some widthExtent)
    (heightReading : Extent.ofText? height = some heightExtent) {separator : Char}
    (known : separator ∈ ['x', 'X', ':']) :
    Extent.ofPair (width ++ separator :: height) = (widthExtent, some heightExtent) := by
  simp only [List.mem_cons, List.not_mem_nil, or_false] at known
  rcases known with isSmall | isCapital | rfl
  · exact Extent.ofPair_cross widthReading heightReading (Or.inl isSmall)
  · exact Extent.ofPair_cross widthReading heightReading (Or.inr isCapital)
  · rw [Extent.ofPair_colon widthReading, Extent.ofText_of_reading heightReading]

/-- Hints are read back from every way to write them behind a destination: the size with any white
space and zeros and any unit, a pair of sizes with any of its separators, and the marker on either
side of the size. -/
theorem hints_are_recovered :
    (∀ raw extent, Extent.ofText? raw = some extent ↔
      ∃ content, Extent.Writes content extent ∧ IsPadded content raw) ∧
    ∀ base : Text, base ≠ [] → (∀ side : Float, ¬side.marker <:+: base) →
      ∀ (marking : Marking) (width : Text), (Extent.ofText? width).isSome →
        ofDestination (marking.destination base width) =
            { source := base, width := some (Extent.ofText width), height := none,
              float := marking.float } ∧
          ∀ height : Text, (Extent.ofText? height).isSome → ∀ separator ∈ ['x', 'X', ':'],
            ofDestination (marking.destination base (width ++ separator :: height)) =
              { source := base, width := some (Extent.ofText width),
                height := some (Extent.ofText height), float := marking.float } := by
  refine ⟨fun _ _ => Extent.ofText?_eq_some_iff, ?_⟩
  intro base nonempty unmarked marking width widthReads
  obtain ⟨widthExtent, widthReading⟩ := Option.isSome_iff_exists.mp widthReads
  have plainWidth := isPlain_of_reading widthReading
  rw [Extent.ofText_of_reading widthReading]
  constructor
  · rw [ofDestination_marked unmarked plainWidth nonempty, Extent.ofPair_single widthReading]
  · intro height heightReads separator known
    obtain ⟨heightExtent, heightReading⟩ := Option.isSome_iff_exists.mp heightReads
    have plainPair := plainWidth.append_cons (isPlain_of_reading heightReading) known
    rw [ofDestination_marked unmarked plainPair nonempty,
      ofPair_of_separator widthReading heightReading known,
      Extent.ofText_of_reading heightReading]

/-- A destination with braces and a separator of its own, and with the beginning of a marker. -/
def sampleBase : Text :=
  "a\x7b2x3\x7d:#lef".toList

theorem hints_are_recovered_at_sampleBase :
    sampleBase ≠ [] ∧ (∀ side : Float, ¬side.marker <:+: sampleBase) ∧
      Extent.ofText? "\t007px".toList = some (.pixels 7) ∧
      Extent.ofText? " 050% ".toList = some (.percent 50) ∧
      ofDestination
          ((Marking.behindSize .right).destination sampleBase "\t007pxX 050% ".toList) =
        { source := sampleBase, width := some (.pixels 7), height := some (.percent 50),
          float := some .right } := by
  have nonempty : sampleBase ≠ [] := by decide
  have unmarked (side : Float) : ¬side.marker <:+: sampleBase := by
    cases side <;> decide
  have widthReading : Extent.ofText? "\t007px".toList = some (.pixels 7) := by decide
  have heightReading : Extent.ofText? " 050% ".toList = some (.percent 50) := by decide
  have recovered := (hints_are_recovered.2 sampleBase nonempty unmarked (.behindSize .right)
    "\t007px".toList (by rw [widthReading]; rfl)).2 " 050% ".toList
    (by rw [heightReading]; rfl) 'X' (by decide)
  rw [Extent.ofText_of_reading widthReading, Extent.ofText_of_reading heightReading] at recovered
  exact ⟨nonempty, unmarked, widthReading, heightReading, recovered⟩

end Image

end MarkdownDialect
