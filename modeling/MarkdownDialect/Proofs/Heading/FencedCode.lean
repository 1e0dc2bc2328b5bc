import MarkdownDialect.CommonMark.LineForm
import MarkdownDialect.Proofs.Heading.Extraction
import MarkdownDialect.Proofs.Text.Occurrence

/-!
# Headings and fenced code

The lines of fenced code are no headings as long as the fence is held open. The scan for headings
takes every line that begins with three of the fence's characters for its end, after white space
and whatever follows; a heading is found exactly if it stands where the scan holds no fence open.
-/

namespace MarkdownDialect

open Text

namespace CommonMark.Fence

/-- The deepest indentation of the lines that open and close a fence. -/
def maxIndent : Nat :=
  3

/-- A line that opens a fence; an info string may follow. -/
structure IsOpenedBy (fence : Fence) (line : Text) : Prop where
  isMark : fence.mark = '\x60' ∨ fence.mark = '~'
  longEnough : minLength ≤ fence.length
  shape : ∃ indent info, indent ≤ maxIndent ∧ info.head? ≠ some fence.mark ∧
    (fence.mark = '\x60' → '\x60' ∉ info) ∧
    line = List.replicate indent ' ' ++ (List.replicate fence.length fence.mark ++ info)

/-- A line that closes a fence: at least as many of its characters, and then only blanks. -/
def isClosedBy (fence : Fence) (line : Text) : Bool :=
  let content := line.dropWhile (· = ' ')
  (line.takeWhile (· = ' ')).length ≤ maxIndent
    && fence.length ≤ (content.takeWhile (· = fence.mark)).length
    && (content.dropWhile (· = fence.mark)).all isBlank

end CommonMark.Fence

namespace Heading

open CommonMark

/-! ## Lines that look like fences -/

theorem fenceMark?_cases {line : Text} {mark : Char} (isFence : fenceMark? line = some mark) :
    (mark = '\x60' ∨ mark = '~') ∧
      ∃ rest, trimStart line = mark :: mark :: mark :: rest := by
  unfold fenceMark? at isFence
  dsimp only at isFence
  split at isFence
  · next isPrefix =>
      rw [Option.some.injEq] at isFence
      subst isFence
      obtain ⟨rest, split⟩ := List.isPrefixOf_iff_prefix.mp isPrefix
      exact ⟨Or.inl rfl, rest, split.symm⟩
  · split at isFence
    · next isPrefix =>
        rw [Option.some.injEq] at isFence
        subst isFence
        obtain ⟨rest, split⟩ := List.isPrefixOf_iff_prefix.mp isPrefix
        exact ⟨Or.inr rfl, rest, split.symm⟩
    · simp at isFence

/-- White space and three of a fence's characters are enough for the scan. -/
theorem fenceMark?_of_marks {mark : Char} (isMark : mark = '\x60' ∨ mark = '~') {spaces : Text}
    (areSpaces : ∀ c ∈ spaces, isSpace c = true) {count : Nat} (enough : 3 ≤ count) (rest : Text) :
    fenceMark? (spaces ++ (List.replicate count mark ++ rest)) = some mark := by
  obtain ⟨more, rfl⟩ := Nat.exists_eq_add_of_le' enough
  have marks : List.replicate (more + 3) mark =
      mark :: mark :: mark :: List.replicate more mark := rfl
  have start : trimStart (spaces ++ (List.replicate (more + 3) mark ++ rest)) =
      mark :: mark :: mark :: (List.replicate more mark ++ rest) := by
    unfold trimStart
    rw [List.dropWhile_append_of_pos areSpaces, marks]
    rcases isMark with rfl | rfl <;> rfl
  unfold fenceMark?
  rw [start]
  rcases isMark with rfl | rfl
  · simp [List.isPrefixOf]
  · simp [List.isPrefixOf]

/-- A line that looks like a fence is no heading. -/
theorem ofLine?_of_fenceMark? {line : Text} {mark : Char} (isFence : fenceMark? line = some mark) :
    ofLine? line = none := by
  obtain ⟨isMark, rest, split⟩ := fenceMark?_cases isFence
  apply ofLine?_eq_none
  intro isSign
  obtain ⟨others, rfl⟩ := List.head?_eq_some_iff.mp isSign
  have start : trimStart ('#' :: others) = '#' :: others := rfl
  rw [start, List.cons.injEq] at split
  rcases isMark with rfl | rfl
  · exact absurd split.1 (by decide)
  · exact absurd split.1 (by decide)

/-! ## The fence that is held open -/

/-- What a line makes of the fence that the scan holds open. -/
def passLine (held : Option Char) (line : Text) : Option Char :=
  match held, fenceMark? line with
  | none, found => found
  | some mark, some other => if mark = other then none else some mark
  | some mark, none => some mark

/-- The fence that the scan holds open behind some lines. -/
def heldAfter (held : Option Char) (lines : List Text) : Option Char :=
  lines.foldl passLine held

theorem scan_cons (held : Option Char) (line : Text) (rest : List Text) :
    scan held (line :: rest) =
      (if held.isNone then (ofLine? line).toList else []) ++ scan (passLine held line) rest := by
  rw [scan.eq_def]
  cases isFence : fenceMark? line with
  | none => cases held <;> simp [passLine, isFence]
  | some mark =>
      cases held with
      | none => simp [passLine, isFence, ofLine?_of_fenceMark? isFence]
      | some other => simp [passLine, isFence]

/-- No heading is found exactly if no heading line stands where no fence is held open. -/
theorem scan_eq_nil_iff (held : Option Char) (lines : List Text) :
    scan held lines = [] ↔
      ∀ before line after, lines = before ++ line :: after →
        heldAfter held before = none → ofLine? line = none := by
  induction lines generalizing held with
  | nil => simp [scan]
  | cons first rest inductionHypothesis =>
      rw [scan_cons, List.append_eq_nil_iff, inductionHypothesis]
      constructor
      · rintro ⟨firstSilent, restSilent⟩ before line after split notHeld
        cases before with
        | nil =>
            obtain ⟨rfl, _⟩ := List.cons.inj split
            have noFence : held = none := notHeld
            simpa [noFence] using firstSilent
        | cons other others =>
            obtain ⟨rfl, below⟩ := List.cons.inj split
            exact restSilent others line after below notHeld
      · intro silent
        constructor
        · split
          · next noFence =>
              rw [silent [] first rest rfl (Option.isNone_iff_eq_none.mp noFence)]
              rfl
          · rfl
        · intro before line after split notHeld
          exact silent (first :: before) line after (by rw [split]; rfl) notHeld

/-- A fence stays open over lines that do not begin with three of its characters. -/
private theorem heldAfter_of_no_mark {mark : Char} {lines : List Text}
    (noMark : ∀ line ∈ lines, fenceMark? line ≠ some mark) :
    heldAfter (some mark) lines = some mark := by
  induction lines with
  | nil => rfl
  | cons line rest inductionHypothesis =>
      obtain ⟨noMarkHere, noMarkBelow⟩ := List.forall_mem_cons.mp noMark
      have stays : passLine (some mark) line = some mark := by
        unfold passLine
        cases isFence : fenceMark? line with
        | none => rfl
        | some other =>
            have different : mark ≠ other := by
              rintro rfl
              exact noMarkHere isFence
            exact if_neg different
      rw [heldAfter, List.foldl_cons, stays]
      exact inductionHypothesis noMarkBelow

/-! ## Fenced code -/

theorem isSpace_of_mem_spaces {spaces : Text} (areSpaces : ∀ c ∈ spaces, c = ' ') :
    ∀ c ∈ spaces, isSpace c = true := by
  intro c member
  rw [areSpaces c member]
  decide

private theorem fenceMark?_of_isOpenedBy {fence : Fence} {line : Text}
    (opens : fence.IsOpenedBy line) :
    fenceMark? line = some fence.mark := by
  obtain ⟨indent, info, _, _, _, rfl⟩ := opens.shape
  exact fenceMark?_of_marks opens.isMark
    (isSpace_of_mem_spaces fun _ => List.eq_of_mem_replicate) opens.longEnough info

private theorem fenceMark?_of_isClosedBy {fence : Fence} {line : Text}
    (isMark : fence.mark = '\x60' ∨ fence.mark = '~') (longEnough : Fence.minLength ≤ fence.length)
    (closes : fence.isClosedBy line = true) : fenceMark? line = some fence.mark := by
  simp only [Fence.isClosedBy, Bool.and_eq_true, decide_eq_true_eq] at closes
  obtain ⟨⟨_, enough⟩, _⟩ := closes
  have areSpaces : ∀ c ∈ line.takeWhile (· = ' '), c = ' ' :=
    fun c member => by simpa using List.mem_takeWhile_imp member
  generalize content_eq : line.dropWhile (· = ' ') = content at enough
  have areMarks : content.takeWhile (· = fence.mark) =
      List.replicate (content.takeWhile (· = fence.mark)).length fence.mark :=
    List.eq_replicate_of_mem fun c member => by simpa using List.mem_takeWhile_imp member
  have split : line = line.takeWhile (· = ' ') ++
      (List.replicate (content.takeWhile (· = fence.mark)).length fence.mark ++
        content.dropWhile (· = fence.mark)) := by
    rw [← areMarks, List.takeWhile_append_dropWhile, ← content_eq,
      List.takeWhile_append_dropWhile]
  rw [split]
  exact fenceMark?_of_marks isMark (isSpace_of_mem_spaces areSpaces) (longEnough.trans enough) _

/-- Fenced code gives no heading exactly if each of its lines that reads as a heading stands where
the scan holds the fence open, or another one; so it does as long as no line of the code begins,
after white space, with three of the fence's characters. -/
theorem fenced_code_gives_no_heading_iff {fence : Fence} {opening closing : Text}
    {body : List Text} {source : Text} (opens : fence.IsOpenedBy opening)
    (closes : fence.isClosedBy closing = true)
    (isFenced : sourceLines source = opening :: (body ++ [closing])) :
    (extract source = [] ↔
        ∀ before line after, body = before ++ line :: after →
          heldAfter (some fence.mark) before = none → ofLine? line = none) ∧
      ((∀ line ∈ body, fenceMark? line ≠ some fence.mark) → extract source = []) := by
  have openingMark := fenceMark?_of_isOpenedBy opens
  have closingSilent : ofLine? closing = none :=
    ofLine?_of_fenceMark? (fenceMark?_of_isClosedBy opens.isMark opens.longEnough closes)
  have scanned : extract source = scan (some fence.mark) (body ++ [closing]) := by
    have passed : passLine none opening = some fence.mark := by
      rw [passLine, openingMark]
    rw [extract, isFenced, scan_cons, passed, ofLine?_of_fenceMark? openingMark]
    rfl
  have whole : extract source = [] ↔
      ∀ before line after, body = before ++ line :: after →
        heldAfter (some fence.mark) before = none → ofLine? line = none := by
    rw [scanned, scan_eq_nil_iff]
    constructor
    · intro silent before line after split
      exact silent before line (after ++ [closing]) (by rw [split]; simp)
    · intro silent before line after split notHeld
      rcases List.eq_nil_or_concat after with rfl | ⟨others, last, rfl⟩
      · have atEnd := (List.append_inj' split rfl).2
        rw [← List.singleton_inj.mp atEnd]
        exact closingSilent
      · rw [List.concat_eq_append] at split
        apply silent before line others _ notHeld
        have cut : body ++ [closing] = (before ++ line :: others) ++ [last] := by
          rw [split]
          simp
        exact (List.append_inj' cut rfl).1
  refine ⟨whole, fun noMark => whole.mpr ?_⟩
  intro before line after split notHeld
  have stillHeld : heldAfter (some fence.mark) before = some fence.mark := by
    apply heldAfter_of_no_mark
    intro other member
    exact noMark other (by rw [split]; exact List.mem_append_left _ member)
  rw [notHeld] at stillHeld
  contradiction

/-- Tildes do not end a fence of backticks. -/
theorem fenced_code_gives_no_heading_below_tildes :
    sourceLines "\x60\x60\x60 sh\r\n~~~\r\n# x\r\n\x60\x60\x60\r\n".toList =
        "\x60\x60\x60 sh".toList :: (["~~~".toList, "# x".toList] ++ ["\x60\x60\x60".toList]) ∧
      extract "\x60\x60\x60 sh\r\n~~~\r\n# x\r\n\x60\x60\x60\r\n".toList = [] := by
  have opens : Fence.IsOpenedBy ⟨'\x60', 3⟩ "\x60\x60\x60 sh".toList :=
    ⟨Or.inl rfl, by decide, 0, " sh".toList, by decide, by decide, by decide, rfl⟩
  have isFenced : sourceLines "\x60\x60\x60 sh\r\n~~~\r\n# x\r\n\x60\x60\x60\r\n".toList =
      "\x60\x60\x60 sh".toList ::
        (["~~~".toList, "# x".toList] ++ ["\x60\x60\x60".toList]) := by
    decide
  exact ⟨isFenced, (fenced_code_gives_no_heading_iff opens (by decide) isFenced).2 (by decide)⟩

/-- Three backticks do not close a fence of four, but the scan takes them for its end. -/
theorem fenced_code_gives_heading_below_shorter_fence :
    ¬ ∀ (fence : Fence) (opening closing : Text) (body : List Text) (source : Text),
      fence.IsOpenedBy opening → closing = List.replicate fence.length fence.mark →
      (∀ line ∈ body, fence.isClosedBy line = false) →
      sourceLines source = opening :: (body ++ [closing]) → extract source = [] := by
  intro noHeading
  have opens : Fence.IsOpenedBy ⟨'\x60', 4⟩ "\x60\x60\x60\x60".toList :=
    ⟨Or.inl rfl, by decide, 0, [], by decide, by decide, by decide, rfl⟩
  have silent := noHeading ⟨'\x60', 4⟩ _ _ ["\x60\x60\x60".toList, "# x".toList]
    "\x60\x60\x60\x60\n\x60\x60\x60\n# x\n\x60\x60\x60\x60".toList opens rfl
    (by decide) (by decide)
  exact absurd silent (by decide)

end Heading

end MarkdownDialect
