import MarkdownDialect.Proofs.Heading.FencedCode
import MarkdownDialect.Proofs.Text.Lines
import MarkdownDialect.Proofs.Text.Replacement

/-!
# Headings read back

A document is written as a row of lines: headings, with a closing run of number signs or without
one, and lines that neither are headings nor begin fenced code. Whatever blanks stand between the
parts of a heading and however the lines end, the headings that are read are the ones written.
-/

namespace MarkdownDialect.Heading

open Text

/-! ## Documents -/

/-- A text that stands for itself in a heading: nothing at its ends is taken off, and nothing
within it is a marker. -/
structure IsPlainText (level : Nat) (text : Text) : Prop where
  nonempty : text ≠ []
  trimmed : trim text = text
  single : '\n' ∉ text
  noMarker : '*' ∉ text ∧ '\x60' ∉ text ∧ ¬ "~~".toList <:+: text
  noClosingRun : ∀ front count, 0 < count → text = front ++ List.replicate count '#' →
    ∃ c, front.getLast? = some c ∧ isBlank c = false
  notCentered : level ≤ maxCenteredLevel → ¬ ("->".toList <:+: text ∧ "<-".toList <:+: text)

/-- The blanks between two parts of a heading. -/
def IsGap (gap : Text) : Prop :=
  gap ≠ [] ∧ ∀ c ∈ gap, isBlank c = true

/-- A heading as it may be written. -/
structure Spelling where
  level : Nat
  gap : Text
  text : Text
  /-- A closing run of number signs: the blanks before it and its length. -/
  closing : Option (Text × Nat)
  trailing : Text
  deriving DecidableEq, Repr

namespace Spelling

def closingText (spelling : Spelling) : Text :=
  match spelling.closing with
  | none => []
  | some (gap, count) => gap ++ List.replicate count '#'

def line (spelling : Spelling) : Text :=
  List.replicate spelling.level '#' ++
    (spelling.gap ++ (spelling.text ++ (spelling.closingText ++ spelling.trailing)))

structure IsWellFormed (spelling : Spelling) : Prop where
  level : 1 ≤ spelling.level ∧ spelling.level ≤ 6
  gap : IsGap spelling.gap
  text : IsPlainText spelling.level spelling.text
  closing : ∀ gap count, spelling.closing = some (gap, count) → IsGap gap ∧ 0 < count
  trailing : ∀ c ∈ spelling.trailing, isBlank c = true

end Spelling

/-- A line that begins with no number sign, nor with a fence behind white space. -/
structure IsOther (line : Text) : Prop where
  single : '\n' ∉ line
  noSign : line.head? ≠ some '#'
  noBackticks : ¬ "\x60\x60\x60".toList <+: trimStart line
  noTildes : ¬ "~~~".toList <+: trimStart line

inductive Line where
  | heading (spelling : Spelling)
  | other (content : Text)
  deriving DecidableEq, Repr

namespace Line

def content : Line → Text
  | heading spelling => spelling.line
  | other content => content

def heading? : Line → Option Heading
  | heading spelling => some (ofText spelling.level spelling.text)
  | other _ => none

def IsWellFormed : Line → Prop
  | heading spelling => spelling.IsWellFormed
  | other content => IsOther content

end Line

/-- A line up to its line feed, with the carriage return that it may have before it. -/
def endedLine (line : Line × Bool) : Text :=
  line.1.content ++ returnIf line.2

def document (lines : List (Line × Bool)) : Text :=
  lines.flatMap fun line => endedLine line ++ ['\n']

/-! ## Texts of headings -/

theorem forall_mem_signs (count : Nat) :
    ∀ c ∈ List.replicate count '#', decide (c = '#') = true :=
  fun _ member => decide_eq_true (List.eq_of_mem_replicate member)

theorem not_sign_of_isBlank {c : Char} (blank : isBlank c = true) : decide (c = '#') = false := by
  apply decide_eq_false
  rintro rfl
  exact absurd blank (by decide)

/-- Whether a text ends in a closing run is told by the character before its number signs. -/
private theorem noClosingRun_of_last {text : Text} {last : Char}
    (isLast : (dropEndWhile (· = '#') text).getLast? = some last)
    (visible : isBlank last = false) :
    ∀ front count, 0 < count → text = front ++ List.replicate count '#' →
      ∃ c, front.getLast? = some c ∧ isBlank c = false := by
  intro front count _ split
  rw [split, dropEndWhile_append_of_all (forall_mem_signs count)] at isLast
  rcases List.eq_nil_or_concat front with rfl | ⟨before, c, rfl⟩
  · contradiction
  · rw [List.concat_eq_append] at isLast ⊢
    refine ⟨c, List.getLast?_concat, ?_⟩
    by_cases isSign : c = '#'
    · rw [isSign]
      decide
    · rw [dropEndWhile_concat (decide_eq_false isSign), List.getLast?_concat] at isLast
      rwa [Option.some.inj isLast]

namespace IsPlainText

variable {level : Nat} {text : Text} (plain : IsPlainText level text)
include plain

private theorem visible_first : ∀ c, text.head? = some c → isSpace c = false :=
  fun _ => isSpace_head? plain.trimmed

theorem visible_last : ∀ c, text.getLast? = some c → isSpace c = false :=
  fun _ => isSpace_getLast? plain.trimmed

/-- What stands before the number signs at the end is no blank. -/
private theorem exists_last_before_signs :
    ∃ c, (dropEndWhile (· = '#') text).getLast? = some c ∧ isBlank c = false := by
  obtain ⟨back, split, areSigns⟩ := dropEndWhile_split (· = '#') text
  have isRun : back = List.replicate back.length '#' :=
    List.eq_replicate_of_mem fun c member => of_decide_eq_true (areSigns c member)
  cases back with
  | nil =>
      rw [List.append_nil] at split
      rw [← split]
      obtain ⟨last, isLast⟩ := Option.isSome_iff_exists.mp
        (List.getLast?_isSome.mpr plain.nonempty)
      exact ⟨last, isLast, isBlank_eq_false_of_isSpace_eq_false (plain.visible_last last isLast)⟩
  | cons sign signs =>
      rw [isRun] at split
      exact plain.noClosingRun _ _ (Nat.succ_pos _) split

theorem stripClosingRun_eq_self : stripClosingRun text = text := by
  obtain ⟨last, isLast, notBlank⟩ := plain.exists_last_before_signs
  rw [stripClosingRun, isLast]
  exact if_neg (Bool.eq_false_iff.mp notBlank)

/-- A closing run is taken off with the blanks before it, also from a text that ends in signs. -/
theorem stripClosingRun_append {gap : Text} (isGap : IsGap gap) (count : Nat) :
    stripClosingRun (text ++ (gap ++ List.replicate count '#')) = text := by
  obtain ⟨nonempty, areBlank⟩ := isGap
  obtain ⟨front, last, rfl⟩ := (List.eq_nil_or_concat gap).resolve_left nonempty
  rw [List.concat_eq_append] at areBlank ⊢
  have lastBlank : isBlank last = true := areBlank last (by simp)
  have shorter : dropEndWhile (· = '#')
      (text ++ (front ++ [last] ++ List.replicate count '#')) = text ++ front ++ [last] := by
    rw [← List.append_assoc, ← List.append_assoc,
      dropEndWhile_append_of_all (forall_mem_signs count)]
    exact dropEndWhile_concat (not_sign_of_isBlank lastBlank)
  have areSpaces : ∀ c ∈ front ++ [last], isSpace c = true :=
    fun c member => isSpace_of_isBlank (areBlank c member)
  rw [stripClosingRun, shorter, List.getLast?_concat]
  dsimp only
  rw [if_pos lastBlank, trimEnd, List.append_assoc, dropEndWhile_append_of_all areSpaces]
  exact trimEnd_eq_self plain.visible_last

theorem stripMarkers_eq_self : stripMarkers text = text := by
  obtain ⟨noStar, noBacktick, noTildes⟩ := plain.noMarker
  rw [stripMarkers, replaceAll_eq_self [] noTildes, List.filter_eq_self]
  intro c member
  have notStar : c ≠ '*' := fun isStar => noStar (isStar ▸ member)
  have notBacktick : c ≠ '\x60' := fun isBacktick => noBacktick (isBacktick ▸ member)
  simp [notStar, notBacktick]

private theorem isCentered_eq_false : isCentered level text = false := by
  rw [Bool.eq_false_iff]
  intro centered
  simp only [isCentered, Bool.and_eq_true, decide_eq_true_eq, has_iff_isInfix] at centered
  exact plain.notCentered centered.1.1 ⟨centered.1.2, centered.2⟩

end IsPlainText

/-! ## Lines of headings -/

namespace Spelling.IsWellFormed

variable {spelling : Spelling} (wellFormed : spelling.IsWellFormed)
include wellFormed

private theorem stripClosingRun_text :
    stripClosingRun (spelling.text ++ spelling.closingText) = spelling.text := by
  unfold closingText
  cases closed : spelling.closing with
  | none =>
      rw [List.append_nil]
      exact wellFormed.text.stripClosingRun_eq_self
  | some run =>
      obtain ⟨gap, count⟩ := run
      exact wellFormed.text.stripClosingRun_append (wellFormed.closing gap count closed).1 count

/-- A heading ends in a character of its text or in a number sign, apart from trailing blanks. -/
theorem visible_last :
    ∀ c, (spelling.text ++ spelling.closingText).getLast? = some c → isSpace c = false := by
  unfold closingText
  cases closed : spelling.closing with
  | none =>
      rw [List.append_nil]
      exact wellFormed.text.visible_last
  | some run =>
      obtain ⟨gap, count⟩ := run
      obtain ⟨more, rfl⟩ := Nat.exists_eq_add_of_lt (wellFormed.closing gap count closed).2
      intro c isLast
      dsimp only at isLast
      rw [Nat.zero_add, List.replicate_succ', ← List.append_assoc, ← List.append_assoc,
        List.getLast?_concat] at isLast
      rw [← Option.some.inj isLast]
      decide

private theorem visible_first :
    ∀ c, (spelling.text ++ spelling.closingText).head? = some c → isSpace c = false := by
  intro c isFirst
  cases written : spelling.text with
  | nil => exact absurd written wellFormed.text.nonempty
  | cons first rest =>
      rw [written, List.cons_append, List.head?_cons] at isFirst
      apply wellFormed.text.visible_first
      rw [written, List.head?_cons, isFirst]

theorem cleanText_eq {blanks : Text} (areBlank : ∀ c ∈ blanks, isBlank c = true) :
    cleanText spelling.level
      (blanks ++ (spelling.text ++ (spelling.closingText ++ spelling.trailing))) =
        spelling.text := by
  have spacesBefore : ∀ c ∈ blanks, isSpace c = true :=
    fun c member => isSpace_of_isBlank (areBlank c member)
  have spacesBehind : ∀ c ∈ spelling.trailing, isSpace c = true :=
    fun c member => isSpace_of_isBlank (wellFormed.trailing c member)
  have trimmed : trim (blanks ++ (spelling.text ++ (spelling.closingText ++ spelling.trailing))) =
      spelling.text ++ spelling.closingText := by
    rw [trim_append_left spacesBefore, ← List.append_assoc, trim_append_right spacesBehind]
    exact trim_eq_self wellFormed.visible_first wellFormed.visible_last
  have plain := wellFormed.text
  rw [cleanText, trimmed, wellFormed.stripClosingRun_text, plain.stripMarkers_eq_self,
    plain.isCentered_eq_false, if_neg Bool.false_ne_true, plain.trimmed]

private theorem ofLine?_line :
    ofLine? spelling.line = some (ofText spelling.level spelling.text) := by
  obtain ⟨nonempty, areBlank⟩ := wellFormed.gap
  obtain ⟨blank, blanks, isGap⟩ := List.exists_cons_of_ne_nil nonempty
  rw [isGap] at areBlank
  obtain ⟨isBlank, othersBlank⟩ := List.forall_mem_cons.mp areBlank
  have noSign := not_sign_of_isBlank isBlank
  have signs (rest : Text) : (List.replicate spelling.level '#' ++ blank :: rest).takeWhile
      (· = '#') = List.replicate spelling.level '#' := by
    rw [List.takeWhile_append_of_pos (forall_mem_signs _),
      List.takeWhile_cons_of_neg (by simp [noSign]), List.append_nil]
  have behindSigns (rest : Text) : (List.replicate spelling.level '#' ++ blank :: rest).dropWhile
      (· = '#') = blank :: rest := by
    rw [List.dropWhile_append_of_pos (forall_mem_signs _),
      List.dropWhile_cons_of_neg (by simp [noSign])]
  rw [line, isGap, List.cons_append, ofLine?, signs, behindSigns, List.length_replicate]
  dsimp only
  rw [wellFormed.cleanText_eq othersBlank]
  have isHeading : (decide (1 ≤ spelling.level) && decide (spelling.level ≤ 6) &&
      Text.isBlank blank && !spelling.text.isEmpty) = true := by
    simp [wellFormed.level, isBlank, wellFormed.text.nonempty]
  exact if_pos isHeading

private theorem exists_rest : ∃ rest, spelling.line = '#' :: rest := by
  obtain ⟨more, isLevel⟩ := Nat.exists_eq_add_of_le' wellFormed.level.1
  rw [line, isLevel, List.replicate_succ]
  exact ⟨_, rfl⟩

private theorem fenceMark?_line : fenceMark? spelling.line = none := by
  obtain ⟨rest, isLine⟩ := wellFormed.exists_rest
  rw [isLine]
  rfl

private theorem blank_or_visible_last {c : Char} (isLast : spelling.line.getLast? = some c) :
    isBlank c = true ∨ isSpace c = false := by
  have nonempty : spelling.text ++ spelling.closingText ≠ [] :=
    List.append_ne_nil_of_left_ne_nil wellFormed.text.nonempty _
  rw [line, ← List.append_assoc spelling.text, ← List.append_assoc spelling.gap,
    ← List.append_assoc, List.getLast?_append, Option.or_eq_some_iff] at isLast
  rcases isLast with inTrailing | ⟨_, isLast⟩
  · exact Or.inl (wellFormed.trailing c (List.mem_of_getLast? inTrailing))
  · rw [← List.append_assoc, List.getLast?_append_of_ne_nil _ nonempty] at isLast
    exact Or.inr (wellFormed.visible_last c isLast)

theorem ne_append_return : ∀ front, spelling.line ≠ front ++ ['\r'] := by
  intro front ends
  have isLast : spelling.line.getLast? = some '\r' := by
    rw [ends, List.getLast?_concat]
  exact absurd (wellFormed.blank_or_visible_last isLast) (by decide)

private theorem single : '\n' ∉ spelling.line := by
  have noBlank : isBlank '\n' = false := by
    decide
  have notInGap {gap : Text} (areBlank : ∀ c ∈ gap, isBlank c = true) : '\n' ∉ gap :=
    fun member => Bool.eq_false_iff.mp noBlank (areBlank '\n' member)
  have notInSigns (count : Nat) : '\n' ∉ List.replicate count '#' :=
    fun member => absurd (List.eq_of_mem_replicate member) (by decide)
  have notInClosing : '\n' ∉ spelling.closingText := by
    unfold closingText
    cases closed : spelling.closing with
    | none => exact List.not_mem_nil
    | some run =>
        obtain ⟨gap, count⟩ := run
        have isGap := (wellFormed.closing gap count closed).1
        exact List.not_mem_append (notInGap isGap.2) (notInSigns count)
  exact List.not_mem_append (notInSigns _) (List.not_mem_append (notInGap wellFormed.gap.2)
    (List.not_mem_append wellFormed.text.single
      (List.not_mem_append notInClosing (notInGap wellFormed.trailing))))

end Spelling.IsWellFormed

/-! ## Other lines -/

theorem IsOther.fenceMark?_eq_none {line : Text} (isOther : IsOther line) :
    fenceMark? line = none := by
  have noBackticks := mt List.isPrefixOf_iff_prefix.mp isOther.noBackticks
  have noTildes := mt List.isPrefixOf_iff_prefix.mp isOther.noTildes
  rw [fenceMark?, if_neg noBackticks, if_neg noTildes]

/-- Without what stands at its end, the carriage return say, a line is still no heading. -/
theorem IsOther.of_append {front back : Text} (isOther : IsOther (front ++ back)) :
    IsOther front := by
  have trimmed {mark : Char} (absent : ¬ [mark, mark, mark] <+: trimStart (front ++ back)) :
      ¬ [mark, mark, mark] <+: trimStart front := by
    intro begins
    apply absent
    have nonempty : front.dropWhile isSpace ≠ [] := begins.ne_nil (by simp)
    rw [trimStart, List.dropWhile_append, if_neg (mt List.isEmpty_iff.mp nonempty)]
    exact begins.trans (List.prefix_append _ _)
  constructor
  · exact fun member => isOther.single (List.mem_append_left back member)
  · intro isSign
    apply isOther.noSign
    rw [List.head?_append, isSign, Option.some_or]
  · exact trimmed isOther.noBackticks
  · exact trimmed isOther.noTildes

/-! ## Reading documents -/

namespace Line.IsWellFormed

variable {line : Line} (wellFormed : line.IsWellFormed)
include wellFormed

private theorem single : '\n' ∉ line.content := by
  cases line with
  | heading spelling => exact Spelling.IsWellFormed.single wellFormed
  | other content => exact IsOther.single wellFormed

/-- Without its ending a line begins no fence, and it is read as the heading that it is. -/
private theorem reads (hadReturn : Bool) :
    fenceMark? (stripReturn (endedLine (line, hadReturn))).1 = none ∧
      ofLine? (stripReturn (endedLine (line, hadReturn))).1 = line.heading? := by
  cases line with
  | heading spelling =>
      have spellingWellFormed : spelling.IsWellFormed := wellFormed
      have stripped : stripReturn (endedLine (.heading spelling, hadReturn)) =
          (spelling.line, hadReturn) :=
        stripReturn_append_returnIf spellingWellFormed.ne_append_return hadReturn
      rw [stripped]
      exact ⟨spellingWellFormed.fenceMark?_line, spellingWellFormed.ofLine?_line⟩
  | other content =>
      obtain ⟨back, isContent⟩ : ∃ back,
          content = (stripReturn (endedLine (.other content, hadReturn))).1 ++ back := by
        cases hadReturn with
        | false =>
            have split := stripReturn_split (endedLine (.other content, false))
            have isContent : endedLine (.other content, false) = content := List.append_nil content
            rw [isContent] at split ⊢
            exact ⟨_, split⟩
        | true =>
            have stripped : stripReturn (endedLine (.other content, true)) = (content, true) :=
              stripReturn_append_return content
            rw [stripped]
            exact ⟨[], (List.append_nil content).symm⟩
      have isOther : IsOther content := wellFormed
      rw [isContent] at isOther
      have shorter := isOther.of_append
      exact ⟨shorter.fenceMark?_eq_none, ofLine?_eq_none shorter.noSign⟩

end Line.IsWellFormed

private theorem lines_flatMap {pieces : List Text} (single : ∀ piece ∈ pieces, '\n' ∉ piece) :
    Text.lines (pieces.flatMap fun piece => piece ++ ['\n']) = pieces ++ [[]] := by
  induction pieces with
  | nil => rfl
  | cons piece others inductionHypothesis =>
      obtain ⟨singleHere, singleBelow⟩ := List.forall_mem_cons.mp single
      rw [List.flatMap_cons, List.append_assoc, List.singleton_append, lines_append_lineFeed,
        lines_of_not_mem singleHere, inductionHypothesis singleBelow]
      rfl

private theorem sourceLines_flatMap {pieces : List Text} (single : ∀ piece ∈ pieces, '\n' ∉ piece) :
    sourceLines (pieces.flatMap fun piece => piece ++ ['\n']) =
      pieces.map fun piece => (stripReturn piece).1 := by
  rw [sourceLines, lines_flatMap single, List.dropLast_concat, List.getLast?_concat]

private theorem scan_none {lines : List Text} (noFence : ∀ line ∈ lines, fenceMark? line = none) :
    scan none lines = lines.filterMap ofLine? := by
  induction lines with
  | nil => rfl
  | cons line rest inductionHypothesis =>
      obtain ⟨noFenceHere, noFenceBelow⟩ := List.forall_mem_cons.mp noFence
      have stays : passLine none line = none := noFenceHere
      rw [scan_cons, stays, inductionHypothesis noFenceBelow, List.filterMap_cons]
      cases ofLine? line with
      | none => rfl
      | some heading => rfl

/-- The headings of a document are those that were written, in their order. -/
theorem extract_document {lines : List (Line × Bool)}
    (wellFormed : ∀ line ∈ lines, line.1.IsWellFormed) :
    extract (document lines) = lines.filterMap fun line => line.1.heading? := by
  have single : ∀ piece ∈ lines.map endedLine, '\n' ∉ piece := by
    rw [List.forall_mem_map]
    intro line member
    exact List.not_mem_append (wellFormed line member).single (by simp)
  have areLines : document lines = (lines.map endedLine).flatMap fun piece => piece ++ ['\n'] := by
    rw [document, List.flatMap_map]
  have noFence : ∀ line ∈ (lines.map endedLine).map fun piece => (stripReturn piece).1,
      fenceMark? line = none := by
    rw [List.map_map, List.forall_mem_map]
    exact fun line member => ((wellFormed line member).reads line.2).1
  rw [extract, areLines, sourceLines_flatMap single, scan_none noFence, List.map_map,
    List.filterMap_map]
  apply List.filterMap_congr
  exact fun line member => ((wellFormed line member).reads line.2).2

/-- A heading with a closing run behind a text that ends in a number sign, one of a level that is
not centred, and lines between them. -/
def sampleLines : List (Line × Bool) :=
  [(.heading ⟨1, " ".toList, "C#".toList, some (" ".toList, 2), "\t".toList⟩, true),
    (.other "a # b".toList, false),
    (.other [], true),
    (.heading ⟨4, "\t ".toList, "-> c <-".toList, none, []⟩, false)]

theorem extract_sampleLines :
    (∀ line ∈ sampleLines, line.1.IsWellFormed) ∧
      extract (document sampleLines) = [ofText 1 "C#".toList, ofText 4 "-> c <-".toList] := by
  have sharp : IsPlainText 1 "C#".toList :=
    ⟨by decide, by decide, by decide, by decide, noClosingRun_of_last (rfl : _ = some 'C') rfl,
      by decide⟩
  have arrows : IsPlainText 4 "-> c <-".toList :=
    ⟨by decide, by decide, by decide, by decide, noClosingRun_of_last (rfl : _ = some '-') rfl,
      by decide⟩
  have blank : IsGap " ".toList ∧ IsGap "\t ".toList :=
    ⟨⟨by decide, List.all_eq_true.mp (by decide)⟩, ⟨by decide, List.all_eq_true.mp (by decide)⟩⟩
  have wellFormed : ∀ line ∈ sampleLines, line.1.IsWellFormed := by
    simp only [sampleLines, List.forall_mem_cons]
    refine ⟨⟨by decide, blank.1, sharp, ?_, List.all_eq_true.mp (by decide)⟩,
      ⟨by decide, by decide, by decide, by decide⟩, ⟨by decide, by decide, by decide, by decide⟩,
      ⟨by decide, blank.2, arrows, ?_, List.forall_mem_nil _⟩, List.forall_mem_nil _⟩
    · rintro gap count ⟨⟩
      exact ⟨blank.1, by decide⟩
    · rintro gap count ⟨⟩
  exact ⟨wellFormed, extract_document wellFormed⟩

end MarkdownDialect.Heading
