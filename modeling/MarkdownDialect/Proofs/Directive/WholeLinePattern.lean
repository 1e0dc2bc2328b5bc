import MarkdownDialect.Proofs.Directive.BetweenBlanks
import MarkdownDialect.Proofs.Directive.WholeLine

/-!
# The patterns of directives that take a whole line

The patterns of spoilers, aligned lines and markers for tables of contents ask for the start of a
line, and those of the last two for its end as well. Within a line they match what the readers of
these directives read, so their stages expand every line on its own.
-/

namespace MarkdownDialect

open Text Pattern

/-! ## The ends of lines -/

/-- Whether a carriage return stands at the end of a line, if it comes here. -/
def lineEnding? : Text → Option Bool
  | [] => some false
  | ['\r'] => some true
  | _ => none

theorem lineEnding?_eq_some_iff {text : Text} {hadReturn : Bool} :
    lineEnding? text = some hadReturn ↔ text = returnIf hadReturn := by
  unfold lineEnding? returnIf
  split <;> cases hadReturn <;> simp_all

theorem run_lineEnding (trace : Trace) {text : Text} (single : '\n' ∉ text) :
    (Pattern.sequence [.group 2 (.optional (.char (· = '\r'))), .lineEnd]).run
        (fun trace rest => some (trace.captures, rest)) trace text =
      (lineEnding? text).map fun hadReturn => ((2, returnIf hadReturn) :: trace.captures, []) := by
  rw [run_sequence_cons, run_group, run_optional]
  cases text with
  | nil => rfl
  | cons c rest =>
      simp only [List.mem_cons, not_or] at single
      by_cases isReturn : c = '\r'
      · subst isReturn
        cases rest with
        | nil => rfl
        | cons d more =>
            simp only [List.mem_cons, not_or] at single
            simp [run, lineEnding?, Ne.symm single.2.1]
      · simp [run, lineEnding?, isReturn, Ne.symm single.1]

/-! ## Spoilers -/

namespace Spoiler

theorem pattern_eq_seq :
    pattern = .seq .lineStart
      (Pattern.sequence [.literal "!>".toList, .group 1 (.oneOrMany isInLine)]) := rfl

private theorem front?_eq_bind {line : Text} (single : '\n' ∉ line) :
    pattern.front? true line =
      ("!>".toList.isPrefixOf? line).bind fun rest =>
        if rest.takeWhile (· != '\r') = [] then
          none
        else
          some ([(1, rest.takeWhile (· != '\r'))], rest.dropWhile (· != '\r')) := by
  rw [pattern_eq_seq, front?_lineStart, front?, run_sequence_cons, run_literal]
  cases opening : "!>".toList.isPrefixOf? line with
  | none => rfl
  | some rest =>
      obtain rfl : line = '!' :: '>' :: rest := isPrefixOf?_eq_some_iff.mp opening
      simp only [List.mem_cons, not_or] at single
      have sameClass : ∀ c ∈ rest, isInLine c = (c != '\r') :=
        fun c member => isInLine_of_mem single.2.2 member
      rw [Option.bind_some, Option.bind_some, run_sequence_cons, run_group,
        run_oneOrMany_of_isSome fun _ _ => rfl, takeWhile_congr sameClass,
        dropWhile_congr sameClass]
      by_cases empty : rest.takeWhile (· != '\r') = []
      · rw [if_pos empty, if_pos empty]
      · rw [if_neg empty, if_neg empty]
        simp

theorem expand_eq_onLines : expand = onLines expandLine := by
  apply (splitsAtLineFeeds_replaceAll (by decide) _).eq_onLines_of_lines
  intro line single
  rw [replaceAll_of_lineStart pattern_eq_seq single, front?_eq_bind single, expandLine]
  · cases opening : "!>".toList.isPrefixOf? line with
    | none => rfl
    | some rest =>
        by_cases empty : rest.takeWhile (· != '\r') = []
        · rw [Option.bind_some, if_pos empty]
          simp only [empty, List.isEmpty_nil, if_true]
        · rw [Option.bind_some, if_neg empty]
          simp [empty, withWhole]
  · intro found reading
    rw [front?_eq_bind single, Option.bind_eq_some_iff] at reading
    obtain ⟨rest, opening, reading⟩ := reading
    rw [Option.ite_none_left_eq_some] at reading
    obtain rfl := Option.some.inj reading.2
    obtain rfl : line = '!' :: '>' :: rest := isPrefixOf?_eq_some_iff.mp opening
    have notLonger := (List.dropWhile_suffix (· != '\r') (l := rest)).length_le
    simp only [List.length_cons]
    omega

end Spoiler

/-! ## Aligned lines -/

namespace Alignment

variable {alignment : Alignment}

theorem pattern_eq_seq (alignment : Alignment) :
    alignment.pattern = .seq .lineStart
      (Pattern.sequence [.literal "->".toList, .many isBlank, .group 1 (.oneOrFew isInLine),
        .many isBlank, .literal alignment.closingArrow,
        .group 2 (.optional (.char (· = '\r'))), .lineEnd]) := rfl

/-- What closes an aligned line: its second arrow at the end, behind blanks. -/
def closing? (alignment : Alignment) (text : Text) : Option Bool :=
  (alignment.closingArrow.isPrefixOf? (text.dropWhile isBlank)).bind lineEnding?

private theorem isBlank_of_closingArrow {c : Char} {rest : Text} (blank : isBlank c = true) :
    alignment.closingArrow.isPrefixOf? (c :: rest) = none := by
  rw [isPrefixOf?_eq_none_iff]
  rintro after split
  cases alignment <;>
    exact absurd ((List.cons.inj split).1 ▸ blank) (by decide)

theorem closing?_eq_some_iff {text : Text} {hadReturn : Bool} :
    alignment.closing? text = some hadReturn ↔
      ∃ blanks, (∀ c ∈ blanks, isBlank c = true) ∧
        text = blanks ++ (alignment.closingArrow ++ returnIf hadReturn) := by
  simp only [closing?, Option.bind_eq_some_iff, isPrefixOf?_eq_some_iff, lineEnding?_eq_some_iff]
  constructor
  · rintro ⟨_, split, rfl⟩
    refine ⟨text.takeWhile isBlank, fun c member => List.mem_takeWhile_imp member, ?_⟩
    rw [← split, List.takeWhile_append_dropWhile]
  · rintro ⟨blanks, blank, rfl⟩
    refine ⟨returnIf hadReturn, ?_, rfl⟩
    rw [List.dropWhile_append_of_pos blank]
    cases alignment <;> rfl

theorem closing?_cons (c : Char) (rest : Text) (blank : isBlank c = true) :
    alignment.closing? (c :: rest) = alignment.closing? rest := by
  rw [closing?, List.dropWhile_cons_of_pos blank, closing?]

private theorem run_closing (trace : Trace) {text : Text} (single : '\n' ∉ text) :
    (Pattern.sequence [.many isBlank, .literal alignment.closingArrow,
        .group 2 (.optional (.char (· = '\r'))), .lineEnd]).run
        (fun trace rest => some (trace.captures, rest)) trace text =
      (alignment.closing? text).map fun hadReturn =>
        ((2, returnIf hadReturn) :: trace.captures, []) := by
  rw [run_sequence_cons, run, runMany_of_stops, run_sequence_cons, run_literal, closing?]
  · cases arrow : alignment.closingArrow.isPrefixOf? (text.dropWhile isBlank) with
    | none => rfl
    | some rest =>
        have behind : text.dropWhile isBlank = alignment.closingArrow ++ rest :=
          isPrefixOf?_eq_some_iff.mp arrow
        have singleRest : '\n' ∉ rest := by
          intro member
          exact single ((List.dropWhile_suffix isBlank).subset
            (behind ▸ List.mem_append_right _ member))
        rw [Option.bind_some, Option.bind_some, run_lineEnding _ singleRest]
        simp
  · intro inside c rest blank
    rw [run_sequence_cons, run_literal, isBlank_of_closingArrow blank]
    rfl

theorem front?_eq_bind {line : Text} (single : '\n' ∉ line) :
    alignment.pattern.front? true line =
      ("->".toList.isPrefixOf? line).bind fun rest =>
        (textBefore? alignment.closing? rest).map fun (text, hadReturn) =>
          ([(2, returnIf hadReturn), (1, text)], []) := by
  rw [pattern_eq_seq, front?_lineStart, front?, run_sequence_cons, run_literal]
  cases opening : "->".toList.isPrefixOf? line with
  | none => rfl
  | some rest =>
      obtain rfl : line = '-' :: '>' :: rest := isPrefixOf?_eq_some_iff.mp opening
      have singleRest : '\n' ∉ rest := fun member =>
        single (List.mem_cons_of_mem '-' (List.mem_cons_of_mem '>' member))
      exact @runMany_of_closes _ _ _ _
        (fun captures hadReturn => ((2, returnIf hadReturn) :: captures, []))
        (fun trace _ => run_closing trace) closing?_cons 1 _ _ singleRest

/-- An aligned line closes nowhere before its last arrow. -/
theorem closing?_eq_none {behind back : Text} {hadReturn : Bool} {last : Char}
    (isLast : behind.getLast? = some last) (visible : isBlank last = false) :
    alignment.closing? (behind ++ (back ++ (alignment.closingArrow ++ returnIf hadReturn))) =
      none := by
  rw [Option.eq_none_iff_forall_ne_some]
  intro otherReturn closes
  obtain ⟨blanks, blank, split⟩ := closing?_eq_some_iff.mp closes
  have noReturn : ∀ between front, between ++ alignment.closingArrow ≠ front ++ ['\r'] :=
    fun between front equal => alignment.arrow_ne_append_return between ('-' :: '>' :: front)
      (congrArg (fun text => '-' :: '>' :: text) equal)
  rw [← List.append_assoc, ← List.append_assoc, ← List.append_assoc] at split
  have stripped := congrArg stripReturn split
  rw [stripReturn_append_returnIf (noReturn _), stripReturn_append_returnIf (noReturn _)]
    at stripped
  have same : behind ++ back = blanks := List.append_cancel_right (Prod.mk.inj stripped).1
  have inBlanks : last ∈ blanks := same ▸ List.mem_append_left _ (List.mem_of_getLast? isLast)
  simp [blank last inBlanks] at visible

/-- A text between blanks is read without them. -/
private theorem textBefore?_of_visible_ends {front content back : Text}
    (frontBlank : ∀ c ∈ front, isBlank c = true) (backBlank : ∀ c ∈ back, isBlank c = true)
    (nonempty : content ≠ []) (noReturn : '\r' ∉ content)
    (startsVisible : ∀ c, content.head? = some c → isBlank c = false)
    (endsVisible : ∀ c, content.getLast? = some c → isBlank c = false) (hadReturn : Bool) :
    textBefore? alignment.closing?
        (front ++ (content ++ (back ++ (alignment.closingArrow ++ returnIf hadReturn)))) =
      some (content, hadReturn) := by
  have shortest : shortestBefore? alignment.closing?
      (content ++ (back ++ (alignment.closingArrow ++ returnIf hadReturn))) =
        some (content, hadReturn) := by
    apply shortestBefore?_complete nonempty noReturn
    · rintro before behind rfl more
      rw [List.getLast?_append_of_ne_nil _ more] at endsVisible
      have isLast := List.getLast?_eq_some_getLast more
      exact closing?_eq_none isLast (endsVisible _ isLast)
    · exact closing?_eq_some_iff.mpr ⟨back, backBlank, rfl⟩
  have visible : (content ++ (back ++ (alignment.closingArrow ++ returnIf hadReturn))).dropWhile
      isBlank = content ++ (back ++ (alignment.closingArrow ++ returnIf hadReturn)) := by
    cases content with
    | nil => exact absurd rfl nonempty
    | cons c rest => exact List.dropWhile_cons_of_neg (by simp [startsVisible c rfl])
  simp only [textBefore?, List.dropWhile_append_of_pos frontBlank, visible, shortest]

/-- Of nothing but blanks the last is read. -/
private theorem textBefore?_of_blanks {blanks : Text} {last : Char}
    (blank : ∀ c ∈ blanks, isBlank c = true) (isLast : blanks.getLast? = some last)
    (hadReturn : Bool) :
    textBefore? alignment.closing? (blanks ++ (alignment.closingArrow ++ returnIf hadReturn)) =
      some ([last], hadReturn) := by
  have noBlank : (alignment.closingArrow ++ returnIf hadReturn).takeWhile isBlank = [] := by
    cases alignment <;> rfl
  have arrow : (alignment.closingArrow ++ returnIf hadReturn).dropWhile isBlank =
      alignment.closingArrow ++ returnIf hadReturn := by
    cases alignment <;> rfl
  have nothing : shortestBefore? alignment.closing?
      (alignment.closingArrow ++ returnIf hadReturn) = none := by
    cases alignment <;> cases hadReturn <;> rfl
  have closes : alignment.closing? (alignment.closingArrow ++ returnIf hadReturn) =
      some hadReturn := closing?_eq_some_iff.mpr ⟨[], by simp, rfl⟩
  simp only [textBefore?, List.takeWhile_append_of_pos blank, List.dropWhile_append_of_pos blank,
    noBlank, arrow, nothing, List.append_nil, isLast, closes, Option.map_some]

private theorem textBefore?_of_content? {between content : Text} (noReturn : '\r' ∉ between)
    (reading : content? between = some content) (hadReturn : Bool) :
    textBefore? alignment.closing?
        (between ++ (alignment.closingArrow ++ returnIf hadReturn)) =
      some (content, hadReturn) := by
  obtain ⟨front, back, split, frontBlank, backBlank⟩ := trimBlanks_split between
  unfold content? at reading
  split at reading
  · next empty =>
      rw [Option.map_eq_some_iff] at reading
      obtain ⟨last, isLast, rfl⟩ := reading
      rw [empty, List.nil_append] at split
      refine textBefore?_of_blanks (fun c member => ?_) isLast hadReturn
      rw [split, List.mem_append] at member
      exact member.elim (frontBlank c) (backBlank c)
  · next nonempty =>
      obtain rfl := Option.some.inj reading
      have noReturnInContent : '\r' ∉ trimBlanks between := fun member =>
        noReturn (split ▸ List.mem_append_right _ (List.mem_append_left _ member))
      have found := @textBefore?_of_visible_ends alignment _ _ _ frontBlank backBlank nonempty
        noReturnInContent (fun _ => isBlank_head?_trimBlanks)
        (fun _ => isBlank_getLast?_trimBlanks) hadReturn
      rwa [← List.append_assoc (trimBlanks between), ← List.append_assoc front, ← split] at found

private theorem aligns_of_front? {line : Text} (single : '\n' ∉ line) {found : Captures × Text}
    (reading : alignment.pattern.front? true line = some found) : alignment.Aligns line := by
  rw [front?_eq_bind single, Option.bind_eq_some_iff] at reading
  obtain ⟨rest, opening, reading⟩ := reading
  obtain rfl : line = '-' :: '>' :: rest := isPrefixOf?_eq_some_iff.mp opening
  obtain ⟨⟨text, hadReturn⟩, textReading, _⟩ := Option.map_eq_some_iff.mp reading
  obtain ⟨front, back, rfl, nonempty, noReturn, closes⟩ := textBefore?_sound textReading
  obtain ⟨blanks, blank, rfl⟩ := closing?_eq_some_iff.mp closes
  refine ⟨front ++ blanks, hadReturn, by simp [nonempty], ?_, by simp⟩
  rw [List.mem_append, not_or]
  exact ⟨noReturn, fun member => absurd (blank '\r' member) (by decide)⟩

theorem splitsAtLineFeeds_expandAs (alignment : Alignment) :
    SplitsAtLineFeeds alignment.expandAs := by
  have within : alignment.pattern.isWithinLine = true := by
    cases alignment <;> decide
  exact splitsAtLineFeeds_replaceAll within alignment.expansion

theorem expandAs_eq_onLines (alignment : Alignment) :
    alignment.expandAs = onLines alignment.expandLine := by
  apply (splitsAtLineFeeds_expandAs alignment).eq_onLines_of_lines
  intro line single
  rw [expandAs, replaceAll_of_lineStart (pattern_eq_seq alignment) single]
  · rcases alignment.expandLine_cases line with
      ⟨plain, same⟩ | ⟨between, content, hadReturn, _, noReturn, reading, rfl, changed⟩
    · cases front : alignment.pattern.front? true line with
      | none => exact same.symm
      | some found => exact absurd (aligns_of_front? single front) plain
    · have opening : "->".toList.isPrefixOf?
          ('-' :: '>' :: (between ++ (alignment.closingArrow ++ returnIf hadReturn))) =
            some (between ++ (alignment.closingArrow ++ returnIf hadReturn)) := rfl
      rw [front?_eq_bind single, opening, Option.bind_some,
        textBefore?_of_content? noReturn reading, changed]
      simp [expansion, withWhole]
  · intro found reading
    rw [front?_eq_bind single, Option.bind_eq_some_iff] at reading
    obtain ⟨rest, opening, reading⟩ := reading
    obtain rfl : line = '-' :: '>' :: rest := isPrefixOf?_eq_some_iff.mp opening
    obtain ⟨_, _, rfl⟩ := Option.map_eq_some_iff.mp reading
    simp

theorem expand_eq_onLines :
    expand = fun text => onLines right.expandLine (onLines center.expandLine text) := by
  funext text
  rw [expand, expandAs_eq_onLines, expandAs_eq_onLines]

end Alignment

/-! ## Markers for tables of contents -/

namespace TocMarker

theorem pattern_eq_seq :
    pattern = .seq .lineStart
      (Pattern.sequence [.literal "[TOC".toList, .group 1 (.optional (.char isDecimalDigit)),
        .literal "]".toList, .group 2 (.optional (.char (· = '\r'))), .lineEnd]) := rfl

/-- What closes a marker. -/
def closing? (text : Text) : Option Bool :=
  ("]".toList.isPrefixOf? text).bind lineEnding?

theorem closing?_eq_some_iff {text : Text} {hadReturn : Bool} :
    closing? text = some hadReturn ↔ text = ']' :: returnIf hadReturn := by
  simp only [closing?, Option.bind_eq_some_iff, isPrefixOf?_eq_some_iff, lineEnding?_eq_some_iff]
  constructor
  · rintro ⟨_, rfl, rfl⟩
    rfl
  · rintro rfl
    exact ⟨_, rfl, rfl⟩

private theorem run_closing (trace : Trace) {text : Text} (single : '\n' ∉ text) :
    (Pattern.sequence [.literal "]".toList, .group 2 (.optional (.char (· = '\r'))), .lineEnd]).run
        (fun trace rest => some (trace.captures, rest)) trace text =
      (closing? text).map fun hadReturn => ((2, returnIf hadReturn) :: trace.captures, []) := by
  rw [run_sequence_cons, run_literal, closing?]
  cases opening : "]".toList.isPrefixOf? text with
  | none => rfl
  | some rest =>
      obtain rfl : text = ']' :: rest := isPrefixOf?_eq_some_iff.mp opening
      have singleRest : '\n' ∉ rest := fun member => single (List.mem_cons_of_mem ']' member)
      rw [Option.bind_some, Option.bind_some, run_lineEnding _ singleRest]
      rfl

/-- What a marker may have for its digit. -/
def IsDigit (digit : Text) : Prop :=
  digit = [] ∨ ∃ d, isDecimalDigit d = true ∧ digit = [d]

private theorem run_digit (trace : Trace) {text : Text} (single : '\n' ∉ text)
    {found : Captures × Text} :
    (Pattern.sequence [.group 1 (.optional (.char isDecimalDigit)), .literal "]".toList,
        .group 2 (.optional (.char (· = '\r'))), .lineEnd]).run
        (fun trace rest => some (trace.captures, rest)) trace text = some found ↔
      ∃ digit hadReturn, IsDigit digit ∧ text = digit ++ ']' :: returnIf hadReturn ∧
        found = ((2, returnIf hadReturn) :: (1, digit) :: trace.captures, []) := by
  rw [run_sequence_cons, run_group, run_optional, Option.or_eq_some_iff]
  constructor
  · rintro (withDigit | ⟨_, withoutDigit⟩)
    · cases text with
      | nil => exact absurd withDigit (by simp [run])
      | cons d rest =>
          have singleRest : '\n' ∉ rest := fun member => single (List.mem_cons_of_mem d member)
          rw [run_char_cons, Option.ite_none_right_eq_some, run_closing _ singleRest] at withDigit
          obtain ⟨isDigit, hadReturn, closes, rfl⟩ := withDigit.imp_right Option.map_eq_some_iff.mp
          obtain rfl := closing?_eq_some_iff.mp closes
          exact ⟨[d], hadReturn, Or.inr ⟨d, isDigit, rfl⟩, rfl, rfl⟩
    · rw [run_closing _ single, Option.map_eq_some_iff] at withoutDigit
      obtain ⟨hadReturn, closes, rfl⟩ := withoutDigit
      exact ⟨[], hadReturn, Or.inl rfl, closing?_eq_some_iff.mp closes, rfl⟩
  · rintro ⟨digit, hadReturn, isDigit, rfl, rfl⟩
    have closes : closing? (']' :: returnIf hadReturn) = some hadReturn :=
      closing?_eq_some_iff.mpr rfl
    rcases isDigit with rfl | ⟨d, isDigit, rfl⟩
    · have noDigit : isDecimalDigit ']' = false := by decide
      refine Or.inr ⟨by simp [run, noDigit], ?_⟩
      rw [run_closing _ single, List.nil_append, closes]
      rfl
    · left
      have singleRest : '\n' ∉ ']' :: returnIf hadReturn := fun member =>
        single (List.mem_cons_of_mem d member)
      rw [List.singleton_append, run_char_cons, if_pos isDigit, run_closing _ singleRest, closes]
      rfl

theorem front?_eq_some_iff {line : Text} (single : '\n' ∉ line) {found : Captures × Text} :
    pattern.front? true line = some found ↔
      ∃ digit hadReturn, IsDigit digit ∧
        line = "[TOC".toList ++ (digit ++ ']' :: returnIf hadReturn) ∧
        found = ([(2, returnIf hadReturn), (1, digit)], []) := by
  rw [pattern_eq_seq, front?_lineStart, front?, run_sequence_cons, run_literal]
  simp only [Option.bind_eq_some_iff, isPrefixOf?_eq_some_iff]
  constructor
  · rintro ⟨rest, rfl, reading⟩
    have singleRest : '\n' ∉ rest := fun member => single (List.mem_append_right _ member)
    obtain ⟨digit, hadReturn, isDigit, rfl, rfl⟩ := (run_digit _ singleRest).mp reading
    exact ⟨digit, hadReturn, isDigit, rfl, rfl⟩
  · rintro ⟨digit, hadReturn, isDigit, rfl, rfl⟩
    have singleRest : '\n' ∉ digit ++ ']' :: returnIf hadReturn := fun member =>
      single (List.mem_append_right _ member)
    exact ⟨_, rfl, (run_digit _ singleRest).mpr ⟨digit, hadReturn, isDigit, rfl, rfl⟩⟩

private theorem IsMarker.exists_isDigit {text : Text} (isMarker : IsMarker text) :
    ∃ digit, IsDigit digit ∧ text = "[TOC".toList ++ (digit ++ [']']) := by
  rcases isMarker with rfl | ⟨d, isDigit, rfl⟩
  · exact ⟨[], Or.inl rfl, rfl⟩
  · exact ⟨[d], Or.inr ⟨d, isDigit, rfl⟩, rfl⟩

/-- The level of a marker. -/
private theorem read?_of_isDigit {digit : Text} (isDigit : IsDigit digit) :
    read? ("[TOC".toList ++ (digit ++ [']'])) =
      some (levelOf (if digit.isEmpty then none else some digit)) := by
  rcases isDigit with rfl | ⟨d, isDigit, rfl⟩
  · rfl
  · have opening := isPrefixOf?_append "[TOC".toList [d, ']']
    have closing : [']'].isSuffixOf? [d, ']'] = some [d] := isSuffixOf?_eq_some_iff.mpr rfl
    simp only [read?, Option.bind_eq_bind, List.singleton_append, opening, closing,
      Option.bind_some]
    rw [if_pos isDigit]
    rfl

private theorem expandLine_of_isDigit {digit : Text} (isDigit : IsDigit digit) (hadReturn : Bool) :
    expandLine ("[TOC".toList ++ (digit ++ ']' :: returnIf hadReturn)) =
      placeholder (levelOf (if digit.isEmpty then none else some digit)) ++ returnIf hadReturn := by
  have whole : "[TOC".toList ++ (digit ++ ']' :: returnIf hadReturn) =
      ("[TOC".toList ++ (digit ++ [']'])) ++ returnIf hadReturn := by simp
  have ends : "[TOC".toList ++ (digit ++ [']']) = ("[TOC".toList ++ digit) ++ [']'] := by simp
  have noReturn := ends ▸ ne_append_return_of_concat (by decide)
  rw [whole, expandLine, stripReturn_append_returnIf noReturn hadReturn]
  simp only [read?_of_isDigit isDigit]

theorem expand_eq_onLines : expand = onLines expandLine := by
  apply (splitsAtLineFeeds_replaceAll (by decide) expansion).eq_onLines_of_lines
  intro line single
  rw [replaceAll_of_lineStart pattern_eq_seq single]
  · cases reading : pattern.front? true line with
    | some found =>
        obtain ⟨digit, hadReturn, isDigit, rfl, rfl⟩ := (front?_eq_some_iff single).mp reading
        rw [expandLine_of_isDigit isDigit]
        simp [expansion, withWhole]
    | none =>
        refine (expandLine_eq_self ?_).symm
        intro isMarker
        obtain ⟨digit, isDigit, shape⟩ := isMarker.exists_isDigit
        have split := stripReturn_split line
        rw [shape, List.append_assoc, List.append_assoc, List.singleton_append] at split
        rw [(front?_eq_some_iff single).mpr ⟨digit, _, isDigit, split, rfl⟩] at reading
        exact absurd reading (by simp)
  · intro found reading
    obtain ⟨digit, hadReturn, _, rfl, rfl⟩ := (front?_eq_some_iff single).mp reading
    simp

end TocMarker

end MarkdownDialect
