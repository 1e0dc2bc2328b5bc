import MarkdownDialect.Proofs.Stage.Composition
import MarkdownDialect.Rendering
import Mathlib.Data.List.Forall2
import Mathlib.Tactic.IntervalCases

/-!
# Markers and the tables that take their place

A marker is written as a placeholder when directives are expanded, and the placeholder is found
again when the HTML is completed. What is written and what is found are the same six texts, and no
placeholder comes about over the end of a line; so every marker gets the table it asks for, and
nothing else changes.
-/

namespace MarkdownDialect

open Text

namespace TocMarker

/-! ## The level that a marker asks for -/

/-- The level that a marker asks for: its digit, brought into the range of heading levels, or one
if there is no digit or one of another script. -/
inductive AsksFor : Text → Nat → Prop
  | plain : AsksFor "[TOC]".toList 1
  | ascii {digit : Char} (isDigit : digit.isDigit = true) :
      AsksFor ("[TOC".toList ++ [digit, ']']) (clampLevel (digitValue digit))
  | foreign {digit : Char} (isDecimal : isDecimalDigit digit = true)
      (notAscii : digit.isDigit = false) :
      AsksFor ("[TOC".toList ++ [digit, ']']) 1

theorem clampLevel_bounds (level : Nat) : 1 ≤ clampLevel level ∧ clampLevel level ≤ 6 := by
  unfold clampLevel
  omega

theorem clampLevel_eq_self {level : Nat} (low : 1 ≤ level) (high : level ≤ 6) :
    clampLevel level = level := by
  unfold clampLevel
  omega

private theorem isDecimalDigit_of_isDigit {c : Char} (isDigit : c.isDigit = true) :
    isDecimalDigit c = true := by
  obtain ⟨low, high⟩ := isDigit_bounds isDigit
  have inFirst : (0x30 ≤ c.toNat && c.toNat ≤ 0x39) = true := by
    simpa using And.intro low high
  simp only [isDecimalDigit, inRanges, decimalDigitRanges, List.any_cons, inFirst, Bool.true_or]

private theorem levelOf_digit {digit : Char} (isDecimal : isDecimalDigit digit = true) :
    levelOf (some [digit]) = if digit.isDigit then clampLevel (digitValue digit) else 1 := by
  have noPlus : digit ≠ '+' := by
    rintro rfl
    exact absurd isDecimal (by decide)
  have reading : readSignedDecimal 256 [digit] = if digit.isDigit then _ else none :=
    readSignedDecimal_singleton noPlus (by decide)
  by_cases isDigit : digit.isDigit = true
  · simp [levelOf, reading, isDigit]
  · simp [levelOf, reading, isDigit, clampLevel]

private theorem read?_numbered {digit : Char} (isDecimal : isDecimalDigit digit = true) :
    read? ("[TOC".toList ++ [digit, ']']) = some (levelOf (some [digit])) := by
  have opening := isPrefixOf?_append "[TOC".toList [digit, ']']
  have closing : [']'].isSuffixOf? [digit, ']'] = some [digit] :=
    isSuffixOf?_eq_some_iff.mpr rfl
  simp only [read?, Option.bind_eq_bind, opening, closing, Option.bind_some]
  rw [if_pos isDecimal]
  rfl

theorem read?_eq_some_iff {line : Text} {level : Nat} :
    read? line = some level ↔ AsksFor line level := by
  constructor
  · intro reading
    rcases read?_sound reading with rfl | ⟨digit, isDecimal, rfl⟩
    · cases reading
      exact AsksFor.plain
    · rw [read?_numbered isDecimal] at reading
      cases reading
      rw [levelOf_digit isDecimal]
      split
      · next isDigit => exact AsksFor.ascii isDigit
      · next notAscii => exact AsksFor.foreign isDecimal (by simpa using notAscii)
  · intro asks
    cases asks with
    | plain => rfl
    | ascii isDigit =>
        have isDecimal := isDecimalDigit_of_isDigit isDigit
        rw [read?_numbered isDecimal, levelOf_digit isDecimal, if_pos isDigit]
    | foreign isDecimal notAscii =>
        rw [read?_numbered isDecimal, levelOf_digit isDecimal, if_neg (by simp [notAscii])]

theorem AsksFor.level_bounds {marker : Text} {level : Nat} (asks : AsksFor marker level) :
    1 ≤ level ∧ level ≤ 6 := by
  cases asks with
  | plain => decide
  | ascii _ => exact clampLevel_bounds _
  | foreign _ _ => decide

/-! ## Placeholders -/

private theorem digitChar_level {level : Nat} (low : 1 ≤ level) (high : level ≤ 6) :
    ('1' ≤ Nat.digitChar level ∧ Nat.digitChar level ≤ '6') ∧
      digitValue (Nat.digitChar level) = level := by
  interval_cases level <;> decide

/-- The placeholders are those of the heading levels, one to six. -/
theorem readPlaceholder?_eq_some_iff {text after : Text} {level : Nat} :
    readPlaceholder? text = some (level, after) ↔
      (1 ≤ level ∧ level ≤ 6) ∧ text = placeholder level ++ after := by
  constructor
  · intro reading
    simp only [readPlaceholder?, Option.bind_eq_bind, Option.bind_eq_some_iff,
      isPrefixOf?_eq_some_iff] at reading
    obtain ⟨rest, rfl, reading⟩ := reading
    split at reading
    · next digit rest =>
        split at reading
        · next inRange =>
            simp only [Option.bind_eq_some_iff, isPrefixOf?_eq_some_iff] at reading
            obtain ⟨following, rfl, found⟩ := reading
            cases found
            simp only [Bool.and_eq_true, decide_eq_true_eq] at inRange
            have low : 49 ≤ digit.toNat := toNat_le_of_le inRange.1
            have high : digit.toNat ≤ 54 := toNat_le_of_le inRange.2
            have isChar : digit = Char.ofNat digit.toNat := (Char.ofNat_toNat digit).symm
            have isWritten : ofNat (digitValue digit) = [digit] := by
              unfold digitValue
              rw [isChar]
              generalize digit.toNat = code at low high
              interval_cases code <;> rfl
            refine ⟨?_, ?_⟩
            · have zero : '0'.toNat = 48 := rfl
              unfold digitValue
              omega
            · simp [placeholder, isWritten]
        · exact absurd reading (by simp)
    · exact absurd reading (by simp)
  · rintro ⟨⟨low, high⟩, rfl⟩
    have opening := isPrefixOf?_append placeholderOpening
      (ofNat level ++ (placeholderClosing ++ after))
    have closing := isPrefixOf?_append placeholderClosing after
    obtain ⟨inRange, value⟩ := digitChar_level low high
    have isDigit : ofNat level = [Nat.digitChar level] := ofNat_of_lt_ten (by omega)
    rw [isDigit] at opening
    unfold placeholder readPlaceholder?
    rw [isDigit, List.append_assoc, List.append_assoc, opening]
    simp [closing, inRange, value]

theorem placeholder_eq_cons (level : Nat) : ∃ rest, placeholder level = '<' :: rest := by
  obtain ⟨rest, shape, _⟩ := (isHtml_placeholder level).eq_cons
  exact ⟨rest, shape⟩

section Filling

variable (content : Nat → Text)

/-- A placeholder at the front of a text, with the text that fills it. -/
def findPlaceholder? (text : Text) : Option (Text × Text) :=
  (readPlaceholder? text).map fun (level, after) => (content level, after)

theorem findPlaceholder?_eq_some_iff {text filling after : Text} :
    findPlaceholder? content text = some (filling, after) ↔
      ∃ level, (1 ≤ level ∧ level ≤ 6) ∧ text = placeholder level ++ after ∧
        filling = content level := by
  simp only [findPlaceholder?, Option.map_eq_some_iff, Prod.exists, Prod.mk.injEq,
    readPlaceholder?_eq_some_iff]
  constructor
  · rintro ⟨level, _, ⟨bounds, shape⟩, rfl, rfl⟩
    exact ⟨level, bounds, shape, rfl⟩
  · rintro ⟨level, bounds, shape, rfl⟩
    exact ⟨level, after, ⟨bounds, shape⟩, rfl, rfl⟩

theorem advances_findPlaceholder : Advances (findPlaceholder? content) := by
  intro text filling after reading
  obtain ⟨level, _, shape, _⟩ := (findPlaceholder?_eq_some_iff content).mp reading
  obtain ⟨rest, isTag⟩ := placeholder_eq_cons level
  exact ⟨placeholder level, by simp [isTag], shape⟩

/-- A placeholder does not reach over the end of a line. -/
private theorem findPlaceholder?_append_lineFeed (front back : Text) :
    findPlaceholder? content (front ++ '\n' :: back) =
      (findPlaceholder? content front).map fun (filling, after) =>
        (filling, after ++ '\n' :: back) := by
  cases reading : findPlaceholder? content front with
  | some found =>
      obtain ⟨filling, after⟩ := found
      obtain ⟨level, bounds, shape, isContent⟩ :=
        (findPlaceholder?_eq_some_iff content).mp reading
      rw [Option.map_some, findPlaceholder?_eq_some_iff]
      exact ⟨level, bounds, by rw [shape, List.append_assoc], isContent⟩
  | none =>
      rw [Option.map_none, Option.eq_none_iff_forall_ne_some]
      rintro ⟨filling, after⟩ longer
      obtain ⟨level, bounds, shape, isContent⟩ :=
        (findPlaceholder?_eq_some_iff content).mp longer
      rcases List.append_eq_append_iff.mp shape with ⟨middle, split, inAfter⟩ | ⟨rest, split, _⟩
      · cases middle with
        | nil =>
            rw [List.append_nil] at split
            have found := (findPlaceholder?_eq_some_iff content).mpr
              ⟨level, bounds, by rw [split, List.append_nil], rfl⟩
            rw [reading] at found
            exact absurd found (by simp)
        | cons c others =>
            have isLineFeed : c = '\n' := (List.cons.inj inAfter).1.symm
            exact not_mem_placeholder (by decide) level
              (by simp [split, isLineFeed] : '\n' ∈ placeholder level)
      · have found := (findPlaceholder?_eq_some_iff content).mpr ⟨level, bounds, split, rfl⟩
        rw [reading] at found
        exact absurd found (by simp)

private theorem splitsAtLineFeeds_fill : SplitsAtLineFeeds (fill content) := by
  intro upper lower
  apply replaceMatches_append_cons (advances_findPlaceholder content)
  · have atFront := findPlaceholder?_append_lineFeed content [] lower
    simpa [(advances_findPlaceholder content).find_nil] using atFront
  · intro front _
    exact findPlaceholder?_append_lineFeed content front lower

theorem fill_placeholder_append {level : Nat} (bounds : 1 ≤ level ∧ level ≤ 6) (rest : Text) :
    fill content (placeholder level ++ rest) = content level ++ fill content rest := by
  apply replaceMatches_of_some (advances_findPlaceholder content)
  exact (findPlaceholder?_eq_some_iff content).mpr ⟨level, bounds, rfl, rfl⟩

/-- No placeholder stands in a text. -/
def HasNoPlaceholder (text : Text) : Prop :=
  ∀ level, 1 ≤ level → level ≤ 6 → ¬placeholder level <:+: text

theorem fill_eq_self {text : Text} (noPlaceholder : HasNoPlaceholder text) :
    fill content text = text := by
  apply replaceMatches_eq_self
  intro back suffix
  change findPlaceholder? content back = none
  rw [Option.eq_none_iff_forall_ne_some]
  rintro ⟨filling, after⟩ reading
  obtain ⟨level, bounds, rfl, _⟩ := (findPlaceholder?_eq_some_iff content).mp reading
  exact noPlaceholder level bounds.1 bounds.2
    ((List.prefix_append _ after).isInfix.trans suffix.isInfix)

end Filling

theorem hasNoPlaceholder_of_not_mem {text : Text} (noBracket : '<' ∉ text) :
    HasNoPlaceholder text := by
  intro level _ _ inside
  obtain ⟨rest, isTag⟩ := placeholder_eq_cons level
  exact noBracket (inside.subset (by simp [isTag]))

private theorem HasNoPlaceholder.of_mem_lines {text line : Text}
    (noPlaceholder : HasNoPlaceholder text) (member : line ∈ lines text) : HasNoPlaceholder line :=
  fun level low high inside =>
    noPlaceholder level low high (inside.trans (isInfix_of_mem_lines member))

/-! ## Markers filled with their tables -/

/-- What becomes of a line: a marker, with or without a carriage return behind it, gives way to the
content for the level it asks for, and any other line stays. -/
inductive FillsLine (content : Nat → Text) : Text → Text → Prop
  | marker {marker : Text} {level : Nat} (asks : AsksFor marker level) (hadReturn : Bool) :
      FillsLine content (marker ++ returnIf hadReturn) (content level ++ returnIf hadReturn)
  | other {line : Text}
      (noMarker : ∀ marker level hadReturn, AsksFor marker level →
        line ≠ marker ++ returnIf hadReturn) :
      FillsLine content line line

private theorem fillsLine_fill_expandLine (content : Nat → Text) {line : Text}
    (noPlaceholder : HasNoPlaceholder line) :
    FillsLine content line (fill content (expandLine line)) := by
  cases reading : read? (stripReturn line).1 with
  | some level =>
      have asks := read?_eq_some_iff.mp reading
      have shape := stripReturn_split line
      have endingStays : fill content (returnIf (stripReturn line).2) =
          returnIf (stripReturn line).2 := by
        apply fill_eq_self
        apply hasNoPlaceholder_of_not_mem
        rcases returnIf_eq (stripReturn line).2 with none | single
        · simp [none]
        · simp [single]
      have filled : fill content (expandLine line) =
          content level ++ returnIf (stripReturn line).2 := by
        simp only [expandLine, reading]
        rw [fill_placeholder_append content asks.level_bounds, endingStays]
      rw [filled]
      nth_rewrite 1 [shape]
      exact FillsLine.marker asks (stripReturn line).2
  | none =>
      have unchanged : expandLine line = line := by
        simp only [expandLine, reading]
      rw [unchanged, fill_eq_self content noPlaceholder]
      apply FillsLine.other
      rintro marker level hadReturn asks rfl
      have isMarker := read?_sound (read?_eq_some_iff.mpr asks)
      have noReturn : '\r' ∉ marker := isMarker.not_mem (by decide) (by decide)
      have stripped : stripReturn (marker ++ returnIf hadReturn) = (marker, hadReturn) :=
        stripReturn_append_returnIf (fun front ends => noReturn (by simp [ends])) hadReturn
      rw [stripped, read?_eq_some_iff.mpr asks] at reading
      exact absurd reading (by simp)

/-- Only the contents for the levels of headings are filled in. -/
private theorem FillsLine.congr {content other : Nat → Text} {line filled : Text}
    (same : ∀ level, 1 ≤ level → level ≤ 6 → content level = other level)
    (fills : FillsLine content line filled) : FillsLine other line filled := by
  cases fills with
  | marker asks hadReturn =>
      rw [same _ asks.level_bounds.1 asks.level_bounds.2]
      exact FillsLine.marker asks hadReturn
  | other noMarker => exact FillsLine.other noMarker

private theorem fill_expand (content : Nat → Text) (text : Text) :
    fill content (expand text) =
      unlines ((lines text).map fun line => fill content (expandLine line)) := by
  rw [(splitsAtLineFeeds_fill content).eq_onLines, onLines, expand_eq_onLines,
    staysInLine_expandLine.lines_onLines, List.map_map]
  rfl

end TocMarker

/-- Completing the HTML that a text without placeholders is expanded to puts the tables of contents
of the source in the places of the markers, line by line, and changes nothing else. -/
theorem completeHtml_fills_markers {options : RenderOptions} (noIds : options.headingIds = false)
    {text : Text} (noPlaceholder : TocMarker.HasNoPlaceholder text) (source : Text) :
    ∃ filled,
      List.Forall₂ (TocMarker.FillsLine (tableOfContents options source)) (lines text) filled ∧
        completeHtml options (TocMarker.expand text) source = unlines filled := by
  let navigation := Toc.navigation options.tocTitle (Heading.extract source)
  have isTable : ∀ level, 1 ≤ level → level ≤ 6 →
      navigation level = tableOfContents options source level := by
    intro level low high
    rw [tableOfContents, TocMarker.clampLevel_eq_self low high]
  refine ⟨(lines text).map fun line => TocMarker.fill navigation (TocMarker.expandLine line),
    ?_, ?_⟩
  · rw [List.forall₂_map_right_iff, List.forall₂_same]
    intro line member
    have fills := TocMarker.fillsLine_fill_expandLine navigation
      (noPlaceholder.of_mem_lines member)
    exact fills.congr isTable
  · have completed : completeHtml options (TocMarker.expand text) source =
        TocMarker.fill navigation (TocMarker.expand text) := by
      simp only [completeHtml, noIds]
      rfl
    rw [completed, TocMarker.fill_expand]

/-- Digits out of range and of other scripts, a carriage return and adjacent markers. A nine asks
for the level six, and a zero or an Arabic digit for the level one. -/
theorem completeHtml_fills_adjacent_markers :
    let options : RenderOptions := { headingIds := false }
    let text : Text := "a [TOC]\n[TOC]\r\n[TOC9]\n[TOC\u0663]\n[TOC0]".toList
    let source : Text := "# A\n###### B".toList
    let whole : Text :=
      ("<nav class=\"toc\">\n<ul class=\"toc-list\">\n<li><a href=\"#a\">A</a></li>\n" ++
        "<ul>\n<ul>\n<ul>\n<ul>\n<ul>\n<li><a href=\"#b\">B</a></li>\n" ++
        "</ul>\n</ul>\n</ul>\n</ul>\n</ul>\n</ul>\n</nav>").toList
    let deepest : Text :=
      ("<nav class=\"toc\">\n<ul class=\"toc-list\">\n<li><a href=\"#b\">B</a></li>\n" ++
        "</ul>\n</nav>").toList
    options.headingIds = false ∧ TocMarker.HasNoPlaceholder text ∧
      (∃ filled,
        List.Forall₂ (TocMarker.FillsLine (tableOfContents options source)) (lines text) filled ∧
          completeHtml options (TocMarker.expand text) source = unlines filled) ∧
      completeHtml options (TocMarker.expand text) source =
        unlines ["a [TOC]".toList, whole ++ ['\r'], deepest, whole, whole] ∧
      tableOfContents options source 1 = whole ∧ tableOfContents options source 6 = deepest := by
  intro options text source whole deepest
  have noPlaceholder : TocMarker.HasNoPlaceholder text :=
    TocMarker.hasNoPlaceholder_of_not_mem (by decide)
  exact ⟨rfl, noPlaceholder, completeHtml_fills_markers rfl noPlaceholder source, by decide +kernel,
    by decide +kernel, by decide +kernel⟩

end MarkdownDialect
