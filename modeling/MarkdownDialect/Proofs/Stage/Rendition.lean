import MarkdownDialect.Proofs.Stage.Writing

/-!
# Documents as they are rendered

Every well-formed document is rendered exactly: each directive gives way to its own HTML, and all
else stays in its place. A line passes through the five stages one after the other; the whole
document follows, since no stage looks beyond a line.
-/

namespace MarkdownDialect.Writing

open Text

/-! ## Wrapped content -/

/-- The content of a line in its wrapping, once the spoilers are expanded. -/
def wrapped (wrapping : Wrapping) (content : Text) : Text :=
  wrapping.opening ++ (content ++ wrapping.closing)

@[simp]
theorem wrapped_bare (content : Text) : wrapped .bare content = content :=
  List.append_nil content

@[simp]
theorem wrapped_aligned (alignment : Alignment) (content : Text) :
    wrapped (.aligned alignment) content =
      '-' :: '>' :: ' ' :: (content ++ ' ' :: alignment.closingArrow) :=
  rfl

@[simp]
theorem wrapped_spoiler (content : Text) : wrapped .spoiler content = Spoiler.html content :=
  (List.append_assoc _ _ _).symm

theorem not_mem_opening {c : Char} (foreign : isMarkupChar c = false) (wrapping : Wrapping) :
    c ∉ wrapping.opening := by
  apply not_mem_of_isMarkupChar foreign
  cases wrapping with
  | bare => rfl
  | spoiler => decide
  | aligned alignment => cases alignment <;> decide

theorem not_mem_closing {c : Char} (foreign : isMarkupChar c = false) (wrapping : Wrapping) :
    c ∉ wrapping.closing := by
  apply not_mem_of_isMarkupChar foreign
  cases wrapping with
  | bare => rfl
  | spoiler => decide
  | aligned alignment => cases alignment <;> decide

theorem replaceMatches_wrapped {find : Text → Option (Text × Text)} (advances : Advances find)
    {wrapping : Wrapping} (openingInert : Inert find wrapping.opening)
    (closingInert : Inert find wrapping.closing) {before after : Segment → Text}
    {segments : List Segment}
    (each : ∀ segment ∈ segments, Inert find (before segment) ∧ after segment = before segment ∨
      ∀ rest, find (before segment ++ rest) = some (after segment, rest)) :
    replaceMatches find (wrapped wrapping (segments.flatMap before)) =
      wrapped wrapping (segments.flatMap after) := by
  unfold wrapped
  rw [replaceMatches_inert_append openingInert, replaceMatches_flatMap advances each,
    replaceMatches_inert closingInert]

/-- Marking up the content does not give it a blank at either end. -/
private theorem Wrapping.Admits.of_marksUp {wrapping : Wrapping} {old new : Text}
    (admits : wrapping.Admits old) (marksUp : MarksUp old new) : wrapping.Admits new := by
  have visible : (old ≠ [] ∧ (∀ c, old.head? = some c → isBlank c = false) ∧
      ∀ c, old.getLast? = some c → isBlank c = false) →
      new ≠ [] ∧ (∀ c, new.head? = some c → isBlank c = false) ∧
        ∀ c, new.getLast? = some c → isBlank c = false := by
    intro ⟨nonempty, startsVisible, endsVisible⟩
    refine ⟨fun empty => nonempty (marksUp.eq_nil_iff.mp empty), ?_, ?_⟩
    · intro c isFirst
      by_cases tag : c = '<'
      · rw [tag]
        decide
      · exact startsVisible c (marksUp.head?_eq_some tag isFirst)
    · intro c isLast
      by_cases tag : c = '>'
      · rw [tag]
        decide
      · exact endsVisible c (marksUp.getLast?_eq_some tag isLast)
  cases wrapping with
  | bare => exact trivial
  | spoiler => exact visible admits
  | aligned alignment => exact visible admits

private theorem expandLine_spoiler {content : Text} (nonempty : content ≠ [])
    (noReturn : '\r' ∉ content) :
    Spoiler.expandLine ('!' :: '>' :: content) = Spoiler.html content := by
  have opening : "!>".toList.isPrefixOf? ('!' :: '>' :: content) = some content :=
    isPrefixOf?_append "!>".toList content
  have allHidden : ∀ c ∈ content, (c != '\r') = true := by
    intro c member
    simpa using fun equal : c = '\r' => noReturn (equal ▸ member)
  have hidden : content.takeWhile (· != '\r') = content :=
    List.takeWhile_eq_self_iff.mpr allHidden
  have nothing : content.dropWhile (· != '\r') = [] :=
    List.dropWhile_eq_nil_iff.mpr allHidden
  simp only [Spoiler.expandLine, opening, hidden, nothing, List.append_nil]
  rw [if_neg (by simpa using nonempty)]

/-- Only a spoiler is expanded by the first stage. -/
private theorem spoiler_step {wrapping : Wrapping} {content : Text}
    (admits : wrapping.Admits content) (noArrow : '>' ∉ content) (noReturn : '\r' ∉ content) :
    Spoiler.expandLine (wrapping.written content) = wrapped wrapping content := by
  cases wrapping with
  | bare =>
      have plain : ¬ Spoiler.Hides content := by
        intro ⟨first, rest, shape, _⟩
        exact noArrow (shape ▸ by simp)
      rw [wrapped_bare]
      exact Spoiler.expandLine_eq_self plain
  | spoiler =>
      rw [wrapped_spoiler]
      exact expandLine_spoiler admits.1 noReturn
  | aligned alignment =>
      have plain : ¬ Spoiler.Hides
          ('-' :: '>' :: ' ' :: (content ++ ' ' :: alignment.closingArrow)) := by
        intro ⟨first, rest, shape, _⟩
        exact absurd (List.cons.inj shape).1 (by decide)
      rw [wrapped_aligned]
      exact Spoiler.expandLine_eq_self plain

/-- Only an aligned line is expanded by the last stage. -/
private theorem alignment_step {wrapping : Wrapping} {content : Text}
    (admits : wrapping.Admits content)
    (noReturn : '\r' ∉ content) (notAligned : ∀ alignment : Alignment, ¬ alignment.Aligns content) :
    Alignment.expandLine .right (Alignment.expandLine .center (wrapped wrapping content)) =
      wrapping.rendered content := by
  have tagStays : ∀ (alignment : Alignment) (rest : Text),
      alignment.expandLine ('<' :: rest) = '<' :: rest :=
    fun alignment rest => Alignment.expandLine_eq_self (alignment.lasting_not_aligns.html rest)
  cases wrapping with
  | bare =>
      rw [wrapped_bare, Alignment.expandLine_eq_self (notAligned .center),
        Alignment.expandLine_eq_self (notAligned .right)]
      rfl
  | spoiler =>
      obtain ⟨rest, tag, _⟩ := (Spoiler.isHtml_html content).eq_cons
      rw [wrapped_spoiler, tag, tagStays, tagStays, ← tag]
      rfl
  | aligned alignment =>
      obtain ⟨nonempty, startsVisible, endsVisible⟩ := admits
      have expanded :=
        alignment.expandLine_of_visible_ends nonempty noReturn startsVisible endsVisible
      rw [wrapped_aligned]
      cases alignment with
      | center =>
          obtain ⟨rest, tag, _⟩ := (Alignment.isHtml_html .center content).eq_cons
          rw [expanded, tag, tagStays, ← tag]
          rfl
      | right =>
          rw [Alignment.expandLine_eq_self (Alignment.not_center_aligns_of_right content), expanded]
          rfl

/-! ## A line through the stages -/

section Stages

variable {palette : Palette} {segments : List Segment}
  (wellFormed : ∀ segment ∈ segments, segment.IsWellFormed)

include wellFormed

theorem not_mem_flatMap_written {c : Char} (lineEnd : c = '>' ∨ c = '\r' ∨ c = '\n') :
    c ∉ segments.flatMap Segment.written := by
  intro member
  obtain ⟨segment, segmentMember, inSegment⟩ := List.mem_flatMap.mp member
  exact Segment.not_mem_written (wellFormed segment segmentMember) lineEnd inSegment

private theorem expandLine_colors (palette : Palette) (wrapping : Wrapping) :
    ColoredText.expandLine palette (wrapped wrapping (segments.flatMap Segment.written)) =
      wrapped wrapping (segments.flatMap (Segment.afterColors palette)) := by
  apply replaceMatches_wrapped (ColoredText.advances palette)
  · exact ColoredText.inert_of_not_mem palette (not_mem_opening (by decide) wrapping)
  · exact ColoredText.inert_of_not_mem palette (not_mem_closing (by decide) wrapping)
  · exact fun segment member => Segment.colors_step palette (wellFormed segment member)

private theorem expandLine_highlights (plainValues : HasPlainValues palette) (wrapping : Wrapping) :
    Highlight.expandLine (wrapped wrapping (segments.flatMap (Segment.afterColors palette))) =
      wrapped wrapping (segments.flatMap (Segment.afterHighlights palette)) := by
  apply replaceMatches_wrapped Highlight.advances
  · cases wrapping with
    | bare => exact Highlight.inert_of_not_mem (by decide)
    | spoiler =>
        have split : Wrapping.spoiler.opening =
            "<span class".toList ++ (['=', '\x22'] ++ "spoiler\">".toList) := by decide
        rw [split]
        exact (Highlight.inert_of_not_mem (by decide)).append
          (Highlight.inert_attribute.append (Highlight.inert_of_not_mem (by decide)))
    | aligned alignment =>
        apply Highlight.inert_of_not_mem
        cases alignment <;> decide
  · apply Highlight.inert_of_not_mem
    cases wrapping with
    | bare => decide
    | spoiler => decide
    | aligned alignment => cases alignment <;> decide
  · exact fun segment member => Segment.highlights_step plainValues (wellFormed segment member)

private theorem expandLine_underlines (plainValues : HasPlainValues palette) (wrapping : Wrapping) :
    Underline.expandLine palette
        (wrapped wrapping (segments.flatMap (Segment.afterHighlights palette))) =
      wrapped wrapping (segments.flatMap (Segment.rendered palette)) := by
  apply replaceMatches_wrapped (Underline.advances palette)
  · exact Underline.inert_of_not_mem palette (not_mem_opening (by decide) wrapping)
  · exact Underline.inert_of_not_mem palette (not_mem_closing (by decide) wrapping)
  · exact fun segment member => Segment.underlines_step plainValues (wellFormed segment member)

/-- A line by itself goes through all stages of the inline expansion. -/
private theorem expandLine_line (plainValues : HasPlainValues palette) {wrapping : Wrapping}
    (admits : wrapping.Admits (segments.flatMap Segment.written)) :
    Alignment.expandLine .right (Alignment.expandLine .center (Underline.expandLine palette
        (Highlight.expandLine (ColoredText.expandLine palette (Spoiler.expandLine
          (wrapping.written (segments.flatMap Segment.written))))))) =
      wrapping.rendered (segments.flatMap (Segment.rendered palette)) := by
  have noArrow : '>' ∉ segments.flatMap Segment.written :=
    not_mem_flatMap_written wellFormed (by decide)
  have noReturn : '\r' ∉ segments.flatMap Segment.written :=
    not_mem_flatMap_written wellFormed (by decide)
  have noReturnRendered : '\r' ∉ segments.flatMap (Segment.rendered palette) := by
    intro member
    obtain ⟨segment, segmentMember, inSegment⟩ := List.mem_flatMap.mp member
    exact Segment.return_not_mem_rendered plainValues (wellFormed segment segmentMember) inSegment
  -- what the stages do to the content alone, to see that it does not become an aligned line
  have colorsMark : MarksUp (segments.flatMap Segment.written)
      (segments.flatMap (Segment.afterColors palette)) := by
    have step := expandLine_colors wellFormed palette .bare
    rw [wrapped_bare, wrapped_bare] at step
    exact step ▸ ColoredText.marksUp_expandLine palette _
  have highlightsMark : MarksUp (segments.flatMap (Segment.afterColors palette))
      (segments.flatMap (Segment.afterHighlights palette)) := by
    have step := expandLine_highlights wellFormed plainValues .bare
    rw [wrapped_bare, wrapped_bare] at step
    exact step ▸ Highlight.marksUp_expandLine _
  have underlinesMark : MarksUp (segments.flatMap (Segment.afterHighlights palette))
      (segments.flatMap (Segment.rendered palette)) := by
    have step := expandLine_underlines wellFormed plainValues .bare
    rw [wrapped_bare, wrapped_bare] at step
    exact step ▸ Underline.marksUp_expandLine palette _
  have notAligned : ∀ alignment : Alignment,
      ¬ alignment.Aligns (segments.flatMap (Segment.rendered palette)) := by
    intro alignment
    have atFirst : ¬ alignment.Aligns (segments.flatMap Segment.written) := by
      intro ⟨between, hadReturn, _, _, shape⟩
      exact noArrow (shape ▸ by simp)
    exact Alignment.not_aligns_of_marksUp underlinesMark
      (Alignment.not_aligns_of_marksUp highlightsMark
        (Alignment.not_aligns_of_marksUp colorsMark atFirst))
  have stillAdmits :=
    ((admits.of_marksUp colorsMark).of_marksUp highlightsMark).of_marksUp underlinesMark
  rw [spoiler_step admits noArrow noReturn, expandLine_colors wellFormed,
    expandLine_highlights wellFormed plainValues, expandLine_underlines wellFormed plainValues,
    alignment_step stillAdmits noReturnRendered notAligned]

end Stages

/-! ## Documents -/

/-- On a single line every stage works once. -/
private theorem expandInline_of_not_mem {palette : Palette} (singleLine : palette.IsSingleLine)
    {line : Text} (single : '\n' ∉ line) :
    expandInline palette line =
      Alignment.expandLine .right (Alignment.expandLine .center (Underline.expandLine palette
        (Highlight.expandLine (ColoredText.expandLine palette (Spoiler.expandLine line))))) := by
  have afterSpoiler := Spoiler.staysInLine_expandLine line single
  have afterColors := ColoredText.staysInLine_expandLine singleLine _ afterSpoiler
  have afterHighlights := Highlight.staysInLine_expandLine _ afterColors
  have afterUnderlines := Underline.staysInLine_expandLine singleLine _ afterHighlights
  have afterCenter := Alignment.staysInLine_expandLine .center _ afterUnderlines
  unfold expandInline Stage.inline
  simp only [Stage.applyAll_cons]
  rw [Stage.apply_spoiler, Stage.apply_coloredText, Stage.apply_highlight, Stage.apply_underline,
    Stage.apply_alignment]
  rw [onLines_of_not_mem _ single, onLines_of_not_mem _ afterSpoiler,
    onLines_of_not_mem _ afterColors, onLines_of_not_mem _ afterHighlights,
    onLines_of_not_mem _ afterUnderlines, onLines_of_not_mem _ afterCenter]
  rfl

theorem lineFeed_not_mem_written {line : Line} (wellFormed : line.IsWellFormed) :
    '\n' ∉ line.written := by
  have noLineFeed : '\n' ∉ line.segments.flatMap Segment.written :=
    not_mem_flatMap_written wellFormed.1 (by decide)
  unfold Line.written
  cases line.wrapping with
  | bare => exact noLineFeed
  | spoiler => simpa [Wrapping.written] using noLineFeed
  | aligned alignment =>
      have noLineFeedInArrow : '\n' ∉ alignment.closingArrow := by
        cases alignment <;> decide
      simp [Wrapping.written, noLineFeed, noLineFeedInArrow]

private theorem expandInline_line {palette : Palette} (plainValues : HasPlainValues palette)
    {line : Line} (wellFormed : line.IsWellFormed) :
    expandInline palette line.written = line.rendered palette := by
  have singleLine : palette.IsSingleLine :=
    fun entry member => plainValues entry member '\n' (by decide)
  rw [expandInline_of_not_mem singleLine (lineFeed_not_mem_written wellFormed)]
  exact expandLine_line wellFormed.1 plainValues wellFormed.2

/-- A well-formed document is rendered exactly: every directive gives way to its own HTML, and
everything else stays as it is, in its place. -/
theorem expandInline_renders_document {palette : Palette} (plainValues : HasPlainValues palette)
    {document : List Line} (wellFormed : ∀ line ∈ document, line.IsWellFormed) :
    expandInline palette (unlines (document.map Line.written)) =
      unlines (document.map (Line.rendered palette)) := by
  cases document with
  | nil =>
      have emptyLine : Line.IsWellFormed ⟨.bare, []⟩ :=
        ⟨fun segment member => absurd member List.not_mem_nil, trivial⟩
      have nothing := expandInline_line plainValues emptyLine
      have isWritten : Line.written ⟨.bare, []⟩ = [] := rfl
      have isRendered : Line.rendered palette ⟨.bare, []⟩ = [] := rfl
      have noLines : unlines [] = [] := rfl
      rw [isWritten, isRendered] at nothing
      rw [List.map_nil, List.map_nil, noLines, nothing]
  | cons first rest =>
      have splits : SplitsAtLineFeeds (expandInline palette) :=
        Stage.applyAll_splitsAtLineFeeds palette (by decide)
      have writtenLines : lines (unlines ((first :: rest).map Line.written)) =
          (first :: rest).map Line.written := by
        apply lines_unlines
        · intro text member
          obtain ⟨line, lineMember, rfl⟩ := List.mem_map.mp member
          exact lineFeed_not_mem_written (wellFormed line lineMember)
        · simp
      have lineByLine : ((first :: rest).map Line.written).map (expandInline palette) =
          (first :: rest).map (Line.rendered palette) := by
        rw [List.map_map, List.map_inj_left]
        intro line member
        rw [Function.comp_apply, expandInline_line plainValues (wellFormed line member)]
      rw [splits.eq_onLines]
      unfold onLines
      rw [writtenLines, lineByLine]

/-- `!>%red% hi %%==b==` above `-> !~Red;WAVY; default;+02;t~! <-`. -/
def sampleDocument : List Line :=
  [⟨.spoiler, [.colored (.named "red".toList) [' '] "hi".toList [' '], .highlighted "b".toList]⟩,
    ⟨.aligned .center, [.underlined "Red;WAVY; default;+02;t".toList
      ⟨some (.named "Red".toList), some .wavy, none, some 2, "t".toList⟩]⟩]

/-- The lines that the document gives way to. -/
def sampleHtml : List Text :=
  [("<span class=\"spoiler\"><span style=\"color: #f38ba8\">hi</span>" ++
      "<mark>b</mark></span>").toList,
    ("<div style=\"text-align: center;\">" ++
      "<span style=\"text-decoration: underline wavy #f38ba8; text-decoration-thickness: 2px;\">" ++
      "t</span></div>").toList]

theorem expandInline_renders_sampleDocument :
    HasPlainValues .standard ∧ (∀ line ∈ sampleDocument, line.IsWellFormed) ∧
      unlines (sampleDocument.map Line.written) =
        "!>%red% hi %%==b==\n-> !~Red;WAVY; default;+02;t~! <-".toList ∧
      expandInline .standard (unlines (sampleDocument.map Line.written)) =
        unlines sampleHtml := by
  have plainValues : HasPlainValues .standard := by decide
  have spelled : Underline.Spells "Red;WAVY; default;+02;t".toList
      ⟨some (.named "Red".toList), some .wavy, none, some 2, "t".toList⟩ := by
    refine ⟨["Red".toList, "WAVY".toList, " default".toList, "+02".toList], "t".toList,
      by decide, by decide, by decide, by decide, by decide, ?_, ?_, ?_, ?_⟩
    · exact .value (by decide) (Or.inr (by decide))
    · exact .value (by decide) (by unfold Underline.SpellsStyle; decide)
    · exact .default (by decide)
    · exact .value (by decide) ⟨"02".toList, by decide, by decide,
        List.all_eq_true.mp (by decide), by decide⟩
  have spoilerWellFormed : Line.IsWellFormed ⟨.spoiler,
      [.colored (.named "red".toList) [' '] "hi".toList [' '], .highlighted "b".toList]⟩ := by
    refine ⟨?_, by decide, ?_, ?_⟩
    · intro segment member
      rcases List.mem_pair.mp member with rfl | rfl
      · exact ⟨⟨by decide, List.all_eq_true.mp (by decide)⟩, by decide, by decide, by decide,
          List.all_eq_true.mp (by decide), List.all_eq_true.mp (by decide)⟩
      · exact ⟨by decide, by decide⟩
    · intro c isFirst
      rw [← Option.some.inj isFirst]
      decide
    · intro c isLast
      rw [← Option.some.inj isLast]
      decide
  have alignedWellFormed : Line.IsWellFormed ⟨.aligned .center,
      [.underlined "Red;WAVY; default;+02;t".toList
        ⟨some (.named "Red".toList), some .wavy, none, some 2, "t".toList⟩]⟩ := by
    refine ⟨?_, by decide, ?_, ?_⟩
    · intro segment member
      rw [List.mem_singleton.mp member]
      exact ⟨by decide, spelled⟩
    · intro c isFirst
      rw [← Option.some.inj isFirst]
      decide
    · intro c isLast
      rw [← Option.some.inj isLast]
      decide
  have wellFormed : ∀ line ∈ sampleDocument, line.IsWellFormed := by
    intro line member
    rcases List.mem_pair.mp member with rfl | rfl
    · exact spoilerWellFormed
    · exact alignedWellFormed
  have isRendered : sampleDocument.map (Line.rendered .standard) = sampleHtml := by
    decide +kernel
  refine ⟨plainValues, wellFormed, by decide, ?_⟩
  rw [← isRendered]
  exact expandInline_renders_document plainValues wellFormed

end MarkdownDialect.Writing
