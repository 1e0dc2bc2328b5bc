import MarkdownDialect.Proofs.Stage.Composition

/-!
# Stages that have nothing left to do

A spoiler, an aligned line, an admonition, a marker or a written line break is used up when it is
expanded, and none comes about later: marking up a line never turns it into one of these. So the
result of the whole expansion holds none.
-/

namespace MarkdownDialect

open Text

namespace Stage

/-! ## What stages settle for good -/

section Lasting

variable {Settled : Text → Prop} (lasting : Lasting Settled)

include lasting

theorem settled_onLines {changeLine : Text → Text} (stays : StaysInLine changeLine)
    (marks : ∀ line, MarksUp line (changeLine line)) {text : Text}
    (settled : ∀ line ∈ lines text, Settled line) :
    ∀ line ∈ lines (onLines changeLine text), Settled line := by
  intro line member
  rw [stays.lines_onLines, List.mem_map] at member
  obtain ⟨old, oldMember, rfl⟩ := member
  exact lasting.marked (lineFeed_not_mem_of_mem_lines oldMember) (marks old) (settled old oldMember)

/-- No stage takes a lasting property away from the lines of a text. -/
private theorem settled_apply {palette : Palette} (singleLine : palette.IsSingleLine)
    (stage : Stage) {text : Text} (settled : ∀ line ∈ lines text, Settled line) :
    ∀ line ∈ lines (stage.apply palette text), Settled line := by
  cases stage with
  | spoiler =>
      rw [apply_spoiler]
      exact settled_onLines lasting Spoiler.staysInLine_expandLine Spoiler.marksUp_expandLine
        settled
  | coloredText =>
      rw [apply_coloredText]
      exact settled_onLines lasting (ColoredText.staysInLine_expandLine singleLine)
        (ColoredText.marksUp_expandLine palette) settled
  | highlight =>
      rw [apply_highlight]
      exact settled_onLines lasting Highlight.staysInLine_expandLine Highlight.marksUp_expandLine
        settled
  | underline =>
      rw [apply_underline]
      exact settled_onLines lasting (Underline.staysInLine_expandLine singleLine)
        (Underline.marksUp_expandLine palette) settled
  | alignment =>
      rw [apply_alignment]
      have centered := settled_onLines lasting (Alignment.staysInLine_expandLine .center)
        (Alignment.marksUp_expandLine .center) settled
      exact settled_onLines lasting (Alignment.staysInLine_expandLine .right)
        (Alignment.marksUp_expandLine .right) centered
  | admonition =>
      intro line member
      rw [apply, Admonition.lines_expand] at member
      rcases Admonition.cases_of_mem_expandLines member with ⟨old, _⟩ | ⟨rest, rfl⟩
      · exact settled line old
      · exact lasting.html rest
  | tocPlaceholder =>
      rw [apply_tocPlaceholder]
      exact settled_onLines lasting TocMarker.staysInLine_expandLine TocMarker.marksUp_expandLine
        settled
  | lineBreak =>
      rw [apply_lineBreak]
      exact settled_onLines lasting LineBreak.staysInLine_expandLine LineBreak.marksUp_expandLine
        settled

private theorem settled_applyAll {palette : Palette} (singleLine : palette.IsSingleLine)
    (stages : List Stage) {text : Text} (settled : ∀ line ∈ lines text, Settled line) :
    ∀ line ∈ lines (applyAll palette stages text), Settled line := by
  induction stages generalizing text with
  | nil => exact settled
  | cons stage rest inductionHypothesis =>
      rw [applyAll_cons]
      exact inductionHypothesis (settled_apply lasting singleLine stage settled)

/-- What a stage settles stays settled to the end of the pipeline. -/
theorem settled_expandDirectives {palette : Palette} (singleLine : palette.IsSingleLine)
    (stage : Stage) (reaches : ∀ text, ∀ line ∈ lines (stage.apply palette text), Settled line)
    (text : Text) : ∀ line ∈ lines (expandDirectives palette text), Settled line := by
  have isStage : stage ∈ pipeline := by
    cases stage <;> decide
  obtain ⟨before, after, order⟩ := List.append_of_mem isStage
  unfold expandDirectives
  rw [order, applyAll_append, applyAll_cons]
  exact settled_applyAll lasting singleLine after (reaches _)

end Lasting

/-! ## What a stage settles -/

theorem settled_of_expandLine {Settled : Text → Prop} {changeLine : Text → Text}
    (stays : StaysInLine changeLine) (reaches : ∀ line, Settled (changeLine line)) (text : Text) :
    ∀ line ∈ lines (onLines changeLine text), Settled line := by
  intro line member
  rw [stays.lines_onLines, List.mem_map] at member
  obtain ⟨old, _, rfl⟩ := member
  exact reaches old

section Fixed

variable {palette : Palette} (singleLine : palette.IsSingleLine) (text : Text)

include singleLine

theorem spoiler_fixes :
    spoiler.apply palette (expandDirectives palette text) = expandDirectives palette text := by
  have reaches : ∀ before, ∀ line ∈ lines (spoiler.apply palette before), ¬ Spoiler.Hides line := by
    intro before
    rw [apply_spoiler]
    exact settled_of_expandLine Spoiler.staysInLine_expandLine Spoiler.not_hides_expandLine before
  have settled :=
    settled_expandDirectives Spoiler.lasting_not_hides singleLine spoiler reaches text
  rw [apply_spoiler]
  apply onLines_eq_self
  intro line member
  exact Spoiler.expandLine_eq_self (settled line member)

theorem alignment_fixes :
    alignment.apply palette (expandDirectives palette text) = expandDirectives palette text := by
  have reaches (kind : Alignment) : ∀ before, ∀ line ∈ lines (alignment.apply palette before),
      ¬ kind.Aligns line := by
    intro before
    rw [apply_alignment]
    cases kind with
    | right =>
        exact settled_of_expandLine (Alignment.staysInLine_expandLine .right)
          (Alignment.not_aligns_expandLine .right) _
    | center =>
        exact settled_onLines (Alignment.lasting_not_aligns .center)
          (Alignment.staysInLine_expandLine .right) (Alignment.marksUp_expandLine .right)
          (settled_of_expandLine (Alignment.staysInLine_expandLine .center)
            (Alignment.not_aligns_expandLine .center) before)
  have settled (kind : Alignment) := settled_expandDirectives (Alignment.lasting_not_aligns kind)
    singleLine alignment (reaches kind) text
  have centerSame : onLines (Alignment.expandLine .center) (expandDirectives palette text) =
      expandDirectives palette text :=
    onLines_eq_self fun line member => Alignment.expandLine_eq_self (settled .center line member)
  have rightSame : onLines (Alignment.expandLine .right) (expandDirectives palette text) =
      expandDirectives palette text :=
    onLines_eq_self fun line member => Alignment.expandLine_eq_self (settled .right line member)
  rw [apply_alignment, centerSame, rightSame]

theorem admonition_fixes :
    admonition.apply palette (expandDirectives palette text) = expandDirectives palette text := by
  apply Admonition.expand_eq_self
  apply settled_expandDirectives Admonition.lasting_not_header singleLine admonition
  exact fun before line member => Admonition.ofHeader?_eq_none_of_mem_lines_expand member

theorem tocPlaceholder_fixes :
    tocPlaceholder.apply palette (expandDirectives palette text) =
      expandDirectives palette text := by
  have reaches : ∀ before, ∀ line ∈ lines (tocPlaceholder.apply palette before),
      ¬ TocMarker.IsMarker (stripReturn line).1 := by
    intro before
    rw [apply_tocPlaceholder]
    exact settled_of_expandLine TocMarker.staysInLine_expandLine TocMarker.not_isMarker_expandLine
      before
  have settled := settled_expandDirectives TocMarker.lasting_not_isMarker singleLine tocPlaceholder
    reaches text
  rw [apply_tocPlaceholder]
  apply onLines_eq_self
  intro line member
  exact TocMarker.expandLine_eq_self (settled line member)

omit singleLine in
/-- The last stage sees its own result on the next pass. -/
theorem lineBreak_fixes :
    lineBreak.apply palette (expandDirectives palette text) = expandDirectives palette text := by
  have order : pipeline = (inline ++ block) ++ [lineBreak] := rfl
  have last : ∃ before, expandDirectives palette text = onLines LineBreak.expandLine before := by
    refine ⟨applyAll palette (inline ++ block) text, ?_⟩
    unfold expandDirectives
    rw [order, applyAll_append, applyAll_cons, apply_lineBreak]
    rfl
  obtain ⟨before, split⟩ := last
  rw [split, apply_lineBreak]
  apply onLines_eq_self
  intro line member
  rw [LineBreak.staysInLine_expandLine.lines_onLines, List.mem_map] at member
  obtain ⟨old, _, rfl⟩ := member
  exact LineBreak.expandLine_expandLine old

end Fixed

end Stage

/-- The expansion uses up the directives that are told by the place where they stand in a line, and
the written line breaks. -/
theorem expansion_uses_up_line_directives {palette : Palette} (singleLine : palette.IsSingleLine)
    (text : Text) :
    ∀ stage ∈ [Stage.spoiler, .alignment, .admonition, .tocPlaceholder, .lineBreak],
      stage.apply palette (expandDirectives palette text) = expandDirectives palette text := by
  intro stage member
  cases stage with
  | spoiler => exact Stage.spoiler_fixes singleLine text
  | alignment => exact Stage.alignment_fixes singleLine text
  | admonition => exact Stage.admonition_fixes singleLine text
  | tocPlaceholder => exact Stage.tocPlaceholder_fixes singleLine text
  | lineBreak => exact Stage.lineBreak_fixes text
  | coloredText | highlight | underline => exact absurd member (by decide)

/-- A spoiler and a header within a body line stay hidden in the HTML of their block. -/
theorem expansion_uses_up_hidden_admonition :
    Palette.standard.IsSingleLine ∧
      Stage.admonition.apply Palette.standard
          (expandDirectives Palette.standard "!!! note\r\n    !> %red%!!! tip%%\\n".toList) =
        expandDirectives Palette.standard "!!! note\r\n    !> %red%!!! tip%%\\n".toList := by
  refine ⟨Palette.standard_isSingleLine, ?_⟩
  exact expansion_uses_up_line_directives Palette.standard_isSingleLine _ .admonition (by decide)

end MarkdownDialect
