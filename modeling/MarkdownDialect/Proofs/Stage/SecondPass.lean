import MarkdownDialect.Proofs.Stage.Settled

/-!
# A second pass over the result

Every stage adds tags or leaves the text alone, so the stages of a second pass cannot undo one
another: the pass changes nothing exactly if no stage of it does. Five stages never do. The other
three are left something to do where the HTML of one directive encloses or meets the rest of
another, as in `%red% %blue% x %% %%`.
-/

namespace MarkdownDialect

open Text

namespace Stage

theorem addsTags {palette : Palette} (plainNames : palette.HasPlainNames) (stage : Stage) :
    AddsTags (stage.apply palette) := by
  cases stage with
  | spoiler => exact apply_spoiler palette ▸ Spoiler.addsTags_expandLine.onLines
  | coloredText =>
      exact apply_coloredText palette ▸ (ColoredText.addsTags_expandLine palette).onLines
  | highlight => exact apply_highlight palette ▸ Highlight.addsTags_expandLine.onLines
  | underline => exact apply_underline palette ▸ (Underline.addsTags_expandLine plainNames).onLines
  | alignment =>
      rw [funext (apply_alignment palette)]
      exact (Alignment.addsTags_expandLine .right).onLines.comp
        (Alignment.addsTags_expandLine .center).onLines
  | admonition => exact Admonition.addsTags_expand
  | tocPlaceholder => exact apply_tocPlaceholder palette ▸ TocMarker.addsTags_expandLine.onLines
  | lineBreak => exact apply_lineBreak palette ▸ LineBreak.addsTags_expandLine.onLines

private theorem applyAll_addsTags {palette : Palette} (plainNames : palette.HasPlainNames)
    (stages : List Stage) : AddsTags (applyAll palette stages) := by
  induction stages with
  | nil => exact fun _ => Or.inl rfl
  | cons stage rest inductionHypothesis =>
      exact inductionHypothesis.comp (addsTags plainNames stage)

/-- Stages in a row leave a text as it is exactly if each of them does. -/
theorem applyAll_eq_self_iff {palette : Palette} (plainNames : palette.HasPlainNames)
    (stages : List Stage) (text : Text) :
    applyAll palette stages text = text ↔ ∀ stage ∈ stages, stage.apply palette text = text := by
  induction stages with
  | nil => simp [applyAll]
  | cons stage rest inductionHypothesis =>
      have step : applyAll palette (stage :: rest) text = text ↔
          stage.apply palette text = text ∧ applyAll palette rest text = text :=
        (applyAll_addsTags plainNames rest).comp_eq_self_iff (addsTags plainNames stage) text
      rw [step, inductionHypothesis, List.forall_mem_cons]

end Stage

/-- Whether a line has a coloured text, a highlight or a well-formed underline written in it. -/
def HoldsInlineDirective (line : Text) : Prop :=
  ColoredText.OccursIn line ∨ Highlight.OccursIn line ∨ Underline.OccursIn line

/-- A second pass changes nothing exactly if the first one left no directive within a line. -/
theorem expandDirectives_expandDirectives_eq_iff {palette : Palette}
    (plainNames : palette.HasPlainNames) (singleLine : palette.IsSingleLine) (text : Text) :
    expandDirectives palette (expandDirectives palette text) = expandDirectives palette text ↔
      ∀ line ∈ lines (expandDirectives palette text), ¬ HoldsInlineDirective line := by
  have colored : Stage.coloredText.apply palette (expandDirectives palette text) =
      expandDirectives palette text ↔
        ∀ line ∈ lines (expandDirectives palette text), ¬ ColoredText.OccursIn line := by
    rw [Stage.apply_coloredText]
    simp only [← ColoredText.expandLine_eq_self_iff palette]
    exact (ColoredText.staysInLine_expandLine singleLine).onLines_eq_self_iff _
  have highlighted : Stage.highlight.apply palette (expandDirectives palette text) =
      expandDirectives palette text ↔
        ∀ line ∈ lines (expandDirectives palette text), ¬ Highlight.OccursIn line := by
    rw [Stage.apply_highlight]
    simp only [← Highlight.expandLine_eq_self_iff]
    exact Highlight.staysInLine_expandLine.onLines_eq_self_iff _
  have underlined : Stage.underline.apply palette (expandDirectives palette text) =
      expandDirectives palette text ↔
        ∀ line ∈ lines (expandDirectives palette text), ¬ Underline.OccursIn line := by
    rw [Stage.apply_underline]
    simp only [← Underline.expandLine_eq_self_iff plainNames]
    exact (Underline.staysInLine_expandLine singleLine).onLines_eq_self_iff _
  have pass : expandDirectives palette (expandDirectives palette text) =
      expandDirectives palette text ↔ ∀ stage ∈ Stage.pipeline,
        stage.apply palette (expandDirectives palette text) = expandDirectives palette text :=
    Stage.applyAll_eq_self_iff plainNames Stage.pipeline _
  rw [pass]
  constructor
  · intro fixed line member
    have noColor := colored.mp (fixed .coloredText (by decide)) line member
    have noHighlight := highlighted.mp (fixed .highlight (by decide)) line member
    have noUnderline := underlined.mp (fixed .underline (by decide)) line member
    intro holds
    rcases holds with isColor | isHighlight | isUnderline
    · exact noColor isColor
    · exact noHighlight isHighlight
    · exact noUnderline isUnderline
  · intro plain stage _
    cases stage with
    | spoiler => exact Stage.spoiler_fixes singleLine text
    | coloredText => exact colored.mpr fun line member holds => plain line member (.inl holds)
    | highlight =>
        exact highlighted.mpr fun line member holds => plain line member (.inr (.inl holds))
    | underline =>
        exact underlined.mpr fun line member holds => plain line member (.inr (.inr holds))
    | alignment => exact Stage.alignment_fixes singleLine text
    | admonition => exact Stage.admonition_fixes singleLine text
    | tocPlaceholder => exact Stage.tocPlaceholder_fixes singleLine text
    | lineBreak => exact Stage.lineBreak_fixes text

/-- With the standard palette, a second pass changes nothing exactly if the first one left no
coloured text, no highlight and no well-formed underline in any line. -/
theorem second_pass_changes_nothing_iff (text : Text) :
    expandDirectives .standard (expandDirectives .standard text) = expandDirectives .standard text ↔
      ∀ line ∈ lines (expandDirectives .standard text), ¬ HoldsInlineDirective line :=
  expandDirectives_expandDirectives_eq_iff Palette.standard_hasPlainNames
    Palette.standard_isSingleLine text

/-- A coloured text inside another one is expanded by the second pass only. -/
theorem second_pass_changes_nested_colors :
    ¬ ∀ text : Text, expandDirectives .standard (expandDirectives .standard text) =
      expandDirectives .standard text := by
  intro unchanged
  exact absurd (unchanged "%red% %blue% x %% %%".toList) (by decide +kernel)

end MarkdownDialect
