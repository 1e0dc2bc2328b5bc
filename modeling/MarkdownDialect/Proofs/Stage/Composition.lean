import MarkdownDialect.Proofs.Directive.Admonition
import MarkdownDialect.Proofs.Directive.InlinePattern
import MarkdownDialect.Proofs.Directive.LineBreak
import MarkdownDialect.Proofs.Directive.WholeLinePattern
import MarkdownDialect.Stage

/-!
# Expanding the two sides of a line feed

No match of a pattern reaches over a line feed, whatever the palette holds, and the ends of lines
are the same to the anchors as the ends of texts. Only an admonition takes lines below it, and it
ends before the first line that is no body line; expanding the directives within such a line does
not make it one.
-/

namespace MarkdownDialect

open Text

namespace Stage

theorem splitsAtLineFeeds (palette : Palette) (stage : Stage) (other : stage ≠ admonition) :
    SplitsAtLineFeeds (stage.apply palette) := by
  cases stage with
  | spoiler => exact Pattern.splitsAtLineFeeds_replaceAll (by decide) _
  | coloredText => exact Pattern.splitsAtLineFeeds_replaceAll (by decide) _
  | highlight => exact Pattern.splitsAtLineFeeds_replaceAll (by decide) _
  | underline => exact Pattern.splitsAtLineFeeds_replaceAll (by decide) _
  | alignment =>
      exact (Alignment.splitsAtLineFeeds_expandAs .right).comp
        (Alignment.splitsAtLineFeeds_expandAs .center)
  | admonition => exact absurd rfl other
  | tocPlaceholder => exact Pattern.splitsAtLineFeeds_replaceAll (by decide) _
  | lineBreak => exact replaceAll_append_cons lineBreakHtml (by simp) (by decide)

/-! ### What a stage does to the lines -/

section Lines

variable (palette : Palette)

theorem apply_spoiler : spoiler.apply palette = onLines Spoiler.expandLine :=
  Spoiler.expand_eq_onLines

theorem apply_coloredText : coloredText.apply palette = onLines (ColoredText.expandLine palette) :=
  ColoredText.expand_eq_onLines palette

theorem apply_highlight : highlight.apply palette = onLines Highlight.expandLine :=
  Highlight.expand_eq_onLines

theorem apply_underline : underline.apply palette = onLines (Underline.expandLine palette) :=
  Underline.expand_eq_onLines palette

theorem apply_alignment (text : Text) :
    alignment.apply palette text =
      onLines (Alignment.expandLine .right) (onLines (Alignment.expandLine .center) text) :=
  congrFun Alignment.expand_eq_onLines text

theorem apply_tocPlaceholder : tocPlaceholder.apply palette = onLines TocMarker.expandLine :=
  TocMarker.expand_eq_onLines

theorem apply_lineBreak : lineBreak.apply palette = onLines LineBreak.expandLine :=
  funext (splitsAtLineFeeds palette lineBreak (by decide)).eq_onLines

end Lines

/-! ### Stages one after the other -/

@[simp]
theorem applyAll_cons (palette : Palette) (stage : Stage) (stages : List Stage) (text : Text) :
    applyAll palette (stage :: stages) text = applyAll palette stages (stage.apply palette text) :=
  rfl

@[simp]
theorem applyAll_append (palette : Palette) (first second : List Stage) (text : Text) :
    applyAll palette (first ++ second) text =
      applyAll palette second (applyAll palette first text) :=
  List.foldl_append

theorem applyAll_splitsAtLineFeeds (palette : Palette) {stages : List Stage}
    (others : admonition ∉ stages) :
    SplitsAtLineFeeds (applyAll palette stages) := by
  induction stages with
  | nil => exact fun _ _ => rfl
  | cons stage rest inductionHypothesis =>
      replace others := List.ne_and_not_mem_of_not_mem_cons others
      exact (inductionHypothesis others.2).comp
        (splitsAtLineFeeds palette stage (Ne.symm others.1))

end Stage

/-! ## Body lines -/

/-- Marking up a line that is no body line does not make it one. -/
theorem not_isBodyLine_of_marksUp {old new : Text} (marksUp : MarksUp old new)
    (noBody : ¬ Admonition.IsBodyLine old) :
    ¬ Admonition.IsBodyLine (firstLine new) := by
  rintro ⟨rest, indented, nonempty, noReturn⟩
  have split : new = Admonition.indentation ++ (rest ++ new.dropWhile (· != '\n')) := by
    rw [← List.append_assoc, ← indented]
    exact List.takeWhile_append_dropWhile.symm
  rw [split] at marksUp
  obtain ⟨oldRest, rfl, marksRest⟩ := marksUp.of_append (by decide)
  apply noBody
  refine ⟨oldRest, rfl, ?_, ?_⟩
  · intro empty
    exact nonempty (List.append_eq_nil_iff.mp (marksRest.eq_nil_iff.mpr empty)).1
  · rintro rfl
    obtain ⟨others, split, marksOthers⟩ := marksRest.of_return_cons
    rw [marksOthers.eq_nil_iff.mpr rfl] at split
    rcases List.append_eq_singleton_iff.mp split with ⟨empty, _⟩ | ⟨single, _⟩
    · exact nonempty empty
    · exact noReturn single

private theorem not_isBodyLine_onLines {changeLine : Text → Text}
    (marks : ∀ line, MarksUp line (changeLine line)) {text : Text}
    (noBody : ¬ Admonition.IsBodyLine (firstLine text)) :
    ¬ Admonition.IsBodyLine (firstLine (onLines changeLine text)) := by
  rw [firstLine_onLines]
  exact not_isBodyLine_of_marksUp (marks _) noBody

private theorem Stage.not_isBodyLine_apply (palette : Palette) {stage : Stage}
    (isInline : stage ∈ inline) {text : Text} (noBody : ¬ Admonition.IsBodyLine (firstLine text)) :
    ¬ Admonition.IsBodyLine (firstLine (stage.apply palette text)) := by
  cases stage with
  | spoiler =>
      rw [apply_spoiler]
      exact not_isBodyLine_onLines Spoiler.marksUp_expandLine noBody
  | coloredText =>
      rw [apply_coloredText]
      exact not_isBodyLine_onLines (ColoredText.marksUp_expandLine palette) noBody
  | highlight =>
      rw [apply_highlight]
      exact not_isBodyLine_onLines Highlight.marksUp_expandLine noBody
  | underline =>
      rw [apply_underline]
      exact not_isBodyLine_onLines (Underline.marksUp_expandLine palette) noBody
  | alignment =>
      rw [apply_alignment]
      exact not_isBodyLine_onLines (Alignment.marksUp_expandLine .right)
        (not_isBodyLine_onLines (Alignment.marksUp_expandLine .center) noBody)
  | admonition | tocPlaceholder | lineBreak => simp [inline] at isInline

private theorem Stage.not_isBodyLine_applyAll (palette : Palette) {stages : List Stage}
    (areInline : ∀ stage ∈ stages, stage ∈ inline)
    {text : Text} (noBody : ¬ Admonition.IsBodyLine (firstLine text)) :
    ¬ Admonition.IsBodyLine (firstLine (applyAll palette stages text)) := by
  induction stages generalizing text with
  | nil => exact noBody
  | cons stage rest inductionHypothesis =>
      apply inductionHypothesis fun other member => areInline other (List.mem_cons_of_mem _ member)
      exact not_isBodyLine_apply palette (areInline stage List.mem_cons_self) noBody

/-! ## The whole expansion -/

theorem expandInline_append_lineFeed (palette : Palette) (upper lower : Text) :
    expandInline palette (upper ++ '\n' :: lower) =
      expandInline palette upper ++ '\n' :: expandInline palette lower :=
  Stage.applyAll_splitsAtLineFeeds palette (by decide) upper lower

/-- Lines are expanded first, then admonitions, and the markers and breaks last. -/
theorem expandDirectives_eq (palette : Palette) (text : Text) :
    expandDirectives palette text =
      Stage.applyAll palette [.tocPlaceholder, .lineBreak]
        (Admonition.expand (expandInline palette text)) := by
  have order : Stage.block ++ [Stage.lineBreak] = [.admonition, .tocPlaceholder, .lineBreak] :=
    rfl
  unfold expandDirectives expandInline
  rw [Stage.pipeline, List.append_assoc, Stage.applyAll_append, order, Stage.applyAll_cons]
  rw [Stage.apply]

private theorem expandDirectives_append_lineFeed (palette : Palette) {upper lower : Text}
    (noBody : ¬ Admonition.IsBodyLine (firstLine lower)) :
    expandDirectives palette (upper ++ '\n' :: lower) =
      expandDirectives palette upper ++ '\n' :: expandDirectives palette lower := by
  have stillNoBody : ¬ Admonition.IsBodyLine (firstLine (expandInline palette lower)) := by
    unfold expandInline
    exact Stage.not_isBodyLine_applyAll palette (fun _ member => member) noBody
  simp only [expandDirectives_eq, expandInline_append_lineFeed,
    Admonition.expand_append_lineFeed _ _ stillNoBody]
  exact Stage.applyAll_splitsAtLineFeeds palette (by decide) _ _

/-- Directives within lines are expanded on the two sides of a line feed on their own, and so are
all directives if the line below is no body line of an admonition. -/
theorem expansion_splits_at_lineFeeds (palette : Palette) (upper lower : Text) :
    expandInline palette (upper ++ '\n' :: lower) =
        expandInline palette upper ++ '\n' :: expandInline palette lower ∧
      (¬ Admonition.IsBodyLine (firstLine lower) →
        expandDirectives palette (upper ++ '\n' :: lower) =
          expandDirectives palette upper ++ '\n' :: expandDirectives palette lower) :=
  ⟨expandInline_append_lineFeed palette upper lower,
    expandDirectives_append_lineFeed palette⟩

/-- A line that is not indented ends the admonition above it. -/
theorem expansion_splits_below_admonition :
    ¬ Admonition.IsBodyLine (firstLine "==b==\n    c".toList) ∧
      expandDirectives Palette.standard ("!!! note\n    %red% a %%\n==b==\n    c".toList) =
        expandDirectives Palette.standard "!!! note\n    %red% a %%".toList ++
          '\n' :: expandDirectives Palette.standard "==b==\n    c".toList := by
  have noBody : ¬ Admonition.IsBodyLine (firstLine "==b==\n    c".toList) := by decide
  refine ⟨noBody, ?_⟩
  exact (expansion_splits_at_lineFeeds Palette.standard "!!! note\n    %red% a %%".toList
    "==b==\n    c".toList).2 noBody

end MarkdownDialect
