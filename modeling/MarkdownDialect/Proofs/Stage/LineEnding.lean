import MarkdownDialect.Proofs.Directive.AdmonitionEnding
import MarkdownDialect.Proofs.Stage.Settled

/-!
# Expanding a text with carriage returns

Directives within a line stop before its carriage return, and they leave alone what the lines of
admonitions are told by: the indentation of a body line, and a header up to the blank before its
title. So a text with carriage returns becomes what the text without them becomes, written with
carriage returns, unless it ends in the body of an admonition.
-/

namespace MarkdownDialect

open Text

/-! ## What the lines of admonitions begin with -/

/-- Blanks and letters. -/
def IsLettering (piece : Text) : Prop :=
  ∀ c ∈ piece, isBlank c = true ∨ isAsciiLetter c = true

/-- The indentation of a body line, or the beginning of a header. -/
def IsBlockFront (front : Text) : Prop :=
  front = Admonition.indentation ∨
    ∃ piece, front = '!' :: '!' :: '!' :: piece ∧ piece ≠ [] ∧ IsLettering piece

/-- Nothing but what stands behind the beginning of a header or of a body line is marked up. -/
def KeepsFronts (changeLine : Text → Text) : Prop :=
  ∀ front, IsBlockFront front → ∀ rest, ∃ new,
    changeLine (front ++ rest) = front ++ new ∧ MarksUp rest new

theorem IsLettering.not_mem {piece : Text} (isLettering : IsLettering piece) {c : Char}
    (noBlank : isBlank c = false) (noLetter : isAsciiLetter c = false) : c ∉ piece := by
  intro member
  have inClass := isLettering c member
  simp [noBlank, noLetter] at inClass

theorem isLettering_indentation : IsLettering Admonition.indentation := by
  have areBlank : ∀ c ∈ Admonition.indentation, isBlank c = true :=
    List.all_eq_true.mp (by decide)
  exact fun c member => Or.inl (areBlank c member)

theorem IsBlockFront.not_mem {front : Text} (isFront : IsBlockFront front) {c : Char}
    (noMark : c ≠ '!') (noBlank : isBlank c = false) (noLetter : isAsciiLetter c = false) :
    c ∉ front := by
  cases isFront with
  | inl isIndentation =>
      rw [isIndentation]
      exact isLettering_indentation.not_mem noBlank noLetter
  | inr isHeaderFront =>
      obtain ⟨piece, shape, _, isLettering⟩ := isHeaderFront
      simp [shape, noMark, isLettering.not_mem noBlank noLetter]

/-- No line that begins in this way begins with an arrow or hides anything. -/
theorem IsBlockFront.append_ne {front : Text} (isFront : IsBlockFront front) (rest : Text) :
    (∀ back, front ++ rest ≠ '-' :: back) ∧ ∀ back, front ++ rest ≠ '!' :: '>' :: back := by
  cases isFront with
  | inl isIndentation =>
      rw [isIndentation]
      constructor
      · intro back same
        exact absurd (List.cons.inj same).1 (by decide)
      · intro back same
        exact absurd (List.cons.inj same).1 (by decide)
  | inr isHeaderFront =>
      obtain ⟨piece, shape, _⟩ := isHeaderFront
      rw [shape]
      constructor
      · intro back same
        exact absurd (List.cons.inj same).1 (by decide)
      · intro back same
        exact absurd (List.cons.inj (List.cons.inj same).2).1 (by decide)

theorem keepsFronts_replaceMatches {find : Text → Option (Text × Text)}
    (inert : ∀ front, IsBlockFront front → Inert find front)
    (marks : ∀ line, MarksUp line (replaceMatches find line)) :
    KeepsFronts (replaceMatches find) := by
  intro front isFront rest
  have sameFront := replaceMatches_inert_append (inert front isFront) rest
  exact ⟨replaceMatches find rest, sameFront, marks rest⟩

theorem Spoiler.keepsFronts_expandLine : KeepsFronts expandLine := by
  intro front isFront rest
  have plain : ¬ Hides (front ++ rest) := by
    intro ⟨first, others, shape, _⟩
    exact (isFront.append_ne rest).2 _ shape
  exact ⟨rest, expandLine_eq_self plain, MarksUp.refl rest⟩

theorem Alignment.keepsFronts_expandLine (alignment : Alignment) :
    KeepsFronts alignment.expandLine := by
  intro front isFront rest
  have plain : ¬ alignment.Aligns (front ++ rest) := by
    intro ⟨between, hadReturn, _, _, shape⟩
    exact (isFront.append_ne rest).1 _ shape
  exact ⟨rest, expandLine_eq_self plain, MarksUp.refl rest⟩

theorem ColoredText.keepsFronts_expandLine (palette : Palette) :
    KeepsFronts (expandLine palette) := by
  apply keepsFronts_replaceMatches _ (marksUp_expandLine palette)
  intro front isFront
  exact inert_of_not_mem palette (isFront.not_mem (by decide) (by decide) (by decide))

theorem Highlight.keepsFronts_expandLine : KeepsFronts expandLine := by
  apply keepsFronts_replaceMatches _ marksUp_expandLine
  intro front isFront
  exact inert_of_not_mem (isFront.not_mem (by decide) (by decide) (by decide))

/-- No underline begins at the exclamation marks of a header. -/
private theorem Underline.inert_marks (palette : Palette) {c : Char} (noTilde : c ≠ '~')
    (noMark : c ≠ '!') : Inert (find? palette) ['!', '!', '!', c] := by
  intro back suffix nonempty rest
  simp only [List.suffix_cons_iff, List.suffix_nil] at suffix
  rcases suffix with rfl | rfl | rfl | rfl | rfl
  · exact find?_eq_none palette fun others shape => by simp at shape
  · exact find?_eq_none palette fun others shape => by simp at shape
  · exact find?_eq_none palette fun others shape => by simp [noTilde] at shape
  · exact find?_eq_none_of_ne palette rest noMark
  · exact absurd rfl nonempty

private theorem Underline.inert_of_isLettering (palette : Palette) {piece : Text}
    (isLettering : IsLettering piece) : Inert (find? palette) piece :=
  inert_of_not_mem palette (isLettering.not_mem (by decide) (by decide))

theorem Underline.keepsFronts_expandLine (palette : Palette) :
    KeepsFronts (expandLine palette) := by
  apply keepsFronts_replaceMatches _ (marksUp_expandLine palette)
  intro front isFront
  cases isFront with
  | inl isIndentation =>
      rw [isIndentation]
      exact inert_of_isLettering palette isLettering_indentation
  | inr isHeaderFront =>
      obtain ⟨piece, shape, nonempty, isLettering⟩ := isHeaderFront
      cases piece with
      | nil => exact absurd rfl nonempty
      | cons c others =>
          have noTilde : '~' ∉ c :: others := isLettering.not_mem (by decide) (by decide)
          have noMark : '!' ∉ c :: others := isLettering.not_mem (by decide) (by decide)
          rw [List.mem_cons, not_or] at noTilde noMark
          have isLetteringBehind : IsLettering others :=
            fun d member => isLettering d (List.mem_cons_of_mem c member)
          rw [shape]
          exact (inert_marks palette (Ne.symm noTilde.1) (Ne.symm noMark.1)).append
            (inert_of_isLettering palette isLetteringBehind)

/-! ## Headers and body lines within other directives -/

/-- A line stays a header if only its title is marked up. The blank before the title is part of the
front, since it is what ends the keyword. -/
private theorem Admonition.exists_front_of_header {line : Text} {admonition : Admonition}
    (reading : ofHeader? line = some admonition) :
    ∃ front rest, IsBlockFront front ∧ line = front ++ rest ∧
      ∀ new, MarksUp rest new → '\n' ∉ new → (ofHeader? (front ++ new)).isSome = true := by
  obtain ⟨keyword, titlePart, ⟨areLetters, isTitle, blanks, areBlank, shape⟩, isKind, _⟩ :=
    ofHeader?_sound reading
  have nonempty := keyword_ne_nil isKind
  have isLettering : IsLettering (blanks ++ keyword) := by
    intro c member
    exact (List.mem_append.mp member).imp (areBlank c) (areLetters c)
  cases titlePart with
  | nil =>
      have isFront : IsBlockFront ('!' :: '!' :: '!' :: (blanks ++ keyword)) :=
        Or.inr ⟨_, rfl, by simp [nonempty], isLettering⟩
      refine ⟨_, [], isFront, by simp [shape], ?_⟩
      intro new marksUp _
      have nothing : new = [] := marksUp.eq_nil_iff.mpr rfl
      have isHeader : IsHeaderOf keyword [] ('!' :: '!' :: '!' :: (blanks ++ keyword) ++ new) :=
        ⟨areLetters, isTitle, blanks, areBlank, by simp [nothing]⟩
      exact ofHeader?_complete isHeader isKind
  | cons c rest =>
      have isBlankBefore : isBlank c = true := (Bool.and_eq_true_iff.mp isTitle).1
      have isLetteringBefore : IsLettering (blanks ++ keyword ++ [c]) := by
        intro d member
        cases List.mem_append.mp member with
        | inl before => exact isLettering d before
        | inr atEnd =>
            rw [List.mem_singleton.mp atEnd]
            exact Or.inl isBlankBefore
      have isFront : IsBlockFront ('!' :: '!' :: '!' :: (blanks ++ keyword ++ [c])) :=
        Or.inr ⟨_, rfl, by simp, isLetteringBefore⟩
      refine ⟨_, rest, isFront, by simp [shape], ?_⟩
      intro new _ single
      have stillTitle : isTitlePart (c :: new) = true := by
        simp [isTitlePart, isBlankBefore, single]
      have isHeader : IsHeaderOf keyword (c :: new)
          ('!' :: '!' :: '!' :: (blanks ++ keyword ++ [c]) ++ new) :=
        ⟨areLetters, stillTitle, blanks, areBlank, by simp⟩
      exact ofHeader?_complete isHeader isKind

/-- A change of lines after which the same lines are headers and body lines. -/
structure KeepsBlocks (changeLine : Text → Text) : Prop extends KeepsEndings changeLine where
  marksUp : ∀ line, MarksUp line (changeLine line)
  keepsFronts : KeepsFronts changeLine

namespace KeepsBlocks

open Admonition

variable {changeLine : Text → Text} (keeps : KeepsBlocks changeLine)
include keeps

theorem isHeaderLine_iff {line : Text} (single : '\n' ∉ line) (noReturn : '\r' ∉ line) :
    IsHeaderLine (changeLine line) ↔ IsHeaderLine line := by
  constructor
  · intro isHeader
    by_contra noHeader
    have noHeaderHere : ofHeader? (stripReturn line).1 = none := by
      simpa [IsHeaderLine] using noHeader
    have stillNoHeader := lasting_not_header.marked single (keeps.marksUp line) noHeaderHere
    simp [IsHeaderLine, stillNoHeader] at isHeader
  · intro isHeader
    have noReturnAfter := keeps.keepsOutReturn line noReturn
    have singleAfter := keeps.staysInLine line single
    unfold IsHeaderLine at isHeader ⊢
    rw [stripReturn_of_return_not_mem noReturn, Option.isSome_iff_exists] at isHeader
    rw [stripReturn_of_return_not_mem noReturnAfter]
    dsimp only at isHeader ⊢
    obtain ⟨admonition, reading⟩ := isHeader
    obtain ⟨front, rest, isFront, shape, staysHeader⟩ := exists_front_of_header reading
    obtain ⟨new, changed, marksRest⟩ := keeps.keepsFronts front isFront rest
    rw [shape, changed] at singleAfter ⊢
    exact staysHeader new marksRest fun member => singleAfter (List.mem_append_right front member)

theorem isBodyLine_iff {line : Text} (single : '\n' ∉ line) (noReturn : '\r' ∉ line) :
    IsBodyLine (changeLine line) ↔ IsBodyLine line := by
  constructor
  · intro isBody
    by_contra noBody
    have stillNoBody := not_isBodyLine_of_marksUp (keeps.marksUp line) noBody
    rw [firstLine_of_not_mem (keeps.staysInLine line single)] at stillNoBody
    exact stillNoBody isBody
  · intro ⟨rest, shape, nonempty, _⟩
    obtain ⟨new, changed, marksRest⟩ := keeps.keepsFronts indentation (Or.inl rfl) rest
    have noReturnAfter := keeps.keepsOutReturn line noReturn
    rw [shape, changed] at noReturnAfter
    refine ⟨new, by rw [shape, changed], ?_, ?_⟩
    · intro empty
      exact nonempty (marksRest.eq_nil_iff.mp empty)
    · intro isReturn
      exact noReturnAfter (by simp [isReturn])

/-- Whether the text ends in the body of an admonition does not change. -/
private theorem endsInBody_map {lines : List Text} (single : ∀ line ∈ lines, '\n' ∉ line)
    (noReturn : ∀ line ∈ lines, '\r' ∉ line) :
    EndsInBody (lines.map changeLine) ↔ EndsInBody lines := by
  induction lines with
  | nil => rfl
  | cons line rest inductionHypothesis =>
      obtain ⟨singleLine, singleRest⟩ := List.forall_mem_cons.mp single
      obtain ⟨noReturnInLine, noReturnInRest⟩ := List.forall_mem_cons.mp noReturn
      have sameBody : (∀ other ∈ rest.map changeLine, IsBodyLine other) ↔
          ∀ other ∈ rest, IsBodyLine other := by
        rw [List.forall_mem_map]
        exact forall₂_congr fun other member =>
          keeps.isBodyLine_iff (singleRest other member) (noReturnInRest other member)
      rw [List.map_cons, EndsInBody, EndsInBody, sameBody, ne_eq, List.map_eq_nil_iff,
        keeps.isHeaderLine_iff singleLine noReturnInLine,
        inductionHypothesis singleRest noReturnInRest]

end KeepsBlocks

theorem Spoiler.keepsBlocks_expandLine : KeepsBlocks expandLine where
  toKeepsEndings := keepsEndings_expandLine
  marksUp := marksUp_expandLine
  keepsFronts := keepsFronts_expandLine

theorem Alignment.keepsBlocks_expandLine (alignment : Alignment) :
    KeepsBlocks alignment.expandLine where
  toKeepsEndings := alignment.keepsEndings_expandLine
  marksUp := alignment.marksUp_expandLine
  keepsFronts := alignment.keepsFronts_expandLine

theorem Highlight.keepsBlocks_expandLine : KeepsBlocks expandLine where
  toKeepsEndings := keepsEndings_expandLine
  marksUp := marksUp_expandLine
  keepsFronts := keepsFronts_expandLine

section

variable {palette : Palette} (singleLine : palette.IsSingleLine) (noReturns : palette.HasNoReturns)
include singleLine noReturns

theorem ColoredText.keepsBlocks_expandLine : KeepsBlocks (expandLine palette) where
  toKeepsEndings := keepsEndings_expandLine singleLine noReturns
  marksUp := marksUp_expandLine palette
  keepsFronts := keepsFronts_expandLine palette

theorem Underline.keepsBlocks_expandLine : KeepsBlocks (expandLine palette) where
  toKeepsEndings := keepsEndings_expandLine singleLine noReturns
  marksUp := marksUp_expandLine palette
  keepsFronts := keepsFronts_expandLine palette

end

/-! ## Stages before a carriage return -/

/-- Whether a text ends in the body of an admonition is not changed. -/
def KeepsBodyEnd (change : Text → Text) : Prop :=
  ∀ text, '\r' ∉ text →
    (Admonition.EndsInBody (lines (change text)) ↔ Admonition.EndsInBody (lines text))

private theorem KeepsBlocks.keepsBodyEnd {changeLine : Text → Text}
    (keeps : KeepsBlocks changeLine) :
    KeepsBodyEnd (onLines changeLine) := by
  intro text noReturn
  rw [keeps.staysInLine.lines_onLines]
  exact keeps.endsInBody_map (fun _ => lineFeed_not_mem_of_mem_lines)
    fun _ => return_not_mem_of_mem_lines noReturn

private theorem Admonition.expand_withReturns {text : Text} (noReturn : '\r' ∉ text) :
    expand (withReturns text) =
      withReturns (expand text) ++ returnIf (decide (EndsInBody (lines text))) := by
  have noReturnInLines : ∀ line ∈ lines text, '\r' ∉ line :=
    fun _ => return_not_mem_of_mem_lines noReturn
  have single : ∀ line ∈ expandLines (lines text), '\n' ∉ line :=
    not_mem_of_mem_expandLines (by decide) fun _ => lineFeed_not_mem_of_mem_lines
  have ended : lines (withReturns text) = endWithReturns false (lines text) := by
    simpa [returnIf] using lines_withReturns false text
  unfold expand
  rw [ended, expandLines_endWithReturns noReturnInLines,
    unlines_endWithReturns _ (expandLines_ne_nil (lines_ne_nil text)) single]

private theorem Admonition.return_not_mem_expand {text : Text} (noReturn : '\r' ∉ text) :
    '\r' ∉ expand text :=
  return_not_mem_unlines
    (not_mem_of_mem_expandLines (by decide) fun _ => return_not_mem_of_mem_lines noReturn)

namespace Stage

section

variable {palette : Palette} (singleLine : palette.IsSingleLine) (noReturns : palette.HasNoReturns)
include singleLine noReturns

theorem keepsLineEndings (stage : Stage) (other : stage ≠ admonition) :
    KeepsLineEndings (stage.apply palette) := by
  cases stage with
  | spoiler => exact apply_spoiler palette ▸ Spoiler.keepsEndings_expandLine.keepsLineEndings
  | coloredText =>
      rw [apply_coloredText]
      exact (ColoredText.keepsEndings_expandLine singleLine noReturns).keepsLineEndings
  | highlight => exact apply_highlight palette ▸ Highlight.keepsEndings_expandLine.keepsLineEndings
  | underline =>
      rw [apply_underline]
      exact (Underline.keepsEndings_expandLine singleLine noReturns).keepsLineEndings
  | alignment =>
      rw [funext (apply_alignment palette)]
      exact Alignment.right.keepsEndings_expandLine.keepsLineEndings.comp
        Alignment.center.keepsEndings_expandLine.keepsLineEndings
  | admonition => exact absurd rfl other
  | tocPlaceholder =>
      exact apply_tocPlaceholder palette ▸ TocMarker.keepsEndings_expandLine.keepsLineEndings
  | lineBreak => exact apply_lineBreak palette ▸ LineBreak.keepsEndings_expandLine.keepsLineEndings

private theorem applyAll_keepsLineEndings {stages : List Stage} (others : admonition ∉ stages) :
    KeepsLineEndings (applyAll palette stages) := by
  induction stages with
  | nil => exact ⟨fun _ noReturn => noReturn, fun _ _ _ => rfl⟩
  | cons stage rest inductionHypothesis =>
      rw [List.mem_cons, not_or] at others
      exact (inductionHypothesis others.2).comp
        (keepsLineEndings singleLine noReturns stage (Ne.symm others.1))

private theorem keepsBodyEnd {stage : Stage} (isInline : stage ∈ inline) :
    KeepsBodyEnd (stage.apply palette) := by
  cases stage with
  | spoiler => exact apply_spoiler palette ▸ Spoiler.keepsBlocks_expandLine.keepsBodyEnd
  | coloredText =>
      rw [apply_coloredText]
      exact (ColoredText.keepsBlocks_expandLine singleLine noReturns).keepsBodyEnd
  | highlight => exact apply_highlight palette ▸ Highlight.keepsBlocks_expandLine.keepsBodyEnd
  | underline =>
      rw [apply_underline]
      exact (Underline.keepsBlocks_expandLine singleLine noReturns).keepsBodyEnd
  | alignment =>
      intro text noReturn
      rw [apply_alignment]
      have centered := Alignment.center.keepsBlocks_expandLine.keepsBodyEnd text noReturn
      have noReturnAfter :=
        Alignment.center.keepsEndings_expandLine.keepsLineEndings.keepsOutReturn text noReturn
      exact (Alignment.right.keepsBlocks_expandLine.keepsBodyEnd _ noReturnAfter).trans centered
  | admonition | tocPlaceholder | lineBreak => simp [inline] at isInline

private theorem applyAll_keepsBodyEnd {stages : List Stage}
    (areInline : ∀ stage ∈ stages, stage ∈ inline) :
    KeepsBodyEnd (applyAll palette stages) := by
  induction stages with
  | nil => exact fun _ _ => Iff.rfl
  | cons stage rest inductionHypothesis =>
      obtain ⟨isInline, restInline⟩ := List.forall_mem_cons.mp areInline
      intro text noReturn
      have isOther : stage ≠ admonition := by
        intro same
        rw [same] at isInline
        simp [inline] at isInline
      have noReturnAfter :=
        (keepsLineEndings singleLine noReturns stage isOther).keepsOutReturn text noReturn
      rw [applyAll_cons, inductionHypothesis restInline _ noReturnAfter]
      exact keepsBodyEnd singleLine noReturns isInline text noReturn

end

end Stage

/-! ## The whole expansion -/

section

variable {palette : Palette} (singleLine : palette.IsSingleLine) (noReturns : palette.HasNoReturns)
  {text : Text} (noReturn : '\r' ∉ text)
include singleLine noReturns noReturn

/-- A text with carriage returns becomes the same with carriage returns, with one more at the end if
the text ends in the body of an admonition. -/
theorem expandDirectives_withReturns :
    expandDirectives palette (withReturns text) =
        withReturns (expandDirectives palette text) ++
          returnIf (decide (Admonition.EndsInBody (lines text))) ∧
      '\r' ∉ expandDirectives palette text := by
  have noAdmonition : Stage.admonition ∉ Stage.inline := by decide
  have inlineKeeps : KeepsLineEndings (expandInline palette) :=
    Stage.applyAll_keepsLineEndings singleLine noReturns noAdmonition
  have restKeeps : KeepsLineEndings (Stage.applyAll palette [.tocPlaceholder, .lineBreak]) :=
    Stage.applyAll_keepsLineEndings singleLine noReturns (by decide)
  have noReturnInline := inlineKeeps.keepsOutReturn text noReturn
  have noReturnExpanded := Admonition.return_not_mem_expand noReturnInline
  have atInline : expandInline palette (withReturns text) =
      withReturns (expandInline palette text) := by
    simpa [returnIf] using inlineKeeps.withReturns false text noReturn
  have sameEnd : decide (Admonition.EndsInBody (lines (expandInline palette text))) =
      decide (Admonition.EndsInBody (lines text)) :=
    decide_eq_decide.mpr
      (Stage.applyAll_keepsBodyEnd singleLine noReturns (fun _ member => member) text noReturn)
  rw [expandDirectives_eq, expandDirectives_eq, atInline,
    Admonition.expand_withReturns noReturnInline, sameEnd]
  exact ⟨restKeeps.withReturns _ _ noReturnExpanded, restKeeps.keepsOutReturn _ noReturnExpanded⟩

/-- The line endings of a text stay what they are, and no carriage return is stray, exactly if the
text does not end in the body of an admonition. -/
theorem line_endings_stay_iff :
    (expandDirectives palette (withReturns text) = withReturns (expandDirectives palette text) ↔
        ¬ Admonition.EndsInBody (lines text)) ∧
      (HasStrayReturn (expandDirectives palette (withReturns text)) ↔
        Admonition.EndsInBody (lines text)) := by
  obtain ⟨expanded, noReturnAfter⟩ := expandDirectives_withReturns singleLine noReturns noReturn
  rw [expanded]
  by_cases ends : Admonition.EndsInBody (lines text)
  · have stray := hasStrayReturn_append_return (withReturns (expandDirectives palette text))
    rw [decide_eq_true ends]
    exact ⟨by simp [ends, returnIf], iff_of_true stray ends⟩
  · have noStray := not_hasStrayReturn_withReturns noReturnAfter
    rw [decide_eq_false ends]
    simp [ends, noStray, returnIf]

end

/-- An unindented line below the body ends the admonition, and its line ending with it. -/
theorem line_endings_stay_below_admonition :
    ¬ Admonition.EndsInBody (lines "!!! note %red% a %%\n    ==b==\nc".toList) ∧
      expandDirectives Palette.standard
          (withReturns "!!! note %red% a %%\n    ==b==\nc".toList) =
        withReturns (expandDirectives Palette.standard
          "!!! note %red% a %%\n    ==b==\nc".toList) := by
  have notInBody : ¬ Admonition.EndsInBody (lines "!!! note %red% a %%\n    ==b==\nc".toList) := by
    decide
  have noReturn : '\r' ∉ "!!! note %red% a %%\n    ==b==\nc".toList := by
    decide
  have stays := line_endings_stay_iff Palette.standard_isSingleLine Palette.standard_hasNoReturns
    noReturn
  exact ⟨notInBody, stays.1.mpr notInBody⟩

/-- The line ending of the header is left over below the last body line, which has none. -/
theorem line_ending_strays_below_header :
    '\r' ∉ "!!! note\n    body".toList ∧
      expandDirectives Palette.standard (withReturns "!!! note\n    body".toList) ≠
        withReturns (expandDirectives Palette.standard "!!! note\n    body".toList) ∧
      HasStrayReturn (expandDirectives Palette.standard
        (withReturns "!!! note\n    body".toList)) := by
  have noReturn : '\r' ∉ "!!! note\n    body".toList := by
    decide
  have ends : Admonition.EndsInBody (lines "!!! note\n    body".toList) := by
    decide
  have expanded := (expandDirectives_withReturns Palette.standard_isSingleLine
    Palette.standard_hasNoReturns noReturn).1
  rw [decide_eq_true ends] at expanded
  rw [expanded]
  exact ⟨noReturn, by simp [returnIf], hasStrayReturn_append_return _⟩

end MarkdownDialect
