import MarkdownDialect.Proofs.Stage.Composition
import MarkdownDialect.Proofs.Directive.LineBreak

/-!
# Text without directives

No directive can be written without a sign of its stage: two characters that it holds, or the
characters with which its line begins. A stage whose sign is absent leaves a text as it is, whatever
the palette, so a text without any of the signs comes out of the whole expansion unchanged, with
all its blanks and line endings.
-/

namespace MarkdownDialect

open Text

/-! ## Signs -/

/-- What a directive cannot be written without. -/
inductive Sign where
  /-- Characters that stand somewhere in the text. -/
  | within (mark : Text)
  /-- Characters with which a line begins. -/
  | opening (mark : Text)
  deriving DecidableEq, Repr

/-- Whether a sign stands in a text. -/
def Sign.OccursIn (text : Text) : Sign → Prop
  | within mark => mark <:+: text
  | opening mark => ∃ line ∈ lines text, mark <+: line

instance (text : Text) (sign : Sign) : Decidable (sign.OccursIn text) :=
  match sign with
  | .within _ => decidable_of_iff _ has_iff_isInfix
  | .opening mark => inferInstanceAs (Decidable (∃ line ∈ lines text, mark <+: line))

namespace Stage

/-- The sign of the directives that a stage expands. -/
def sign : Stage → Sign
  | spoiler => .opening "!>".toList
  | coloredText => .within "%%".toList
  | highlight => .within "==".toList
  | underline => .within "~!".toList
  | alignment => .opening "->".toList
  | admonition => .opening "!!!".toList
  | tocPlaceholder => .opening "[TOC".toList
  | lineBreak => .within "\\n".toList

end Stage

/-! ## Stages without their signs -/

section Line

variable {line : Text}

private theorem Spoiler.Hides.sign_isPrefix (hides : Hides line) : "!>".toList <+: line := by
  obtain ⟨first, rest, rfl, _⟩ := hides
  exact ⟨first :: rest, rfl⟩

private theorem ColoredText.OccursIn.sign_isInfix (occurs : OccursIn line) :
    "%%".toList <:+: line := by
  obtain ⟨before, slot, inner, after, _, _, _, rfl⟩ := occurs
  exact ⟨before ++ '%' :: (slot ++ '%' :: inner), after, by simp⟩

private theorem Highlight.OccursIn.sign_isInfix (occurs : OccursIn line) :
    "==".toList <:+: line := by
  obtain ⟨before, first, body, after, _, _, rfl⟩ := occurs
  exact ⟨before, first :: (body ++ '=' :: '=' :: after), by simp⟩

private theorem Alignment.Aligns.sign_isPrefix {alignment : Alignment}
    (aligns : alignment.Aligns line) :
    "->".toList <+: line := by
  obtain ⟨between, hadReturn, _, _, rfl⟩ := aligns
  exact ⟨between ++ (alignment.closingArrow ++ returnIf hadReturn), rfl⟩

/-- What a line without its carriage return begins with, the line begins with. -/
theorem isPrefix_of_stripReturn {mark : Text} (begins : mark <+: (stripReturn line).1) :
    mark <+: line := by
  rw [stripReturn_split line]
  exact begins.trans (List.prefix_append _ _)

private theorem Admonition.ofHeader?_eq_none_of_not_isPrefix (absent : ¬ "!!!".toList <+: line) :
    ofHeader? (stripReturn line).1 = none := by
  rw [Option.eq_none_iff_forall_ne_some]
  intro admonition reading
  obtain ⟨keyword, titlePart, ⟨_, _, blanks, _, shape⟩, _⟩ := ofHeader?_sound reading
  exact absent (isPrefix_of_stripReturn ⟨blanks ++ (keyword ++ titlePart), shape.symm⟩)

private theorem TocMarker.IsMarker.sign_isPrefix (isMarker : IsMarker line) :
    "[TOC".toList <+: line := by
  rcases isMarker with rfl | ⟨digit, _, rfl⟩
  · exact ⟨[']'], rfl⟩
  · exact List.prefix_append _ _

/-- No underline is read, so none is replaced by anything else. -/
private theorem Underline.expandLine_eq_self_of_not_isInfix (palette : Palette)
    (absent : ¬ "~!".toList <:+: line) : expandLine palette line = line := by
  apply replaceMatches_eq_self
  rintro back ⟨before, rfl⟩
  rw [Option.eq_none_iff_forall_ne_some]
  rintro ⟨replaced, after⟩ reading
  obtain ⟨body, _, _, rfl, _⟩ := find?_sound reading
  exact absent ⟨before ++ '!' :: '~' :: body, after, by simp⟩

end Line

namespace Stage

variable {text : Text}

private theorem onLines_eq_self_of_within {changeLine : Text → Text} {mark : Text}
    (unchanged : ∀ line, ¬ mark <:+: line → changeLine line = line)
    (absent : ¬ (Sign.within mark).OccursIn text) : onLines changeLine text = text :=
  onLines_eq_self fun line member => unchanged line fun occurs =>
    absent (occurs.trans (isInfix_of_mem_lines member))

private theorem onLines_eq_self_of_opening {changeLine : Text → Text} {mark : Text}
    (unchanged : ∀ line, ¬ mark <+: line → changeLine line = line)
    (absent : ¬ (Sign.opening mark).OccursIn text) : onLines changeLine text = text :=
  onLines_eq_self fun line member => unchanged line fun begins => absent ⟨line, member, begins⟩

/-- A stage without its sign has nothing to do. -/
private theorem apply_eq_self_of_not_occursIn (palette : Palette) (stage : Stage)
    (absent : ¬ stage.sign.OccursIn text) : stage.apply palette text = text := by
  cases stage with
  | spoiler =>
      rw [apply_spoiler]
      refine onLines_eq_self_of_opening (fun line noSign => ?_) absent
      exact Spoiler.expandLine_eq_self fun hides => noSign hides.sign_isPrefix
  | coloredText =>
      rw [apply_coloredText]
      refine onLines_eq_self_of_within (fun line noSign => ?_) absent
      exact (ColoredText.expandLine_eq_self_iff palette line).mpr fun occurs =>
        noSign occurs.sign_isInfix
  | highlight =>
      rw [apply_highlight]
      refine onLines_eq_self_of_within (fun line noSign => ?_) absent
      exact (Highlight.expandLine_eq_self_iff line).mpr fun occurs => noSign occurs.sign_isInfix
  | underline =>
      rw [apply_underline]
      refine onLines_eq_self_of_within (fun line noSign => ?_) absent
      exact Underline.expandLine_eq_self_of_not_isInfix palette noSign
  | alignment =>
      have same (alignment : Alignment) : onLines alignment.expandLine text = text := by
        refine onLines_eq_self_of_opening (fun line noSign => ?_) absent
        exact Alignment.expandLine_eq_self fun aligns => noSign aligns.sign_isPrefix
      rw [apply_alignment, same .center, same .right]
  | admonition =>
      refine Admonition.expand_eq_self fun line member => ?_
      exact Admonition.ofHeader?_eq_none_of_not_isPrefix fun begins => absent ⟨line, member, begins⟩
  | tocPlaceholder =>
      rw [apply_tocPlaceholder]
      refine onLines_eq_self_of_opening (fun line noSign => ?_) absent
      exact TocMarker.expandLine_eq_self fun isMarker =>
        noSign (isPrefix_of_stripReturn isMarker.sign_isPrefix)
  | lineBreak => exact replaceAll_eq_self lineBreakHtml absent

theorem applyAll_eq_self {palette : Palette} {stages : List Stage}
    (unchanged : ∀ stage ∈ stages, stage.apply palette text = text) :
    applyAll palette stages text = text := by
  induction stages with
  | nil => rfl
  | cons stage rest inductionHypothesis =>
      rw [applyAll_cons, unchanged stage List.mem_cons_self]
      exact inductionHypothesis fun other member => unchanged other (List.mem_cons_of_mem _ member)

end Stage

/-! ## The whole expansion -/

/-- A text in which no stage has its sign is left as it is, with any palette. -/
theorem text_without_signs_is_untouched (palette : Palette) {text : Text}
    (plain : ∀ stage : Stage, ¬ stage.sign.OccursIn text) :
    expandDirectives palette text = text :=
  Stage.applyAll_eq_self fun stage _ =>
    Stage.apply_eq_self_of_not_occursIn palette stage (plain stage)

/-- Ordinary Markdown with the characters of the signs standing alone, apart or within a line. -/
def sampleMarkdown : Text :=
  "Title\r\n=\r\n %red% a ~ !\n\t!> -> !!! [TOC]\n\\ n\n \r\n\n".toList

/-- Every blank and every line ending of ordinary Markdown stays. -/
theorem sampleMarkdown_is_untouched :
    (∀ stage : Stage, ¬ stage.sign.OccursIn sampleMarkdown) ∧
      expandDirectives .standard sampleMarkdown = sampleMarkdown := by
  have plain : ∀ stage : Stage, ¬ stage.sign.OccursIn sampleMarkdown := by
    intro stage
    cases stage <;> decide +kernel
  exact ⟨plain, text_without_signs_is_untouched .standard plain⟩

end MarkdownDialect
