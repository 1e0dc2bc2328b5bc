import MarkdownDialect.Heading
import MarkdownDialect.Proofs.Text.Trimming

/-!
# Extracted headings
-/

namespace MarkdownDialect.Heading

open Text

/-- What every heading of a source satisfies. -/
structure IsExtracted (heading : Heading) : Prop where
  level_pos : 1 ≤ heading.level
  level_le : heading.level ≤ 6
  text_ne_nil : heading.text ≠ []
  id_eq : heading.id = slug heading.text

theorem ofLine?_eq_none {line : Text} (noSign : line.head? ≠ some '#') : ofLine? line = none := by
  have noSigns : line.takeWhile (· = '#') = [] := by
    cases line with
    | nil => rfl
    | cons c rest =>
        have different : ¬ decide (c = '#') = true :=
          fun isSign => noSign (congrArg some (of_decide_eq_true isSign))
        exact List.takeWhile_cons_of_neg different
  rw [ofLine?, noSigns]
  cases line.dropWhile (· = '#') with
  | nil => rfl
  | cons c rest => rfl

/-- A heading that is read has the cleaned text of its line, and that is not empty. -/
theorem ofLine?_sound {line : Text} {heading : Heading} (reading : ofLine? line = some heading) :
    1 ≤ heading.level ∧ heading.level ≤ 6 ∧ heading.text ≠ [] ∧ heading.id = slug heading.text ∧
      ∃ raw, heading.text = cleanText heading.level raw := by
  unfold ofLine? at reading
  dsimp only at reading
  split at reading
  · simp at reading
  · next c rest behindSigns =>
      split at reading
      · next accepted =>
          simp only [Bool.and_eq_true, decide_eq_true_eq, Bool.not_eq_true',
            List.isEmpty_eq_false_iff] at accepted
          obtain ⟨⟨⟨positive, atMostSix⟩, _⟩, nonempty⟩ := accepted
          rw [Option.some.injEq] at reading
          subst reading
          exact ⟨positive, atMostSix, nonempty, rfl, rest, rfl⟩
      · simp at reading

private theorem isExtracted_of_ofLine? {line : Text} {heading : Heading}
    (reading : ofLine? line = some heading) : heading.IsExtracted := by
  obtain ⟨positive, atMostSix, nonempty, hasSlug, _⟩ := ofLine?_sound reading
  exact ⟨positive, atMostSix, nonempty, hasSlug⟩

/-- Every heading is read from one of the lines, whatever fences are open. -/
theorem exists_line_of_mem_scan {heading : Heading} {fence : Option Char} {sourceLines : List Text}
    (member : heading ∈ scan fence sourceLines) :
    ∃ line ∈ sourceLines, ofLine? line = some heading := by
  induction sourceLines generalizing fence with
  | nil => simp [scan] at member
  | cons line rest inductionHypothesis =>
      have fromRest : ∀ {fence}, heading ∈ scan fence rest →
          ∃ other ∈ line :: rest, ofLine? other = some heading := by
        intro fence inRest
        obtain ⟨other, isLine, reading⟩ := inductionHypothesis inRest
        exact ⟨other, List.mem_cons_of_mem line isLine, reading⟩
      rw [scan.eq_def] at member
      cases fence <;> cases mark : fenceMark? line <;> simp only [mark] at member
      case none.none =>
        rcases List.mem_append.mp member with here | inRest
        · exact ⟨line, List.mem_cons_self, by simpa using here⟩
        · exact fromRest inRest
      all_goals exact fromRest member

theorem isExtracted_of_mem_extract {source : Text} {heading : Heading}
    (member : heading ∈ extract source) : heading.IsExtracted := by
  obtain ⟨line, _, reading⟩ := exists_line_of_mem_scan member
  exact isExtracted_of_ofLine? reading

theorem trim_text_of_mem_extract {source : Text} {heading : Heading}
    (member : heading ∈ extract source) : trim heading.text = heading.text := by
  obtain ⟨line, _, reading⟩ := exists_line_of_mem_scan member
  obtain ⟨_, _, _, _, raw, isCleaned⟩ := ofLine?_sound reading
  rw [isCleaned, cleanText, trim_trim]

end MarkdownDialect.Heading
