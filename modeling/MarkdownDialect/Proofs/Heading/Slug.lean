import MarkdownDialect.Heading.Slug
import MarkdownDialect.Proofs.Text.LetterCase

/-!
# The characters of slugs
-/

namespace MarkdownDialect

open Text

def isSlugChar (c : Char) : Bool :=
  isSlugWord c || c = '-'

private theorem isSlugChar_of_mem_collapseRuns {c : Char} {text : Text} {inRun : Bool}
    (member : c ∈ collapseRuns inRun text) : isSlugChar c = true := by
  induction text generalizing inRun with
  | nil => exact absurd member List.not_mem_nil
  | cons d rest inductionHypothesis =>
      rw [collapseRuns] at member
      by_cases word : isSlugWord d = true
      · rw [if_pos word] at member
        rcases List.mem_cons.mp member with rfl | inRest
        · simp [isSlugChar, word]
        · exact inductionHypothesis inRest
      · rw [if_neg word] at member
        by_cases running : inRun = true
        · rw [if_pos running] at member
          exact inductionHypothesis member
        · rw [if_neg running] at member
          rcases List.mem_cons.mp member with rfl | inRest
          · decide
          · exact inductionHypothesis inRest

theorem isSlugChar_of_mem_slug {c : Char} {text : Text} (member : c ∈ slug text) :
    isSlugChar c = true :=
  isSlugChar_of_mem_collapseRuns member

/-- The characters that slugs consist of: capital letters are none of them. -/
def isIdChar (c : Char) : Bool :=
  c.isLower || c.isDigit || c = '_' || c = '-'

private theorem mem_of_mem_collapseRuns {c : Char} {text : Text} {inRun : Bool}
    (member : c ∈ collapseRuns inRun text) : c ∈ text ∨ c = '-' := by
  induction text generalizing inRun with
  | nil => exact absurd member List.not_mem_nil
  | cons d rest inductionHypothesis =>
      have behind (inRest : c ∈ rest ∨ c = '-') : c ∈ d :: rest ∨ c = '-' :=
        inRest.imp_left (List.mem_cons_of_mem d)
      rw [collapseRuns] at member
      split at member
      · rcases List.mem_cons.mp member with rfl | inRest
        · exact Or.inl List.mem_cons_self
        · exact behind (inductionHypothesis inRest)
      · split at member
        · exact behind (inductionHypothesis member)
        · rcases List.mem_cons.mp member with isHyphen | inRest
          · exact Or.inr isHyphen
          · exact behind (inductionHypothesis inRest)

theorem isIdChar_of_mem_slug {c : Char} {text : Text} (member : c ∈ slug text) :
    isIdChar c = true := by
  have slugChar := isSlugChar_of_mem_slug member
  rcases mem_of_mem_collapseRuns member with inLower | rfl
  · have notCapital := isUpper_of_mem_toLower inLower
    have isLetter : c.isAlpha = c.isLower := by
      change (c.isUpper || c.isLower) = c.isLower
      rw [notCapital, Bool.false_or]
    have sameClass : isSlugChar c = isIdChar c := by
      change (c.isAlpha || c.isDigit || c = '_' || c = '-') = isIdChar c
      rw [isLetter]
      rfl
    rwa [← sameClass]
  · decide

theorem not_mem_slug {c : Char} (foreign : isSlugChar c = false) (text : Text) : c ∉ slug text := by
  intro member
  rw [isSlugChar_of_mem_slug member] at foreign
  exact absurd foreign (by decide)

/-- A text has a slug, if only a hyphen. -/
theorem slug_ne_nil {text : Text} (nonempty : text ≠ []) : slug text ≠ [] := by
  have lowerNonempty := toLower_ne_nil nonempty
  unfold slug
  cases lowered : toLower text with
  | nil => exact absurd lowered lowerNonempty
  | cons c rest =>
      rw [collapseRuns]
      by_cases word : isSlugWord c = true
      · simp [word]
      · simp [word]

end MarkdownDialect
