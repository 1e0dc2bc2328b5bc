import MarkdownDialect.Proofs.Directive.Admonition
import MarkdownDialect.Proofs.Directive.LineEnding

/-!
# Admonitions before a carriage return

The line that an admonition becomes has the ending of its header. If the body is the end of the
text, its last line has no ending, and the one of the header is left over.
-/

namespace MarkdownDialect.Admonition

open Text

/-! ## Lines before a carriage return -/

def IsHeaderLine (line : Text) : Prop :=
  (ofHeader? (stripReturn line).1).isSome = true

instance (line : Text) : Decidable (IsHeaderLine line) :=
  inferInstanceAs (Decidable (_ = true))

theorem bodyLine?_append_return {line : Text} (noReturn : '\r' ∉ line) :
    bodyLine? (line ++ ['\r']) = bodyLine? line := by
  unfold bodyLine?
  rw [isPrefixOf?_append_return (by decide)]
  cases indented : indentation.isPrefixOf? line with
  | none => rfl
  | some content =>
      have noReturnInContent : '\r' ∉ content := by
        intro member
        apply noReturn
        rw [isPrefixOf?_eq_some_iff.mp indented]
        exact List.mem_append_right _ member
      simp only [Option.map_some, Option.bind_eq_bind, Option.bind_some,
        stripReturn_append_return, stripReturn_of_return_not_mem noReturnInContent]

theorem not_isBodyLine_of_isHeaderLine {line : Text} (isHeader : IsHeaderLine line) :
    ¬ IsBodyLine line := by
  intro ⟨rest, indented, _⟩
  obtain ⟨admonition, reading⟩ := Option.isSome_iff_exists.mp isHeader
  obtain ⟨keyword, titlePart, ⟨_, _, blanks, _, shape⟩, _⟩ := ofHeader?_sound reading
  have split := stripReturn_split line
  rw [shape, indented] at split
  exact absurd (List.cons.inj split).1 (by decide)

theorem takeBody_of_bodyLine {line content : Text} (reading : bodyLine? line = some content)
    (rest : List Text) :
    takeBody (line :: rest) = (content :: (takeBody rest).1, (takeBody rest).2) := by
  rw [takeBody, reading]

theorem takeBody_of_not_bodyLine {line : Text} (reading : bodyLine? line = none)
    (rest : List Text) : takeBody (line :: rest) = ([], line :: rest) := by
  rw [takeBody, reading]

/-- The body of an admonition is read alike before carriage returns. -/
private theorem takeBody_endWithReturns {lines : List Text}
    (noReturn : ∀ line ∈ lines, '\r' ∉ line) :
    takeBody (endWithReturns false lines) =
      ((takeBody lines).1, endWithReturns false (takeBody lines).2) := by
  induction lines with
  | nil => rfl
  | cons line rest inductionHypothesis =>
      obtain ⟨noReturnInLine, noReturnInRest⟩ := List.forall_mem_cons.mp noReturn
      have sameReading := bodyLine?_append_return noReturnInLine
      by_cases isLast : rest = []
      · subst isLast
        rw [endWithReturns_false_singleton]
        cases reading : bodyLine? line with
        | none => rw [takeBody_of_not_bodyLine reading, endWithReturns_false_singleton]
        | some content =>
            rw [takeBody_of_bodyLine reading]
            rfl
      · rw [endWithReturns_cons false line isLast]
        cases reading : bodyLine? line with
        | none =>
            rw [reading] at sameReading
            rw [takeBody_of_not_bodyLine reading, takeBody_of_not_bodyLine sameReading,
              endWithReturns_cons false line isLast]
        | some content =>
            rw [reading] at sameReading
            rw [takeBody_of_bodyLine reading, takeBody_of_bodyLine sameReading,
              inductionHypothesis noReturnInRest]

/-! ## Texts that end in a body -/

/-- Whether the last lines are a header and the body lines below it. -/
def EndsInBody : List Text → Prop
  | [] => False
  | line :: rest =>
    IsHeaderLine line ∧ rest ≠ [] ∧ (∀ other ∈ rest, IsBodyLine other) ∨ EndsInBody rest

instance decidableEndsInBody : (lines : List Text) → Decidable (EndsInBody lines)
  | [] => inferInstanceAs (Decidable False)
  | line :: rest =>
    have := decidableEndsInBody rest
    inferInstanceAs (Decidable (IsHeaderLine line ∧ rest ≠ [] ∧
      (∀ other ∈ rest, IsBodyLine other) ∨ EndsInBody rest))

theorem isHeaderLine_iff {line : Text} :
    IsHeaderLine line ↔ ∃ admonition, ofHeader? (stripReturn line).1 = some admonition :=
  Option.isSome_iff_exists

private theorem endsInBody_cons_of_not_header {line : Text}
    (noHeader : ofHeader? (stripReturn line).1 = none) (rest : List Text) :
    EndsInBody (line :: rest) ↔ EndsInBody rest := by
  have noHeaderLine : ¬ IsHeaderLine line := by
    simp [IsHeaderLine, noHeader]
  simp [EndsInBody, noHeaderLine]

theorem takeBody_eq_nil_iff (lines : List Text) :
    (takeBody lines).2 = [] ↔ ∀ line ∈ lines, IsBodyLine line := by
  induction lines with
  | nil => simp [takeBody]
  | cons line rest inductionHypothesis =>
      rw [List.forall_mem_cons, ← bodyLine?_isSome_iff, ← inductionHypothesis]
      cases reading : bodyLine? line with
      | none => simp [takeBody_of_not_bodyLine reading]
      | some content => simp [takeBody_of_bodyLine reading]

/-- No header is among the body lines, so dropping these does not change the end of the text. -/
private theorem endsInBody_takeBody (lines : List Text) :
    EndsInBody (takeBody lines).2 ↔ EndsInBody lines := by
  induction lines with
  | nil => rfl
  | cons line rest inductionHypothesis =>
      cases reading : bodyLine? line with
      | none => rw [takeBody_of_not_bodyLine reading]
      | some content =>
          have isBody : IsBodyLine line := by
            rw [← bodyLine?_isSome_iff, reading]
            rfl
          have noHeader : ¬ IsHeaderLine line :=
            fun isHeader => not_isBodyLine_of_isHeaderLine isHeader isBody
          rw [takeBody_of_bodyLine reading, inductionHypothesis]
          simp [EndsInBody, noHeader]

private theorem endsInBody_of_header {line : Text} (isHeader : IsHeaderLine line) {rest : List Text}
    (more : rest ≠ []) :
    EndsInBody (line :: rest) ↔ (takeBody rest).2 = [] ∨ EndsInBody (takeBody rest).2 := by
  rw [takeBody_eq_nil_iff, endsInBody_takeBody]
  simp [EndsInBody, isHeader, more]

/-- Admonitions are expanded alike before carriage returns, but a body that is the end of the text
leaves the carriage return of its header at the end. -/
theorem expandLines_endWithReturns {lines : List Text}
    (noReturn : ∀ line ∈ lines, '\r' ∉ line) :
    expandLines (endWithReturns false lines) =
      endWithReturns (decide (EndsInBody lines)) (expandLines lines) := by
  induction lines using blocks_induction with
  | nil => simp [endWithReturns]
  | plain line rest noHeader inductionHypothesis =>
      obtain ⟨noReturnInLine, noReturnInRest⟩ := List.forall_mem_cons.mp noReturn
      have sameEnd := endsInBody_cons_of_not_header noHeader rest
      by_cases isLast : rest = []
      · subst isLast
        have notInBody : ¬ EndsInBody [line] := fun ends => sameEnd.mp ends
        rw [endWithReturns_false_singleton, expandLines_of_not_header noHeader, expandLines_nil,
          decide_eq_false notInBody, endWithReturns_false_singleton]
      · have stillNoHeader : ofHeader? (stripReturn (line ++ ['\r'])).1 = none := by
          rw [stripReturn_append_return]
          rwa [stripReturn_of_return_not_mem noReturnInLine] at noHeader
        rw [endWithReturns_cons false line isLast, expandLines_of_not_header stillNoHeader,
          inductionHypothesis noReturnInRest, expandLines_of_not_header noHeader,
          endWithReturns_cons _ line (expandLines_ne_nil isLast), decide_eq_decide.mpr sameEnd]
  | block line rest admonition isHeader inductionHypothesis =>
      obtain ⟨noReturnInLine, noReturnInRest⟩ := List.forall_mem_cons.mp noReturn
      by_cases isLast : rest = []
      · subst isLast
        have notInBody : ¬ EndsInBody [line] := by
          simp [EndsInBody]
        rw [endWithReturns_false_singleton, expandLines_of_header isHeader,
          decide_eq_false notInBody]
        simp [takeBody]
      · have stripped := stripReturn_of_return_not_mem noReturnInLine
        have stillHeader : ofHeader? (stripReturn (line ++ ['\r'])).1 = some admonition := by
          rw [stripReturn_append_return]
          rwa [stripped] at isHeader
        have noReturnBelow : ∀ other ∈ (takeBody rest).2, '\r' ∉ other :=
          fun other member => noReturnInRest other (mem_of_mem_takeBody_rest member)
        have endsBelow := endsInBody_of_header (isHeaderLine_iff.mpr ⟨admonition, isHeader⟩) isLast
        rw [endWithReturns_cons false line isLast, expandLines_of_header stillHeader,
          takeBody_endWithReturns noReturnInRest, inductionHypothesis noReturnBelow,
          expandLines_of_header isHeader, stripReturn_append_return, stripped]
        by_cases nothingBelow : (takeBody rest).2 = []
        · have ends : EndsInBody (line :: rest) := endsBelow.mpr (Or.inl nothingBelow)
          simp [nothingBelow, ends, endWithReturns, returnIf]
        · have sameEnd : decide (EndsInBody (line :: rest)) =
              decide (EndsInBody (takeBody rest).2) :=
            decide_eq_decide.mpr (endsBelow.trans (or_iff_right nothingBelow))
          rw [endWithReturns_cons _ _ (expandLines_ne_nil nothingBelow), sameEnd]
          simp [returnIf]

end MarkdownDialect.Admonition
