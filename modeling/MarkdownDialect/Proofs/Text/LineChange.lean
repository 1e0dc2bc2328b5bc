import MarkdownDialect.Proofs.Text.Lines

/-!
# Changes that add tags, and changes within a line

A change adds tags if whatever it does to a text leaves more angle brackets than there were. Such
changes never undo one another: one after the other they leave a text as it is only if each of them
does.
-/

namespace MarkdownDialect.Text

/-! ## Adding tags -/

/-- Every text stays as it is or gains an angle bracket. -/
def AddsTags (change : Text → Text) : Prop :=
  ∀ text, change text = text ∨ text.count '<' < (change text).count '<'

theorem AddsTags.count_le {change : Text → Text} (adds : AddsTags change) (text : Text) :
    text.count '<' ≤ (change text).count '<' := by
  rcases adds text with same | more
  · rw [same]
  · exact Nat.le_of_lt more

theorem AddsTags.comp {first second : Text → Text}
    (secondAdds : AddsTags second) (firstAdds : AddsTags first) :
    AddsTags fun text => second (first text) := by
  intro text
  dsimp only
  rcases firstAdds text with same | more
  · rw [same]
    exact secondAdds text
  · have notFewer := secondAdds.count_le (first text)
    right
    omega

/-- The second change cannot undo what the first one did. -/
theorem AddsTags.comp_eq_self_iff {first second : Text → Text}
    (secondAdds : AddsTags second) (firstAdds : AddsTags first) (text : Text) :
    second (first text) = text ↔ first text = text ∧ second text = text := by
  constructor
  · intro unchanged
    rcases firstAdds text with same | more
    · rw [same] at unchanged
      exact ⟨same, unchanged⟩
    · have notFewer := secondAdds.count_le (first text)
      rw [unchanged] at notFewer
      omega
  · rintro ⟨firstSame, secondSame⟩
    rw [firstSame, secondSame]

theorem count_unlines {c : Char} (different : c ≠ '\n') (pieces : List Text) :
    (unlines pieces).count c = pieces.flatten.count c := by
  unfold unlines
  rw [count_joinWith, List.count_singleton]
  simp [Ne.symm different]

theorem AddsTags.onLines {changeLine : Text → Text} (adds : AddsTags changeLine) :
    AddsTags (onLines changeLine) := by
  have onList : ∀ pieces : List Text, pieces.map changeLine = pieces ∨
      pieces.flatten.count '<' < (pieces.map changeLine).flatten.count '<' := by
    intro pieces
    induction pieces with
    | nil => exact Or.inl rfl
    | cons line rest inductionHypothesis =>
        simp only [List.map_cons, List.flatten_cons, List.count_append]
        have notFewer := adds.count_le line
        rcases inductionHypothesis with restSame | restMore
        · rw [restSame]
          rcases adds line with lineSame | lineMore
          · exact Or.inl (by rw [lineSame])
          · right
            omega
        · right
          omega
  intro text
  unfold Text.onLines
  rcases onList (lines text) with same | more
  · left
    rw [same, unlines_lines]
  · right
    rw [count_unlines (by decide), ← unlines_lines text, count_unlines (by decide), unlines_lines]
    exact more

/-! ## Staying within a line -/

/-- A character that is not there before is not there after the change. -/
def KeepsOut (c : Char) (change : Text → Text) : Prop :=
  ∀ text, c ∉ text → c ∉ change text

/-- A line is changed to a single line. -/
def StaysInLine (changeLine : Text → Text) : Prop :=
  KeepsOut '\n' changeLine

section

variable {changeLine : Text → Text} (stays : StaysInLine changeLine)

include stays

theorem StaysInLine.lines_onLines (text : Text) :
    lines (onLines changeLine text) = (lines text).map changeLine :=
  Text.lines_onLines fun line member => stays line (lineFeed_not_mem_of_mem_lines member)

/-- A text stays as it is exactly if each of its lines does. -/
theorem StaysInLine.onLines_eq_self_iff (text : Text) :
    onLines changeLine text = text ↔ ∀ line ∈ lines text, changeLine line = line := by
  constructor
  · intro unchanged
    have sameLines : (lines text).map changeLine = (lines text).map id := by
      rw [← stays.lines_onLines, unchanged, List.map_id]
    exact List.map_inj_left.mp sameLines
  · exact onLines_eq_self

end

/-! ## The two sides of a line feed -/

/-- The two sides of any line feed are changed on their own. -/
def SplitsAtLineFeeds (change : Text → Text) : Prop :=
  ∀ upper lower, change (upper ++ '\n' :: lower) = change upper ++ '\n' :: change lower

theorem SplitsAtLineFeeds.comp {first second : Text → Text}
    (secondSplits : SplitsAtLineFeeds second) (firstSplits : SplitsAtLineFeeds first) :
    SplitsAtLineFeeds fun text => second (first text) := by
  intro upper lower
  dsimp only
  rw [firstSplits, secondSplits]

/-- Such a change works on every line on its own. -/
theorem SplitsAtLineFeeds.eq_onLines {change : Text → Text} (splits : SplitsAtLineFeeds change)
    (text : Text) : change text = onLines change text := by
  have onPieces : ∀ pieces : List Text, pieces ≠ [] →
      change (unlines pieces) = unlines (pieces.map change) := by
    intro pieces nonempty
    induction pieces with
    | nil => exact absurd rfl nonempty
    | cons line rest inductionHypothesis =>
        cases rest with
        | nil => simp
        | cons next others =>
            have mapped : (next :: others).map change ≠ [] := by simp
            rw [unlines_cons (by simp), splits, inductionHypothesis (by simp),
              ← unlines_cons mapped, ← List.map_cons]
  have whole := onPieces (lines text) (lines_ne_nil text)
  rw [unlines_lines] at whole
  exact whole

/-- It is told by what it does to single lines. -/
theorem SplitsAtLineFeeds.eq_onLines_of_lines {change changeLine : Text → Text}
    (splits : SplitsAtLineFeeds change)
    (sameOnLines : ∀ line, '\n' ∉ line → change line = changeLine line) :
    change = onLines changeLine := by
  funext text
  rw [splits.eq_onLines text]
  unfold onLines
  rw [List.map_congr_left fun line member =>
    sameOnLines line (lineFeed_not_mem_of_mem_lines member)]

end MarkdownDialect.Text
