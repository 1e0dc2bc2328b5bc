import MarkdownDialect.Proofs.Text.Replacement

/-!
# HTML as a row of tags and characters

A text is read from left to right: what stands between two angle brackets is a tag, and every other
character is read on its own. A piece that leaves no tag open is read in the same way whatever
comes after it, so HTML that is put together from such pieces is read piece by piece.
-/

namespace MarkdownDialect

open Text

inductive HtmlToken where
  /-- A tag, by what stands between its angle brackets. -/
  | tag (body : Text)
  /-- A character outside all tags. -/
  | char (c : Char)
  deriving DecidableEq, Repr

namespace HtmlToken

/-- The token at the front of a text. An angle bracket that is never closed is a character. -/
def read? : Text → Option (HtmlToken × Text)
  | [] => none
  | c :: rest =>
    match if c = '<' then breakOn ['>'] rest else none with
    | some (body, after) => some (tag body, after)
    | none => some (char c, rest)

end HtmlToken

open HtmlToken

def htmlTokens (html : Text) : List HtmlToken :=
  findMatches read? html

namespace HtmlToken

theorem advances : Advances read? := by
  intro text token after reading
  cases text with
  | nil => simp [read?] at reading
  | cons c rest =>
      rw [read?] at reading
      split at reading
      · next body following found =>
          rw [Option.some.injEq, Prod.mk.injEq] at reading
          obtain ⟨_, rfl⟩ := reading
          by_cases opens : c = '<'
          · rw [if_pos opens] at found
            refine ⟨c :: (body ++ ['>']), by simp, ?_⟩
            rw [breakOn_sound found]
            simp
          · rw [if_neg opens] at found
            simp at found
      · rw [Option.some.injEq, Prod.mk.injEq] at reading
        exact ⟨[c], by simp, by rw [← reading.2, List.singleton_append]⟩

end HtmlToken

@[simp]
theorem htmlTokens_nil : htmlTokens [] = [] := rfl

theorem htmlTokens_tag {body : Text} (noEnd : '>' ∉ body) (rest : Text) :
    htmlTokens ('<' :: (body ++ '>' :: rest)) = tag body :: htmlTokens rest := by
  have found : breakOn ['>'] (body ++ '>' :: rest) = some (body, rest) :=
    breakOn_singleton_eq_some_iff.mpr ⟨rfl, noEnd⟩
  have reading : read? ('<' :: (body ++ '>' :: rest)) = some (tag body, rest) := by
    simp [read?, found]
  exact findMatches_of_some HtmlToken.advances reading

theorem htmlTokens_char {c : Char} (different : c ≠ '<') (rest : Text) :
    htmlTokens (c :: rest) = char c :: htmlTokens rest := by
  have reading : read? (c :: rest) = some (char c, rest) := by
    simp [read?, different]
  exact findMatches_of_some HtmlToken.advances reading

theorem htmlTokens_append_of_not_mem {text : Text} (noTag : '<' ∉ text) (rest : Text) :
    htmlTokens (text ++ rest) = text.map char ++ htmlTokens rest := by
  induction text with
  | nil => rfl
  | cons c others inductionHypothesis =>
      replace noTag := List.ne_and_not_mem_of_not_mem_cons noTag
      rw [List.cons_append, htmlTokens_char (Ne.symm noTag.1), inductionHypothesis noTag.2]
      rfl

/-! ## Pieces that leave no tag open -/

def LeavesNoTagOpen (piece : Text) : Prop :=
  ∀ rest, htmlTokens (piece ++ rest) = htmlTokens piece ++ htmlTokens rest

theorem leavesNoTagOpen_of_not_mem {text : Text} (noTag : '<' ∉ text) : LeavesNoTagOpen text := by
  intro rest
  have alone := htmlTokens_append_of_not_mem noTag []
  rw [List.append_nil, htmlTokens_nil, List.append_nil] at alone
  rw [htmlTokens_append_of_not_mem noTag, alone]

theorem leavesNoTagOpen_tag {body : Text} (noEnd : '>' ∉ body) :
    LeavesNoTagOpen ('<' :: (body ++ ['>'])) := by
  intro rest
  have shape : '<' :: (body ++ ['>']) ++ rest = '<' :: (body ++ '>' :: rest) := by
    simp
  rw [shape, htmlTokens_tag noEnd, htmlTokens_tag noEnd]
  rfl

namespace LeavesNoTagOpen

theorem append {first second : Text} (firstWhole : LeavesNoTagOpen first)
    (secondWhole : LeavesNoTagOpen second) : LeavesNoTagOpen (first ++ second) := by
  intro rest
  rw [List.append_assoc, firstWhole, firstWhole, secondWhole, List.append_assoc]

theorem replicate {piece : Text} (whole : LeavesNoTagOpen piece) (count : Nat) :
    LeavesNoTagOpen (List.replicate count piece).flatten := by
  induction count with
  | zero =>
      intro rest
      rfl
  | succ count inductionHypothesis =>
      rw [List.replicate_succ, List.flatten_cons]
      exact whole.append inductionHypothesis

end LeavesNoTagOpen

end MarkdownDialect
