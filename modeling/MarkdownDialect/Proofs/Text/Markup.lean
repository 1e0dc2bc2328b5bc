import MarkdownDialect.Proofs.Text.Lines
import MarkdownDialect.Proofs.Text.Replacement

/-!
# Marking up a text

What all directives have in common: pieces of a line give way to HTML, and every other character
stays where it is. A replaced piece holds no carriage return, and HTML begins and ends with an
angle bracket that is no part of an arrow. This is enough to tell, from what stands at the two ends
of the new line, what stood at the two ends of the old one.
-/

namespace MarkdownDialect.Text

/-- HTML as directives emit it: it begins with `<` and ends with `>`, and no arrow ends there. -/
def IsHtml (html : Text) : Prop :=
  ∃ inner last, html = '<' :: (inner ++ [last, '>']) ∧ last ≠ '-'

/-- The characters with which tags, attributes and style values are written. -/
def isMarkupChar (c : Char) : Bool :=
  c.isAlphanum || c ∈ ['<', '>', '/', '=', '\x22', ' ', ':', ';', '-']

theorem not_mem_of_isMarkupChar {c : Char} (foreign : isMarkupChar c = false) {markup : Text}
    (isMarkup : markup.all isMarkupChar = true) : c ∉ markup := by
  intro member
  rw [List.all_eq_true.mp isMarkup c member] at foreign
  exact absurd foreign (by decide)

section Markup

variable {c : Char} (foreign : isMarkupChar c = false) {markup : Text}
  (isMarkup : markup.all isMarkupChar = true) (text : Text)
include foreign isMarkup

/-- A character that is no part of markup is looked for beside it. -/
theorem mem_markup_append : c ∈ markup ++ text ↔ c ∈ text := by
  rw [List.mem_append, or_iff_right (not_mem_of_isMarkupChar foreign isMarkup)]

theorem mem_append_markup : c ∈ text ++ markup ↔ c ∈ text := by
  rw [List.mem_append, or_iff_left (not_mem_of_isMarkupChar foreign isMarkup)]

end Markup

theorem isDigit_eq_false_of_isMarkupChar {c : Char} (foreign : isMarkupChar c = false) :
    c.isDigit = false := by
  simp only [isMarkupChar, Char.isAlphanum, Bool.or_eq_false_iff] at foreign
  exact foreign.1.2

/-- `MarksUp old new` means that `new` is `old` with some pieces replaced by HTML. -/
inductive MarksUp : Text → Text → Prop
  | nil : MarksUp [] []
  | keep {old new : Text} (c : Char) :
      MarksUp old new → MarksUp (c :: old) (c :: new)
  | mark {old new piece html : Text} :
      piece ≠ [] → '\r' ∉ piece → IsHtml html →
      MarksUp old new → MarksUp (piece ++ old) (html ++ new)

theorem IsHtml.eq_cons {html : Text} (isHtml : IsHtml html) :
    ∃ rest, html = '<' :: rest ∧ rest ≠ [] := by
  obtain ⟨inner, last, rfl, _⟩ := isHtml
  exact ⟨inner ++ [last, '>'], rfl, by simp⟩

/-- HTML ends with `>`. -/
theorem not_isHtml_concat {c : Char} (different : c ≠ '>') (front : Text) :
    ¬ IsHtml (front ++ [c]) := by
  rintro ⟨inner, last, shape, _⟩
  have ends : front ++ [c] = ('<' :: (inner ++ [last])) ++ ['>'] := by
    simpa using shape
  exact different (List.cons.inj (List.append_inj' ends rfl).2).1

private theorem not_isHtml_append_arrow (front : Text) : ¬ IsHtml (front ++ ['-', '>']) := by
  rintro ⟨inner, last, shape, noArrow⟩
  have ends : front ++ ['-', '>'] = ('<' :: inner) ++ [last, '>'] := by
    simpa using shape
  exact noArrow (List.cons.inj (List.append_inj' ends rfl).2).1.symm

namespace MarksUp

/-! ## Building -/

theorem prepend (piece : Text) {old new : Text} (marksUp : MarksUp old new) :
    MarksUp (piece ++ old) (piece ++ new) := by
  induction piece with
  | nil => exact marksUp
  | cons c rest inductionHypothesis => exact keep c inductionHypothesis

theorem refl (text : Text) : MarksUp text text := by
  simpa using prepend text nil

/-- A piece at the front is replaced, and the rest stays. -/
theorem of_front {piece html : Text} (nonempty : piece ≠ []) (noReturn : '\r' ∉ piece)
    (isHtml : IsHtml html) (rest : Text) :
    MarksUp (piece ++ rest) (html ++ rest) :=
  mark nonempty noReturn isHtml (refl rest)

/-- Replacing leftmost matches marks up a text, if each match gives way to HTML or to itself. -/
theorem replaceMatches {find : Text → Option (Text × Text)} (advances : Advances find)
    (marks : ∀ text replacement after, find text = some (replacement, after) →
      ∃ piece, text = piece ++ after ∧
        (replacement = piece ∨ piece ≠ [] ∧ '\r' ∉ piece ∧ IsHtml replacement))
    (text : Text) :
    MarksUp text (Text.replaceMatches find text) := by
  induction text using match_induction advances with
  | nil => exact nil
  | pass c rest missing inductionHypothesis =>
      rw [replaceMatches_of_none missing]
      exact keep c inductionHypothesis
  | found text replacement after reading inductionHypothesis =>
      rw [replaceMatches_of_some advances reading]
      obtain ⟨piece, rfl, same | ⟨nonempty, noReturn, isHtml⟩⟩ :=
        marks text replacement after reading
      · rw [same]
        exact prepend piece inductionHypothesis
      · exact mark nonempty noReturn isHtml inductionHypothesis

/-! ## From the new text to the old one -/

variable {old new : Text}

theorem eq_nil_iff (marksUp : MarksUp old new) : new = [] ↔ old = [] := by
  cases marksUp with
  | nil => simp
  | keep c rest => simp
  | mark nonempty noReturn isHtml rest =>
      obtain ⟨more, rfl, _⟩ := isHtml.eq_cons
      simp [nonempty]

theorem of_cons {c : Char} (different : c ≠ '<') (marksUp : MarksUp old (c :: new)) :
    ∃ rest, old = c :: rest ∧ MarksUp rest new := by
  generalize whole : c :: new = target at marksUp
  cases marksUp with
  | nil => simp at whole
  | keep d rest =>
      obtain ⟨rfl, rfl⟩ := List.cons.inj whole
      exact ⟨_, rfl, rest⟩
  | mark nonempty noReturn isHtml rest =>
      obtain ⟨more, rfl, _⟩ := isHtml.eq_cons
      exact absurd (List.cons.inj whole).1 different

theorem of_append {front : Text} (noTag : '<' ∉ front) (marksUp : MarksUp old (front ++ new)) :
    ∃ rest, old = front ++ rest ∧ MarksUp rest new := by
  induction front generalizing old with
  | nil => exact ⟨old, rfl, marksUp⟩
  | cons c others inductionHypothesis =>
      replace noTag := List.ne_and_not_mem_of_not_mem_cons noTag
      obtain ⟨rest, rfl, marksRest⟩ := of_cons (Ne.symm noTag.1) marksUp
      obtain ⟨back, rfl, marksBack⟩ := inductionHypothesis noTag.2 marksRest
      exact ⟨back, rfl, marksBack⟩

/-- Without an angle bracket nothing is marked up. -/
theorem eq_of_not_mem (marksUp : MarksUp old new) (noTag : '<' ∉ new) : old = new := by
  obtain ⟨rest, split, marksRest⟩ := @of_append old [] new noTag (by simpa using marksUp)
  have nothing : rest = [] := marksRest.eq_nil_iff.mp rfl
  simpa [nothing] using split

/-- A carriage return is never replaced. -/
theorem of_return_cons (marksUp : MarksUp ('\r' :: old) new) :
    ∃ rest, new = '\r' :: rest ∧ MarksUp old rest := by
  generalize whole : '\r' :: old = target at marksUp
  cases marksUp with
  | nil => simp at whole
  | keep c rest =>
      obtain ⟨rfl, rfl⟩ := List.cons.inj whole
      exact ⟨_, rfl, rest⟩
  | @mark older newer piece html nonempty noReturn isHtml rest =>
      cases piece with
      | nil => exact absurd rfl nonempty
      | cons first others =>
          obtain ⟨rfl, _⟩ := List.cons.inj whole
          exact absurd List.mem_cons_self noReturn

theorem return_not_mem (marksUp : MarksUp old new) (noReturn : '\r' ∉ new) : '\r' ∉ old := by
  induction marksUp with
  | nil => exact noReturn
  | keep c rest inductionHypothesis =>
      simp only [List.mem_cons, not_or] at noReturn ⊢
      exact ⟨noReturn.1, inductionHypothesis noReturn.2⟩
  | mark nonempty free isHtml rest inductionHypothesis =>
      simp only [List.mem_append, not_or] at noReturn ⊢
      exact ⟨free, inductionHypothesis noReturn.2⟩

/-- Whatever a line begins with, unless it is a tag, was there before. -/
theorem head?_eq_some {c : Char} (different : c ≠ '<') (marksUp : MarksUp old new)
    (isFirst : new.head? = some c) : old.head? = some c := by
  cases new with
  | nil => simp at isFirst
  | cons d rest =>
      have same : d = c := by simpa using isFirst
      subst same
      obtain ⟨others, rfl, _⟩ := of_cons different marksUp
      rfl

/-- HTML ends with `>`, so any other character at the end was there before. -/
theorem of_concat {c : Char} (different : c ≠ '>') (marksUp : MarksUp old (new ++ [c])) :
    ∃ rest, old = rest ++ [c] ∧ MarksUp rest new := by
  generalize whole : new ++ [c] = target at marksUp
  induction marksUp generalizing new with
  | nil => simp at whole
  | @keep older newer d rest inductionHypothesis =>
      cases new with
      | nil =>
          obtain ⟨rfl, empty⟩ := List.cons.inj whole
          have nothing : older = [] := rest.eq_nil_iff.mp empty.symm
          exact ⟨[], by simp [nothing], nil⟩
      | cons first others =>
          obtain ⟨rfl, tail⟩ := List.cons.inj whole
          obtain ⟨back, rfl, marksBack⟩ := inductionHypothesis tail
          exact ⟨first :: back, rfl, keep first marksBack⟩
  | @mark older newer piece html nonempty free isHtml rest inductionHypothesis =>
      rcases List.eq_nil_or_concat newer with rfl | ⟨others, last, rfl⟩
      · rw [List.append_nil] at whole
        exact absurd (whole ▸ isHtml) (not_isHtml_concat different new)
      · rw [List.concat_eq_append, ← List.append_assoc] at whole
        obtain ⟨split, same⟩ := List.append_inj' whole rfl
        obtain ⟨back, rfl, marksBack⟩ :=
          inductionHypothesis (by rw [List.concat_eq_append, same])
        exact ⟨piece ++ back, by simp, split ▸ mark nonempty free isHtml marksBack⟩

theorem getLast?_eq_some {c : Char} (different : c ≠ '>') (marksUp : MarksUp old new)
    (isLast : new.getLast? = some c) : old.getLast? = some c := by
  obtain ⟨before, rfl⟩ := List.getLast?_eq_some_iff.mp isLast
  obtain ⟨others, rfl, _⟩ := of_concat different marksUp
  exact List.getLast?_concat

/-- A carriage return at the end is not replaced. -/
private theorem of_concat_return (marksUp : MarksUp (old ++ ['\r']) new) :
    ∃ rest, new = rest ++ ['\r'] ∧ MarksUp old rest := by
  generalize whole : old ++ ['\r'] = target at marksUp
  induction marksUp generalizing old with
  | nil => simp at whole
  | @keep older newer d rest inductionHypothesis =>
      cases old with
      | nil =>
          obtain ⟨rfl, empty⟩ := List.cons.inj whole
          have nothing : newer = [] := rest.eq_nil_iff.mpr empty.symm
          exact ⟨[], by simp [nothing], nil⟩
      | cons first others =>
          obtain ⟨rfl, tail⟩ := List.cons.inj whole
          obtain ⟨back, rfl, marksBack⟩ := inductionHypothesis tail
          exact ⟨first :: back, rfl, keep first marksBack⟩
  | @mark older newer piece html nonempty free isHtml rest inductionHypothesis =>
      rcases List.eq_nil_or_concat older with rfl | ⟨others, last, rfl⟩
      · rw [List.append_nil] at whole
        exact absurd (whole ▸ List.mem_append_right old (List.mem_singleton_self '\r')) free
      · rw [List.concat_eq_append, ← List.append_assoc] at whole
        obtain ⟨split, same⟩ := List.append_inj' whole rfl
        obtain ⟨back, rfl, marksBack⟩ :=
          inductionHypothesis (by rw [List.concat_eq_append, same])
        exact ⟨html ++ back, by simp, split ▸ mark nonempty free isHtml marksBack⟩

/-- No HTML ends with an arrow, so an arrow at the end was there before. -/
theorem of_append_arrow (marksUp : MarksUp old (new ++ ['-', '>'])) :
    ∃ rest, old = rest ++ ['-', '>'] ∧ MarksUp rest new := by
  generalize whole : new ++ ['-', '>'] = target at marksUp
  induction marksUp generalizing new with
  | nil => simp at whole
  | @keep older newer d rest inductionHypothesis =>
      cases new with
      | nil =>
          obtain ⟨rfl, single⟩ := List.cons.inj whole
          rw [← single] at rest
          obtain ⟨back, rfl, marksBack⟩ := of_cons (by decide) rest
          have nothing : back = [] := marksBack.eq_nil_iff.mp rfl
          exact ⟨[], by simp [nothing], nil⟩
      | cons first others =>
          obtain ⟨rfl, tail⟩ := List.cons.inj whole
          obtain ⟨back, rfl, marksBack⟩ := inductionHypothesis tail
          exact ⟨first :: back, rfl, keep first marksBack⟩
  | @mark older newer piece html nonempty free isHtml rest inductionHypothesis =>
      rcases List.eq_nil_or_concat newer with rfl | ⟨others, last, rfl⟩
      · rw [List.append_nil] at whole
        exact absurd (whole ▸ isHtml) (not_isHtml_append_arrow new)
      · have ends : (new ++ ['-']) ++ ['>'] = (html ++ others) ++ [last] := by
          simpa using whole
        obtain ⟨split, lastIsBracket⟩ := List.append_inj' ends rfl
        rcases List.eq_nil_or_concat others with rfl | ⟨more, c, rfl⟩
        · rw [List.append_nil] at split
          exact absurd (split ▸ isHtml) (not_isHtml_concat (by decide) new)
        · rw [List.concat_eq_append, ← List.append_assoc] at split
          obtain ⟨front, hyphen⟩ := List.append_inj' split rfl
          obtain ⟨back, rfl, marksBack⟩ := @inductionHypothesis more (by
            simp [← lastIsBracket, ← hyphen])
          exact ⟨piece ++ back, by simp, front ▸ mark nonempty free isHtml marksBack⟩

end MarksUp

/-- Marking up a line leaves the carriage return at its end alone. -/
theorem marksUp_stripReturn {old new : Text} (marksUp : MarksUp old new) :
    MarksUp (stripReturn old).1 (stripReturn new).1 ∧
      (stripReturn old).2 = (stripReturn new).2 := by
  rcases stripReturn_cases new with ⟨body, rfl, stripped⟩ | ⟨noReturn, stripped⟩
  · obtain ⟨rest, rfl, marksRest⟩ := marksUp.of_concat (by decide)
    rw [stripped, stripReturn_append_return]
    exact ⟨marksRest, rfl⟩
  · have noReturnBefore : ∀ body, old ≠ body ++ ['\r'] := by
      rintro body rfl
      obtain ⟨rest, split, _⟩ := marksUp.of_concat_return
      exact noReturn rest split
    rw [stripped, stripReturn_of_not_return noReturnBefore]
    exact ⟨marksUp, rfl⟩

/-- A property of lines that marking up does not take away, and that HTML has. -/
structure Lasting (Settled : Text → Prop) : Prop where
  marked : ∀ {old new : Text}, '\n' ∉ old → MarksUp old new → Settled old → Settled new
  html : ∀ rest : Text, Settled ('<' :: rest)

end MarkdownDialect.Text
