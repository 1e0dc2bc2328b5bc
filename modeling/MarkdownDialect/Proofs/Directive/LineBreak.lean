import MarkdownDialect.Proofs.Text.LineChange
import MarkdownDialect.Proofs.Text.Markup
import MarkdownDialect.Stage

/-!
# Written line breaks

A backslash with an `n` after it becomes a line break, within a line, and none is left.
-/

namespace MarkdownDialect.LineBreak

open Text

/-- The last stage on a single line. -/
def expandLine (line : Text) : Text :=
  replaceAll ['\\', 'n'] Stage.lineBreakHtml line

/-- A written line break at the front of a text. -/
def find? (text : Text) : Option (Text × Text) :=
  (['\\', 'n'].isPrefixOf? text).map fun after => (Stage.lineBreakHtml, after)

theorem expandLine_eq_replaceMatches (line : Text) :
    expandLine line = replaceMatches find? line := rfl

theorem find?_eq_some_iff {text replacement after : Text} :
    find? text = some (replacement, after) ↔
      text = '\\' :: 'n' :: after ∧ replacement = Stage.lineBreakHtml := by
  simp only [find?, Option.map_eq_some_iff, isPrefixOf?_eq_some_iff, Prod.mk.injEq]
  constructor
  · intro found
    obtain ⟨following, rfl, rfl, rfl⟩ := found
    exact ⟨rfl, rfl⟩
  · intro found
    obtain ⟨rfl, rfl⟩ := found
    exact ⟨after, rfl, rfl, rfl⟩

theorem advances : Advances find? :=
  advances_fixed Stage.lineBreakHtml (by simp)

private theorem isHtml_lineBreakHtml : IsHtml Stage.lineBreakHtml :=
  ⟨"br".toList, '/', rfl, by decide⟩

theorem marksUp_expandLine (line : Text) : MarksUp line (expandLine line) := by
  rw [expandLine_eq_replaceMatches]
  apply MarksUp.replaceMatches advances
  intro text replacement after reading
  obtain ⟨rfl, rfl⟩ := find?_eq_some_iff.mp reading
  exact ⟨['\\', 'n'], rfl, Or.inr ⟨by simp, by decide, isHtml_lineBreakHtml⟩⟩

theorem addsTags_expandLine : AddsTags expandLine := by
  apply replaceMatches_eq_self_or_count_lt advances
  intro text replacement after reading
  obtain ⟨rfl, rfl⟩ := find?_eq_some_iff.mp reading
  right
  have opening : Stage.lineBreakHtml.count '<' = 1 := by decide
  rw [List.count_append, opening]
  simp only [List.count_cons, beq_iff_eq, Char.reduceEq, if_false]
  omega

theorem keepsOut_expandLine {c : Char} (foreign : isMarkupChar c = false) :
    KeepsOut c expandLine := by
  intro line
  apply not_mem_replaceMatches advances
  intro text replacement after reading _
  obtain ⟨_, rfl⟩ := find?_eq_some_iff.mp reading
  exact not_mem_of_isMarkupChar foreign (by decide)

theorem staysInLine_expandLine : StaysInLine expandLine :=
  keepsOut_expandLine (by decide)

/-- No line break is left, and none comes about where HTML meets what follows it. -/
private theorem find?_eq_none_of_suffix_expandLine {line back : Text}
    (suffix : back <:+ expandLine line) : find? back = none := by
  rw [expandLine_eq_replaceMatches] at suffix
  rw [Option.eq_none_iff_forall_ne_some]
  intro ⟨replacement, others⟩ reading
  obtain ⟨rfl, _⟩ := find?_eq_some_iff.mp reading
  induction line using match_induction advances with
  | nil =>
      rw [replaceMatches_nil, List.suffix_nil] at suffix
      exact absurd suffix (by simp)
  | pass c rest missing inductionHypothesis =>
      rw [replaceMatches_of_none missing] at suffix
      rcases List.suffix_cons_iff.mp suffix with whole | inRest
      · obtain ⟨rfl, tail⟩ := List.cons.inj whole
        have marksRest : MarksUp rest ('n' :: others) := by
          rw [tail]
          exact marksUp_expandLine rest
        obtain ⟨more, rfl, _⟩ := marksRest.of_cons (by decide)
        have found := find?_eq_some_iff.mpr
          ⟨(rfl : '\\' :: 'n' :: more = _), (rfl : Stage.lineBreakHtml = _)⟩
        rw [missing] at found
        exact absurd found (by simp)
      · exact inductionHypothesis inRest
  | found text replaced after reading inductionHypothesis =>
      obtain ⟨_, rfl⟩ := find?_eq_some_iff.mp reading
      have letters : Stage.lineBreakHtml = ['<', 'b', 'r', '/', '>'] := rfl
      rw [replaceMatches_of_some advances reading, letters] at suffix
      simp only [List.cons_append, List.nil_append, List.suffix_cons_iff, List.cons.injEq,
        Char.reduceEq, false_and, false_or] at suffix
      exact inductionHypothesis suffix

@[simp]
theorem expandLine_expandLine (line : Text) : expandLine (expandLine line) = expandLine line :=
  replaceMatches_eq_self fun _ suffix => find?_eq_none_of_suffix_expandLine suffix

end MarkdownDialect.LineBreak
