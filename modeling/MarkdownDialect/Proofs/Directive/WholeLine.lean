import MarkdownDialect.Directive.Alignment
import MarkdownDialect.Directive.Spoiler
import MarkdownDialect.Directive.TocMarker
import MarkdownDialect.Proofs.Text.LineChange
import MarkdownDialect.Proofs.Text.Markup
import MarkdownDialect.Proofs.Text.Number
import MarkdownDialect.Proofs.Text.Trimming

/-!
# Directives that take a whole line

Spoilers, aligned lines and markers for tables of contents: which lines they take, and what becomes
of these. Any other line stays as it is.
-/

namespace MarkdownDialect

open Text

/-! ## Spoilers -/

namespace Spoiler

/-- The hidden text reaches to the end of the line, or to a carriage return before it. -/
def expandLine (line : Text) : Text :=
  match "!>".toList.isPrefixOf? line with
  | some rest =>
    let hidden := rest.takeWhile (· != '\r')
    if hidden.isEmpty then line else html hidden ++ rest.dropWhile (· != '\r')
  | none => line

/-- Whether a line begins with `!>` and has something to hide. -/
def Hides (line : Text) : Prop :=
  ∃ first rest, line = '!' :: '>' :: first :: rest ∧ first ≠ '\r'

theorem expandLine_cases (line : Text) :
    ¬ Hides line ∧ expandLine line = line ∨
      ∃ hidden tail, line = '!' :: '>' :: (hidden ++ tail) ∧ hidden ≠ [] ∧ '\r' ∉ hidden ∧
        expandLine line = html hidden ++ tail := by
  cases opening : "!>".toList.isPrefixOf? line with
  | none =>
      refine Or.inl ⟨?_, by simp only [expandLine, opening]⟩
      rintro ⟨first, rest, rfl, _⟩
      exact isPrefixOf?_eq_none_iff.mp opening (first :: rest) rfl
  | some rest =>
      have shape : line = '!' :: '>' :: rest := isPrefixOf?_eq_some_iff.mp opening
      by_cases empty : rest.takeWhile (· != '\r') = []
      · refine Or.inl ⟨?_, by simp only [expandLine, opening, empty]; rfl⟩
        rintro ⟨first, others, split, different⟩
        rw [shape] at split
        simp only [List.cons.injEq, true_and] at split
        rw [split, List.takeWhile_cons_of_pos (by simpa using different)] at empty
        simp at empty
      · refine Or.inr ⟨rest.takeWhile (· != '\r'), rest.dropWhile (· != '\r'), ?_, empty, ?_, ?_⟩
        · rw [List.takeWhile_append_dropWhile, shape]
        · intro member
          simpa using List.mem_takeWhile_imp member
        · simp only [expandLine, opening]
          rw [if_neg (by simpa using empty)]

theorem expandLine_eq_self {line : Text} (plain : ¬ Hides line) : expandLine line = line := by
  rcases expandLine_cases line with ⟨_, same⟩ | ⟨hidden, tail, rfl, nonempty, noReturn, _⟩
  · exact same
  · cases hidden with
    | nil => exact absurd rfl nonempty
    | cons first rest =>
        exact absurd ⟨first, rest ++ tail, rfl, Ne.symm (List.ne_of_not_mem_cons noReturn)⟩ plain

theorem isHtml_html (hidden : Text) : IsHtml (html hidden) := by
  refine ⟨"span class=\"spoiler\">".toList ++ (hidden ++ "</spa".toList), 'n', ?_, by decide⟩
  unfold html
  simp only [List.append_assoc]
  rfl

theorem marksUp_expandLine (line : Text) : MarksUp line (expandLine line) := by
  rcases expandLine_cases line with ⟨_, same⟩ | ⟨hidden, tail, rfl, nonempty, noReturn, changed⟩
  · rw [same]
    exact MarksUp.refl line
  · rw [changed]
    have noReturnInPiece : '\r' ∉ '!' :: '>' :: hidden := by simpa using noReturn
    exact MarksUp.of_front (by simp) noReturnInPiece (isHtml_html hidden) tail

/-- Marking up a line does not make it a spoiler. -/
private theorem not_hides_of_marksUp {old new : Text} (marksUp : MarksUp old new)
    (plain : ¬ Hides old) : ¬ Hides new := by
  rintro ⟨first, rest, rfl, different⟩
  obtain ⟨others, rfl, marksOthers⟩ := @MarksUp.of_append old (first :: rest) ['!', '>']
    (by decide) marksUp
  cases others with
  | nil => exact absurd (marksOthers.eq_nil_iff.mpr rfl) (by simp)
  | cons c more =>
      apply plain
      refine ⟨c, more, rfl, ?_⟩
      rintro rfl
      obtain ⟨_, equal, _⟩ := marksOthers.of_return_cons
      exact different (List.cons.inj equal).1

theorem lasting_not_hides : Lasting fun line => ¬ Hides line where
  marked _ marksUp plain := not_hides_of_marksUp marksUp plain
  html rest := by
    rintro ⟨first, others, shape, _⟩
    exact absurd (List.cons.inj shape).1 (by decide)

/-- Nothing is left to hide after a line is hidden. -/
@[simp]
theorem not_hides_expandLine (line : Text) : ¬ Hides (expandLine line) := by
  rcases expandLine_cases line with ⟨plain, same⟩ | ⟨hidden, tail, _, _, _, changed⟩
  · rw [same]
    exact plain
  · obtain ⟨rest, shape, _⟩ := (isHtml_html hidden).eq_cons
    rw [changed, shape]
    exact lasting_not_hides.html (rest ++ tail)

theorem addsTags_expandLine : AddsTags expandLine := by
  intro line
  rcases expandLine_cases line with ⟨_, same⟩ | ⟨hidden, tail, shape, _, _, changed⟩
  · exact Or.inl same
  · right
    have opening : "<span class=\"spoiler\">".toList.count '<' = 1 := by decide
    rw [changed, shape]
    unfold html
    simp only [List.count_append, List.count_cons, opening]
    simp only [beq_iff_eq, Char.reduceEq, if_false]
    omega

@[simp]
theorem mem_html {c : Char} (foreign : isMarkupChar c = false) {hidden : Text} :
    c ∈ html hidden ↔ c ∈ hidden := by
  have opening : "<span class=\"spoiler\">".toList.all isMarkupChar = true := by decide
  have closing : "</span>".toList.all isMarkupChar = true := by decide
  unfold html
  rw [mem_append_markup foreign closing, mem_markup_append foreign opening]

theorem keepsOut_expandLine {c : Char} (foreign : isMarkupChar c = false) :
    KeepsOut c expandLine := by
  intro line absent
  rcases expandLine_cases line with ⟨_, same⟩ | ⟨hidden, tail, shape, _, _, changed⟩
  · rw [same]
    exact absent
  · simp only [shape, List.mem_cons, List.mem_append, not_or] at absent
    simp [changed, foreign, absent]

theorem staysInLine_expandLine : StaysInLine expandLine :=
  keepsOut_expandLine (by decide)

end Spoiler

/-! ## Aligned lines -/

namespace Alignment

/-- The content between the arrows: trimmed of blanks, or the last blank if there is nothing
else. -/
def content? (between : Text) : Option Text :=
  match trimBlanks between with
  | [] => between.getLast?.map fun blank => [blank]
  | content => some content

/-- The content of a line that lies between the arrows of an alignment. -/
def read? (alignment : Alignment) (line : Text) : Option Text := do
  let rest ← "->".toList.isPrefixOf? line
  let between ← alignment.closingArrow.isSuffixOf? rest
  if '\r' ∈ between then none else content? between

/-- Expands a line that is aligned in the given way; a carriage return at its end stays. -/
def expandLine (alignment : Alignment) (line : Text) : Text :=
  let (body, hadReturn) := stripReturn line
  match alignment.read? body with
  | some content => alignment.html content ++ returnIf hadReturn
  | none => line

/-- Whether a line stands between the arrows of an alignment. -/
def Aligns (alignment : Alignment) (line : Text) : Prop :=
  ∃ between hadReturn, between ≠ [] ∧ '\r' ∉ between ∧
    line = '-' :: '>' :: (between ++ (alignment.closingArrow ++ returnIf hadReturn))

private theorem content?_isSome {between : Text} (nonempty : between ≠ []) :
    (content? between).isSome = true := by
  unfold content?
  split
  · rw [Option.isSome_map, List.getLast?_isSome]
    exact nonempty
  · rfl

theorem read?_sound {alignment : Alignment} {line content : Text}
    (reading : alignment.read? line = some content) :
    ∃ between, between ≠ [] ∧ '\r' ∉ between ∧ content? between = some content ∧
      line = '-' :: '>' :: (between ++ alignment.closingArrow) := by
  simp only [read?, Option.bind_eq_bind, Option.bind_eq_some_iff, isPrefixOf?_eq_some_iff,
    isSuffixOf?_eq_some_iff] at reading
  obtain ⟨rest, rfl, between, rfl, reading⟩ := reading
  split at reading
  · simp at reading
  · next noReturn =>
      refine ⟨between, ?_, noReturn, reading, rfl⟩
      rintro rfl
      simp [content?, trimBlanks, dropEndWhile] at reading

theorem read?_complete (alignment : Alignment) {between content : Text}
    (noReturn : '\r' ∉ between) (reading : content? between = some content) :
    alignment.read? ('-' :: '>' :: (between ++ alignment.closingArrow)) = some content := by
  have opening : "->".toList.isPrefixOf? ('-' :: '>' :: (between ++ alignment.closingArrow)) =
      some (between ++ alignment.closingArrow) :=
    isPrefixOf?_append "->".toList _
  have closing : alignment.closingArrow.isSuffixOf? (between ++ alignment.closingArrow) =
      some between :=
    isSuffixOf?_eq_some_iff.mpr rfl
  simp only [read?, Option.bind_eq_bind, opening, closing, Option.bind_some]
  rw [if_neg noReturn, reading]

/-- Neither arrow ends with a carriage return. -/
theorem arrow_ne_append_return (alignment : Alignment) (between : Text) :
    ∀ front, '-' :: '>' :: (between ++ alignment.closingArrow) ≠ front ++ ['\r'] := by
  intro front
  have shape : ∃ first last, alignment.closingArrow = [first, last] ∧ last ≠ '\r' := by
    cases alignment
    · exact ⟨'<', '-', rfl, by decide⟩
    · exact ⟨'-', '>', rfl, by decide⟩
  obtain ⟨first, last, arrow, different⟩ := shape
  have ends : '-' :: '>' :: (between ++ alignment.closingArrow) =
      ('-' :: '>' :: (between ++ [first])) ++ [last] := by
    simp [arrow]
  rw [ends]
  exact ne_append_return_of_concat different front

theorem expandLine_cases (alignment : Alignment) (line : Text) :
    ¬ alignment.Aligns line ∧ alignment.expandLine line = line ∨
      ∃ between content hadReturn, between ≠ [] ∧ '\r' ∉ between ∧
        content? between = some content ∧
        line = '-' :: '>' :: (between ++ (alignment.closingArrow ++ returnIf hadReturn)) ∧
        alignment.expandLine line = alignment.html content ++ returnIf hadReturn := by
  cases reading : alignment.read? (stripReturn line).1 with
  | some content =>
      right
      obtain ⟨between, nonempty, noReturn, contentReading, shape⟩ := read?_sound reading
      refine ⟨between, content, (stripReturn line).2, nonempty, noReturn, contentReading, ?_, ?_⟩
      · calc
          line = (stripReturn line).1 ++ returnIf (stripReturn line).2 := stripReturn_split line
          _ = _ := by rw [shape]; simp
      · simp only [expandLine, reading]
  | none =>
      refine Or.inl ⟨?_, by simp only [expandLine, reading]⟩
      rintro ⟨between, hadReturn, nonempty, noReturn, rfl⟩
      obtain ⟨content, contentReading⟩ := Option.isSome_iff_exists.mp (content?_isSome nonempty)
      have stripped := stripReturn_append_returnIf
        (alignment.arrow_ne_append_return between) hadReturn
      have whole : '-' :: '>' :: (between ++ (alignment.closingArrow ++ returnIf hadReturn)) =
          '-' :: '>' :: (between ++ alignment.closingArrow) ++ returnIf hadReturn := by
        simp
      rw [whole, stripped, alignment.read?_complete noReturn contentReading] at reading
      exact absurd reading (by simp)

theorem expandLine_eq_self {alignment : Alignment} {line : Text}
    (plain : ¬ alignment.Aligns line) : alignment.expandLine line = line := by
  rcases alignment.expandLine_cases line with
    ⟨_, same⟩ | ⟨between, content, hadReturn, nonempty, noReturn, _, shape, _⟩
  · exact same
  · exact absurd ⟨between, hadReturn, nonempty, noReturn, shape⟩ plain

/-- A line between arrows and blanks is aligned. -/
theorem expandLine_of_visible_ends (alignment : Alignment) {content : Text}
    (nonempty : content ≠ [])
    (noReturn : '\r' ∉ content) (startsVisible : ∀ c, content.head? = some c → isBlank c = false)
    (endsVisible : ∀ c, content.getLast? = some c → isBlank c = false) :
    alignment.expandLine ('-' :: '>' :: ' ' :: (content ++ ' ' :: alignment.closingArrow)) =
      alignment.html content := by
  have blank : ∀ c ∈ [' '], isBlank c = true := by
    intro c member
    rw [List.mem_singleton.mp member]
    rfl
  have trimmed : trimBlanks ([' '] ++ (content ++ [' '])) = content :=
    trimBlanks_of_visible_ends blank blank nonempty startsVisible endsVisible
  have reading : content? ([' '] ++ (content ++ [' '])) = some content := by
    unfold content?
    rw [trimmed]
    cases content with
    | nil => exact absurd rfl nonempty
    | cons c rest => rfl
  have noReturnBetween : '\r' ∉ [' '] ++ (content ++ [' ']) := by simp [noReturn]
  have shape : '-' :: '>' :: ' ' :: (content ++ ' ' :: alignment.closingArrow) =
      '-' :: '>' :: (([' '] ++ (content ++ [' '])) ++ alignment.closingArrow) := by simp
  have whole := alignment.read?_complete noReturnBetween reading
  have stripped := stripReturn_of_not_return
    (alignment.arrow_ne_append_return ([' '] ++ (content ++ [' '])))
  rw [shape]
  simp only [expandLine, stripped, whole]
  exact List.append_nil _

/-- The arrow at the end of a flush right line does not centre it. -/
theorem not_center_aligns_of_right (content : Text) :
    ¬ center.Aligns ('-' :: '>' :: ' ' :: (content ++ ' ' :: right.closingArrow)) := by
  intro ⟨between, hadReturn, _, _, shape⟩
  have ends := congrArg List.getLast? shape
  have rightEnd : ('-' :: '>' :: ' ' :: (content ++ ' ' :: right.closingArrow)).getLast? =
      some '>' := by
    have split : '-' :: '>' :: ' ' :: (content ++ ' ' :: right.closingArrow) =
        ('-' :: '>' :: ' ' :: (content ++ [' ', '-'])) ++ ['>'] := by simp [closingArrow]
    rw [split, List.getLast?_concat]
  rw [rightEnd] at ends
  cases hadReturn with
  | false =>
      have split : '-' :: '>' :: (between ++ (center.closingArrow ++ returnIf false)) =
          ('-' :: '>' :: (between ++ ['<'])) ++ ['-'] := by simp [closingArrow, returnIf]
      rw [split, List.getLast?_concat] at ends
      exact absurd ends (by decide)
  | true =>
      have split : '-' :: '>' :: (between ++ (center.closingArrow ++ returnIf true)) =
          ('-' :: '>' :: (between ++ ['<', '-'])) ++ ['\r'] := by simp [closingArrow, returnIf]
      rw [split, List.getLast?_concat] at ends
      exact absurd ends (by decide)

theorem isHtml_html (alignment : Alignment) (content : Text) :
    IsHtml (alignment.html content) := by
  refine ⟨"div style=\"text-align: ".toList ++ (alignment.css ++ (";\">".toList
    ++ (content ++ "</di".toList))), 'v', ?_, by decide⟩
  unfold html
  simp only [List.append_assoc]
  rfl

@[simp]
theorem return_not_mem_closingArrow (alignment : Alignment) :
    '\r' ∉ alignment.closingArrow := by
  cases alignment <;> decide

theorem marksUp_expandLine (alignment : Alignment) (line : Text) :
    MarksUp line (alignment.expandLine line) := by
  rcases alignment.expandLine_cases line with
    ⟨_, same⟩ | ⟨between, content, hadReturn, _, noReturn, _, shape, changed⟩
  · rw [same]
    exact MarksUp.refl line
  · have noReturnInPiece : '\r' ∉ '-' :: '>' :: (between ++ alignment.closingArrow) := by
      simp [noReturn]
    have marked := MarksUp.of_front (List.cons_ne_nil _ _) noReturnInPiece
      (alignment.isHtml_html content) (returnIf hadReturn)
    rw [changed, shape]
    simpa using marked

/-- The closing arrow and the carriage return behind it were there before a line was marked up. -/
private theorem of_append_ending {alignment : Alignment} {old new : Text} (hadReturn : Bool)
    (marksUp : MarksUp old (new ++ alignment.closingArrow ++ returnIf hadReturn)) :
    ∃ rest, old = rest ++ alignment.closingArrow ++ returnIf hadReturn ∧ MarksUp rest new := by
  have atArrow : ∀ {front : Text}, MarksUp front (new ++ alignment.closingArrow) →
      ∃ rest, front = rest ++ alignment.closingArrow ∧ MarksUp rest new := by
    intro front marksFront
    cases alignment with
    | center =>
        have marksEnd : MarksUp front ((new ++ ['<']) ++ ['-']) := by
          simpa [closingArrow] using marksFront
        obtain ⟨shorter, rfl, marksShorter⟩ := marksEnd.of_concat (by decide)
        obtain ⟨rest, rfl, marksRest⟩ := marksShorter.of_concat (by decide)
        exact ⟨rest, by simp [closingArrow], marksRest⟩
    | right => exact marksFront.of_append_arrow
  cases hadReturn with
  | false =>
      obtain ⟨rest, rfl, marksRest⟩ := atArrow (by simpa [returnIf] using marksUp)
      exact ⟨rest, by simp [returnIf], marksRest⟩
  | true =>
      obtain ⟨front, rfl, marksFront⟩ := marksUp.of_concat (by decide)
      obtain ⟨rest, rfl, marksRest⟩ := atArrow marksFront
      exact ⟨rest, rfl, marksRest⟩

/-- Marking up a line does not align it. -/
theorem not_aligns_of_marksUp {alignment : Alignment} {old new : Text}
    (marksUp : MarksUp old new) (plain : ¬ alignment.Aligns old) : ¬ alignment.Aligns new := by
  rintro ⟨between, hadReturn, nonempty, noReturn, rfl⟩
  obtain ⟨others, rfl, marksOthers⟩ :=
    @MarksUp.of_append old (between ++ (alignment.closingArrow ++ returnIf hadReturn)) ['-', '>']
      (by decide) marksUp
  have marksBody := of_append_ending hadReturn (by simpa using marksOthers)
  obtain ⟨body, rfl, marksBetween⟩ := marksBody
  refine plain ⟨body, hadReturn, ?_, marksBetween.return_not_mem noReturn, by simp⟩
  intro empty
  exact nonempty (marksBetween.eq_nil_iff.mpr empty)

theorem lasting_not_aligns (alignment : Alignment) :
    Lasting fun line => ¬ alignment.Aligns line where
  marked _ marksUp plain := not_aligns_of_marksUp marksUp plain
  html rest := by
    rintro ⟨between, hadReturn, _, _, shape⟩
    exact absurd (List.cons.inj shape).1 (by decide)

/-- An aligned line is not aligned once more. -/
@[simp]
theorem not_aligns_expandLine (alignment : Alignment) (line : Text) :
    ¬ alignment.Aligns (alignment.expandLine line) := by
  rcases alignment.expandLine_cases line with
    ⟨plain, same⟩ | ⟨between, content, hadReturn, _, _, _, _, changed⟩
  · rw [same]
    exact plain
  · obtain ⟨rest, shape, _⟩ := (alignment.isHtml_html content).eq_cons
    rw [changed, shape]
    exact alignment.lasting_not_aligns.html (rest ++ returnIf hadReturn)

/-- The content stands between blanks. -/
theorem content?_split {between content : Text} (reading : content? between = some content) :
    ∃ front back, between = front ++ (content ++ back) ∧
      (∀ c ∈ front, isBlank c = true) ∧ ∀ c ∈ back, isBlank c = true := by
  obtain ⟨front, back, split, frontBlank, backBlank⟩ := trimBlanks_split between
  unfold content? at reading
  split at reading
  · next empty =>
      rw [Option.map_eq_some_iff] at reading
      obtain ⟨last, isLast, rfl⟩ := reading
      rw [empty, List.nil_append] at split
      have allBlank : ∀ c ∈ between, isBlank c = true := by
        intro c member
        rw [split, List.mem_append] at member
        exact member.elim (frontBlank c) (backBlank c)
      rw [List.getLast?_eq_some_iff] at isLast
      obtain ⟨before, rfl⟩ := isLast
      exact ⟨before, [], by simp, fun c member => allBlank c (List.mem_append_left _ member),
        by simp⟩
  · next content' _ =>
      rw [Option.some.injEq] at reading
      subst reading
      exact ⟨front, back, split, frontBlank, backBlank⟩

private theorem count_content? {between content : Text}
    (reading : content? between = some content) :
    content.count '<' = between.count '<' := by
  obtain ⟨front, back, rfl, frontBlank, backBlank⟩ := content?_split reading
  have noFront : front.count '<' = 0 :=
    List.count_eq_zero.mpr fun member => absurd (frontBlank '<' member) (by decide)
  have noBack : back.count '<' = 0 :=
    List.count_eq_zero.mpr fun member => absurd (backBlank '<' member) (by decide)
  rw [List.count_append, List.count_append, noFront, noBack]
  omega

theorem addsTags_expandLine (alignment : Alignment) : AddsTags alignment.expandLine := by
  intro line
  rcases alignment.expandLine_cases line with
    ⟨_, same⟩ | ⟨between, content, hadReturn, _, _, reading, shape, changed⟩
  · exact Or.inl same
  · right
    have contentCount := count_content? reading
    have arrowCount : alignment.closingArrow.count '<' ≤ 1 := by
      cases alignment <;> decide
    have opening : "<div style=\"text-align: ".toList.count '<' = 1 := by decide
    have closing : "</div>".toList.count '<' = 1 := by decide
    rw [changed, shape]
    unfold html
    simp only [List.count_append, List.count_cons, opening, closing, contentCount]
    simp only [beq_iff_eq, Char.reduceEq, if_false]
    omega

@[simp]
theorem mem_html {c : Char} (foreign : isMarkupChar c = false) {alignment : Alignment}
    {content : Text} : c ∈ alignment.html content ↔ c ∈ content := by
  have opening : ("<div style=\"text-align: ".toList ++ alignment.css ++ ";\">".toList).all
      isMarkupChar = true := by
    cases alignment <;> decide
  have closing : "</div>".toList.all isMarkupChar = true := by decide
  unfold html
  rw [mem_append_markup foreign closing, mem_markup_append foreign opening]

theorem keepsOut_expandLine {c : Char} (foreign : isMarkupChar c = false)
    (alignment : Alignment) : KeepsOut c alignment.expandLine := by
  intro line absent
  rcases alignment.expandLine_cases line with
    ⟨_, same⟩ | ⟨between, content, hadReturn, _, _, reading, shape, changed⟩
  · rw [same]
    exact absent
  · obtain ⟨front, back, rfl, _⟩ := content?_split reading
    simp only [shape, List.mem_cons, List.mem_append, not_or] at absent
    obtain ⟨-, -, ⟨-, absentInContent, -⟩, -, absentInReturn⟩ := absent
    rw [changed, List.mem_append, mem_html foreign, not_or]
    exact ⟨absentInContent, absentInReturn⟩

theorem staysInLine_expandLine (alignment : Alignment) : StaysInLine alignment.expandLine :=
  keepsOut_expandLine (by decide) alignment

end Alignment

/-! ## Markers for tables of contents -/

namespace TocMarker

/-- The level of a line that is a marker. -/
def read? (line : Text) : Option Nat := do
  let rest ← "[TOC".toList.isPrefixOf? line
  match ← [']'].isSuffixOf? rest with
  | [] => return levelOf none
  | [digit] => if isDecimalDigit digit then return levelOf (some [digit]) else none
  | _ => none

def expandLine (line : Text) : Text :=
  let (body, hadReturn) := stripReturn line
  match read? body with
  | some level => placeholder level ++ returnIf hadReturn
  | none => line

/-- The text of a marker: `[TOC]`, or `[TOC` and a decimal digit and `]`. -/
def IsMarker (text : Text) : Prop :=
  text = "[TOC]".toList ∨
    ∃ digit, isDecimalDigit digit = true ∧ text = "[TOC".toList ++ [digit, ']']

theorem read?_sound {line : Text} {level : Nat} (reading : read? line = some level) :
    IsMarker line := by
  simp only [read?, Option.bind_eq_bind, Option.bind_eq_some_iff, isPrefixOf?_eq_some_iff,
    isSuffixOf?_eq_some_iff] at reading
  obtain ⟨_, rfl, front, rfl, reading⟩ := reading
  split at reading
  · exact Or.inl rfl
  · next digit =>
      split at reading
      · next isDigit => exact Or.inr ⟨digit, isDigit, rfl⟩
      · simp at reading
  · simp at reading

theorem read?_complete {line : Text} (isMarker : IsMarker line) :
    ∃ level, read? line = some level := by
  rcases isMarker with rfl | ⟨digit, isDigit, rfl⟩
  · exact ⟨levelOf none, rfl⟩
  · have opening := isPrefixOf?_append "[TOC".toList [digit, ']']
    have closing : [']'].isSuffixOf? [digit, ']'] = some [digit] :=
      isSuffixOf?_eq_some_iff.mpr rfl
    refine ⟨levelOf (some [digit]), ?_⟩
    simp only [read?, Option.bind_eq_bind, opening, closing, Option.bind_some]
    rw [if_pos isDigit]
    rfl

/-- A marker holds no angle bracket, no line ending and no backslash. -/
theorem IsMarker.not_mem {text : Text} (isMarker : IsMarker text) {c : Char}
    (noDigit : isDecimalDigit c = false) (foreign : c ∉ "[TOC]".toList) : c ∉ text := by
  rcases isMarker with rfl | ⟨digit, isDigit, rfl⟩
  · exact foreign
  · have noDigitHere : c ≠ digit := by
      rintro rfl
      simp [isDigit] at noDigit
    have letters : "[TOC]".toList = "[TOC".toList ++ [']'] := rfl
    rw [letters] at foreign
    simp only [List.mem_append, List.mem_cons, List.not_mem_nil, or_false, not_or] at foreign ⊢
    exact ⟨foreign.1, noDigitHere, foreign.2⟩

theorem expandLine_cases (line : Text) :
    ¬ IsMarker (stripReturn line).1 ∧ expandLine line = line ∨
      ∃ marker level hadReturn, IsMarker marker ∧ line = marker ++ returnIf hadReturn ∧
        expandLine line = placeholder level ++ returnIf hadReturn := by
  cases reading : read? (stripReturn line).1 with
  | none =>
      refine Or.inl ⟨?_, by simp only [expandLine, reading]⟩
      intro isMarker
      obtain ⟨level, found⟩ := read?_complete isMarker
      rw [found] at reading
      exact absurd reading (by simp)
  | some level =>
      refine Or.inr ⟨(stripReturn line).1, level, (stripReturn line).2, read?_sound reading,
        stripReturn_split line, ?_⟩
      simp only [expandLine, reading]

theorem expandLine_eq_self {line : Text} (plain : ¬ IsMarker (stripReturn line).1) :
    expandLine line = line := by
  have noLevel : read? (stripReturn line).1 = none := by
    rw [Option.eq_none_iff_forall_ne_some]
    exact fun level reading => plain (read?_sound reading)
  simp only [expandLine, noLevel]

theorem isHtml_placeholder (level : Nat) : IsHtml (placeholder level) := by
  refine ⟨"div class=\"toc\" data-start-level=\"".toList ++ (ofNat level ++ "\"></di".toList),
    'v', ?_, by decide⟩
  unfold placeholder placeholderOpening placeholderClosing
  simp only [List.append_assoc]
  rfl

theorem marksUp_expandLine (line : Text) : MarksUp line (expandLine line) := by
  rcases expandLine_cases line with ⟨_, same⟩ | ⟨marker, level, hadReturn, isMarker, shape, changed⟩
  · rw [same]
    exact MarksUp.refl line
  · have nonempty : marker ≠ [] := by
      rcases isMarker with rfl | ⟨digit, _, rfl⟩ <;> simp
    have noReturn : '\r' ∉ marker := isMarker.not_mem (by decide) (by decide)
    rw [changed, shape]
    exact MarksUp.of_front nonempty noReturn (isHtml_placeholder level) (returnIf hadReturn)

/-- Marking up a line does not make it a marker. -/
private theorem not_isMarker_of_marksUp {old new : Text} (marksUp : MarksUp old new)
    (plain : ¬ IsMarker (stripReturn old).1) : ¬ IsMarker (stripReturn new).1 := by
  intro isMarker
  have noTag : '<' ∉ (stripReturn new).1 := isMarker.not_mem (by decide) (by decide)
  have same := (marksUp_stripReturn marksUp).1.eq_of_not_mem noTag
  exact plain (same ▸ isMarker)

theorem lasting_not_isMarker : Lasting fun line => ¬ IsMarker (stripReturn line).1 where
  marked _ marksUp plain := not_isMarker_of_marksUp marksUp plain
  html rest := by
    intro isMarker
    have noTag : '<' ∉ (stripReturn ('<' :: rest)).1 := isMarker.not_mem (by decide) (by decide)
    have split := stripReturn_split ('<' :: rest)
    have inReturn : '<' ∈ returnIf (stripReturn ('<' :: rest)).2 := by
      have member : '<' ∈ (stripReturn ('<' :: rest)).1 ++ returnIf (stripReturn ('<' :: rest)).2 :=
        split ▸ List.mem_cons_self
      exact (List.mem_append.mp member).resolve_left noTag
    rcases returnIf_eq (stripReturn ('<' :: rest)).2 with none | single
    · rw [none] at inReturn
      exact absurd inReturn List.not_mem_nil
    · rw [single] at inReturn
      exact absurd inReturn (by decide)

/-- A placeholder is no marker. -/
@[simp]
theorem not_isMarker_expandLine (line : Text) :
    ¬ IsMarker (stripReturn (expandLine line)).1 := by
  rcases expandLine_cases line with ⟨plain, same⟩ | ⟨marker, level, hadReturn, _, _, changed⟩
  · rw [same]
    exact plain
  · obtain ⟨rest, shape, _⟩ := (isHtml_placeholder level).eq_cons
    rw [changed, shape]
    exact lasting_not_isMarker.html (rest ++ returnIf hadReturn)

theorem addsTags_expandLine : AddsTags expandLine := by
  intro line
  rcases expandLine_cases line with ⟨_, same⟩ | ⟨marker, level, hadReturn, isMarker, rfl, changed⟩
  · exact Or.inl same
  · right
    have markerCount : marker.count '<' = 0 :=
      List.count_eq_zero.mpr (isMarker.not_mem (by decide) (by decide))
    have opening : placeholderOpening.count '<' = 1 := by decide
    rw [changed]
    unfold placeholder
    simp only [List.count_append, opening, markerCount]
    omega

@[simp]
theorem not_mem_placeholder {c : Char} (foreign : isMarkupChar c = false) (level : Nat) :
    c ∉ placeholder level := by
  have noDigit := isDigit_eq_false_of_isMarkupChar foreign
  have opening : placeholderOpening.all isMarkupChar = true := by decide
  have closing : placeholderClosing.all isMarkupChar = true := by decide
  unfold placeholder
  rw [mem_append_markup foreign closing, mem_markup_append foreign opening]
  exact not_mem_ofNat noDigit level

theorem keepsOut_expandLine {c : Char} (foreign : isMarkupChar c = false) :
    KeepsOut c expandLine := by
  intro line absent
  rcases expandLine_cases line with ⟨_, same⟩ | ⟨marker, level, hadReturn, _, rfl, changed⟩
  · rw [same]
    exact absent
  · rw [List.mem_append, not_or] at absent
    rw [changed, List.mem_append, not_or]
    exact ⟨not_mem_placeholder foreign level, absent.2⟩

theorem staysInLine_expandLine : StaysInLine expandLine :=
  keepsOut_expandLine (by decide)

end TocMarker

end MarkdownDialect
