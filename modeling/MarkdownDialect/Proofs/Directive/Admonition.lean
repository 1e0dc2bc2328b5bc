import MarkdownDialect.Directive.Admonition
import MarkdownDialect.Proofs.Text.CharClass
import MarkdownDialect.Proofs.Text.LineChange
import MarkdownDialect.Proofs.Text.Markup
import MarkdownDialect.Proofs.Text.Trimming

/-!
# The lines of admonitions

An admonition takes its header and the body lines that follow it. It ends before the first line
that is no body line, so the lines before and after such a cut are expanded on their own.
-/

namespace MarkdownDialect.Admonition

open Text

/-! ## Body lines -/

/-- A line is a body line if something other than a carriage return follows four spaces. -/
def IsBodyLine (line : Text) : Prop :=
  ∃ rest, line = indentation ++ rest ∧ rest ≠ [] ∧ rest ≠ ['\r']

theorem bodyLine?_isSome_iff (line : Text) :
    (bodyLine? line).isSome = true ↔ IsBodyLine line := by
  cases indented : indentation.isPrefixOf? line with
  | none =>
      constructor
      · simp [bodyLine?, indented]
      · rintro ⟨rest, rfl, _⟩
        exact absurd rfl (isPrefixOf?_eq_none_iff.mp indented rest)
  | some rest =>
      have shape : line = indentation ++ rest := isPrefixOf?_eq_some_iff.mp indented
      have unique : IsBodyLine line ↔ rest ≠ [] ∧ rest ≠ ['\r'] := by
        constructor
        · rintro ⟨other, split, something⟩
          rw [shape] at split
          rw [List.append_cancel_left split]
          exact something
        · exact fun something => ⟨rest, shape, something⟩
      have value : bodyLine? line =
          if (stripReturn rest).1.isEmpty then none else some (stripReturn rest).1 := by
        simp only [bodyLine?, indented, Option.bind_eq_bind, Option.bind_some, Option.pure_def]
      rw [unique, value]
      rcases stripReturn_cases rest with ⟨body, rfl, stripped⟩ | ⟨noReturn, stripped⟩
      · rw [stripped]
        cases body with
        | nil => simp
        | cons c others => simp
      · rw [stripped]
        cases rest with
        | nil => simp
        | cons c others =>
            have different : c :: others ≠ ['\r'] := noReturn []
            simpa using different

instance (line : Text) : Decidable (IsBodyLine line) :=
  decidable_of_iff _ (bodyLine?_isSome_iff line)

theorem bodyLine?_eq_none {line : Text} (noBody : ¬ IsBodyLine line) :
    bodyLine? line = none := by
  rw [← bodyLine?_isSome_iff] at noBody
  simpa using noBody

/-! ## Cutting before a line that is no body line -/

theorem takeBody_append {next : Text} (upper rest : List Text)
    (noBody : ¬ IsBodyLine next) :
    takeBody (upper ++ next :: rest) =
      ((takeBody upper).1, (takeBody upper).2 ++ next :: rest) := by
  induction upper with
  | nil => simp [takeBody, bodyLine?_eq_none noBody]
  | cons line others inductionHypothesis =>
      rw [List.cons_append]
      cases content : bodyLine? line with
      | some found => simp [takeBody, content, inductionHypothesis]
      | none => simp [takeBody, content]

theorem expandLines_of_header {line : Text} {rest : List Text} {admonition : Admonition}
    (isHeader : ofHeader? (stripReturn line).1 = some admonition) :
    expandLines (line :: rest) =
      ({ admonition with body := (takeBody rest).1 }.html ++ returnIf (stripReturn line).2)
        :: expandLines (takeBody rest).2 := by
  rw [expandLines]
  simp only [isHeader]

theorem expandLines_of_not_header {line : Text} {rest : List Text}
    (noHeader : ofHeader? (stripReturn line).1 = none) :
    expandLines (line :: rest) = line :: expandLines rest := by
  rw [expandLines]
  simp only [noHeader]

@[simp]
theorem expandLines_nil : expandLines [] = [] := by
  rw [expandLines]

/-- The blocks of a list of lines: a line that is no header, or a header with its body. -/
@[elab_as_elim]
theorem blocks_induction {motive : List Text → Prop}
    (nil : motive [])
    (plain : ∀ line rest, ofHeader? (stripReturn line).1 = none →
      motive rest → motive (line :: rest))
    (block : ∀ line rest admonition, ofHeader? (stripReturn line).1 = some admonition →
      motive (takeBody rest).2 → motive (line :: rest))
    (lines : List Text) : motive lines := by
  induction size : lines.length using Nat.strong_induction_on generalizing lines with
  | _ size inductionHypothesis =>
      cases lines with
      | nil => exact nil
      | cons line rest =>
          rw [List.length_cons] at size
          cases isHeader : ofHeader? (stripReturn line).1 with
          | none =>
              apply plain line rest isHeader
              exact inductionHypothesis rest.length (by omega) rest rfl
          | some admonition =>
              apply block line rest admonition isHeader
              have shorter := length_takeBody_le rest
              exact inductionHypothesis (takeBody rest).2.length (by omega) _ rfl

/-- No block reaches over a line that is no body line. -/
theorem expandLines_append {next : Text} (upper rest : List Text)
    (noBody : ¬ IsBodyLine next) :
    expandLines (upper ++ next :: rest) = expandLines upper ++ expandLines (next :: rest) := by
  induction upper using blocks_induction with
  | nil => simp
  | plain line others noHeader inductionHypothesis =>
      rw [List.cons_append, expandLines_of_not_header noHeader, inductionHypothesis,
        expandLines_of_not_header noHeader, List.cons_append]
  | block line others admonition isHeader inductionHypothesis =>
      rw [List.cons_append, expandLines_of_header isHeader, takeBody_append others rest noBody,
        inductionHypothesis, expandLines_of_header isHeader, List.cons_append]

theorem expandLines_ne_nil {lines : List Text} (nonempty : lines ≠ []) :
    expandLines lines ≠ [] := by
  cases lines with
  | nil => exact absurd rfl nonempty
  | cons line rest =>
      cases isHeader : ofHeader? (stripReturn line).1 with
      | none => simp [expandLines_of_not_header isHeader]
      | some admonition => simp [expandLines_of_header isHeader]

/-- Two texts are expanded on their own if the second begins with a line that is no body line. -/
theorem expand_append_lineFeed (upper lower : Text) (noBody : ¬ IsBodyLine (firstLine lower)) :
    expand (upper ++ '\n' :: lower) = expand upper ++ '\n' :: expand lower := by
  obtain ⟨rest, lowerLines⟩ := lines_eq_firstLine_cons lower
  unfold expand
  rw [lines_append_lineFeed, lowerLines, expandLines_append _ _ noBody,
    unlines_append (expandLines_ne_nil (lines_ne_nil upper)) (expandLines_ne_nil (by simp))]

/-! ## Headers -/

/-- A header line: three exclamation marks, blanks, a keyword and the title. -/
def IsHeaderOf (keyword titlePart line : Text) : Prop :=
  (∀ c ∈ keyword, isAsciiLetter c = true) ∧ isTitlePart titlePart = true ∧
    ∃ blanks, (∀ c ∈ blanks, isBlank c = true) ∧
      line = '!' :: '!' :: '!' :: (blanks ++ (keyword ++ titlePart))

theorem ofHeader?_sound {line : Text} {admonition : Admonition}
    (reading : ofHeader? line = some admonition) :
    ∃ keyword titlePart, IsHeaderOf keyword titlePart line ∧
      AdmonitionKind.ofText? keyword = some admonition.kind ∧
      admonition.title =
        (if (trim titlePart).isEmpty then admonition.kind.defaultTitle else trim titlePart) := by
  simp only [ofHeader?, Option.bind_eq_bind, Option.bind_eq_some_iff,
    isPrefixOf?_eq_some_iff] at reading
  obtain ⟨rest, shape, kind, isKind, reading⟩ := reading
  have split : rest = rest.takeWhile isBlank ++ ((rest.dropWhile isBlank).takeWhile isAsciiLetter
      ++ (rest.dropWhile isBlank).dropWhile isAsciiLetter) := by
    rw [List.takeWhile_append_dropWhile, List.takeWhile_append_dropWhile]
  have areBlank : ∀ c ∈ rest.takeWhile isBlank, isBlank c = true :=
    fun c member => List.mem_takeWhile_imp member
  have areLetters : ∀ c ∈ (rest.dropWhile isBlank).takeWhile isAsciiLetter,
      isAsciiLetter c = true :=
    fun c member => List.mem_takeWhile_imp member
  generalize rest.takeWhile isBlank = blanks at *
  generalize (rest.dropWhile isBlank).takeWhile isAsciiLetter = keyword at *
  generalize (rest.dropWhile isBlank).dropWhile isAsciiLetter = titlePart at *
  by_cases isTitle : isTitlePart titlePart = true
  · rw [if_pos isTitle, Option.pure_def, Option.some.injEq] at reading
    subst reading
    have isHeader : IsHeaderOf keyword titlePart line :=
      ⟨areLetters, isTitle, blanks, areBlank, shape.trans (congrArg _ split)⟩
    exact ⟨keyword, titlePart, isHeader, isKind, rfl⟩
  · rw [if_neg isTitle] at reading
    exact absurd reading (by simp)

theorem keyword_ne_nil {keyword : Text} {kind : AdmonitionKind}
    (isKind : AdmonitionKind.ofText? keyword = some kind) : keyword ≠ [] := by
  intro empty
  have noKind : AdmonitionKind.ofText? [] = none := by
    decide
  rw [empty, noKind] at isKind
  contradiction

/-- The title of a header: what follows its keyword, or the title of its kind. -/
def titleOf (kind : AdmonitionKind) (titlePart : Text) : Text :=
  if (trim titlePart).isEmpty then kind.defaultTitle else trim titlePart

theorem ofHeader?_eq_some {keyword titlePart line : Text} {kind : AdmonitionKind}
    (isHeader : IsHeaderOf keyword titlePart line)
    (isKind : AdmonitionKind.ofText? keyword = some kind) :
    ofHeader? line = some { kind, title := titleOf kind titlePart, body := [] } := by
  obtain ⟨areLetters, isTitle, blanks, areBlank, rfl⟩ := isHeader
  have nonempty := keyword_ne_nil isKind
  have afterBlanks : (blanks ++ (keyword ++ titlePart)).dropWhile isBlank =
      keyword ++ titlePart := by
    rw [List.dropWhile_append_of_pos areBlank]
    cases keyword with
    | nil => exact absurd rfl nonempty
    | cons c others =>
        have visible := isBlank_eq_false_of_isAsciiLetter (areLetters c List.mem_cons_self)
        simp [visible]
  have stops : titlePart.takeWhile isAsciiLetter = [] ∧
      titlePart.dropWhile isAsciiLetter = titlePart := by
    cases titlePart with
    | nil => exact ⟨rfl, rfl⟩
    | cons c others =>
        have noLetter : isAsciiLetter c = false := by
          by_contra letter
          rw [Bool.not_eq_false] at letter
          simp [isTitlePart, isBlank_eq_false_of_isAsciiLetter letter] at isTitle
        simp [noLetter]
  have keywordRead : (keyword ++ titlePart).takeWhile isAsciiLetter = keyword := by
    rw [List.takeWhile_append_of_pos areLetters, stops.1, List.append_nil]
  have titleRead : (keyword ++ titlePart).dropWhile isAsciiLetter = titlePart := by
    rw [List.dropWhile_append_of_pos areLetters, stops.2]
  have opening : "!!!".toList.isPrefixOf? ('!' :: '!' :: '!' :: (blanks ++ (keyword ++ titlePart)))
      = some (blanks ++ (keyword ++ titlePart)) :=
    isPrefixOf?_append "!!!".toList _
  simp only [ofHeader?, opening, Option.bind_eq_bind, Option.bind_some, afterBlanks, keywordRead,
    titleRead, isKind, isTitle, if_true]
  rfl

theorem ofHeader?_complete {keyword titlePart line : Text} {kind : AdmonitionKind}
    (isHeader : IsHeaderOf keyword titlePart line)
    (isKind : AdmonitionKind.ofText? keyword = some kind) :
    (ofHeader? line).isSome = true := by
  rw [ofHeader?_eq_some isHeader isKind]
  rfl

/-- Marking up a line does not make it a header. -/
private theorem ofHeader?_eq_none_of_marksUp {old new : Text} (marksUp : MarksUp old new)
    (single : '\n' ∉ old) (noHeader : ofHeader? old = none) : ofHeader? new = none := by
  rw [Option.eq_none_iff_forall_ne_some]
  intro admonition reading
  obtain ⟨keyword, titlePart, ⟨areLetters, isTitle, blanks, areBlank, rfl⟩, isKind, _⟩ :=
    ofHeader?_sound reading
  have noTag : '<' ∉ '!' :: '!' :: '!' :: (blanks ++ keyword) := by
    have noBlank : '<' ∉ blanks := fun member => absurd (areBlank '<' member) (by decide)
    have noLetter : '<' ∉ keyword := fun member => absurd (areLetters '<' member) (by decide)
    simp [noBlank, noLetter]
  have marksFront : MarksUp old ('!' :: '!' :: '!' :: (blanks ++ keyword) ++ titlePart) := by
    simpa using marksUp
  obtain ⟨oldTitle, rfl, marksTitle⟩ := marksFront.of_append noTag
  have isOldTitle : isTitlePart oldTitle = true := by
    cases titlePart with
    | nil => rw [marksTitle.eq_nil_iff.mp rfl]; rfl
    | cons c rest =>
        simp only [isTitlePart, Bool.and_eq_true] at isTitle
        have noTagHere : c ≠ '<' := by
          rintro rfl
          exact absurd isTitle.1 (by decide)
        obtain ⟨oldRest, rfl, _⟩ := marksTitle.of_cons noTagHere
        have singleRest : '\n' ∉ oldRest := fun member =>
          single (List.mem_append_right _ (List.mem_cons_of_mem c member))
        simp [isTitlePart, isTitle.1, singleRest]
  have isHeader :
      IsHeaderOf keyword oldTitle ('!' :: '!' :: '!' :: (blanks ++ keyword) ++ oldTitle) :=
    ⟨areLetters, isOldTitle, blanks, areBlank, by simp⟩
  have found := ofHeader?_complete isHeader isKind
  rw [noHeader] at found
  exact absurd found (by simp)

/-- No line of HTML is a header. -/
theorem lasting_not_header : Lasting fun line => ofHeader? (stripReturn line).1 = none where
  marked := by
    intro old new single marksUp noHeader
    have singleBody : '\n' ∉ (stripReturn old).1 := by
      intro member
      apply single
      rw [stripReturn_split old]
      exact List.mem_append_left _ member
    exact ofHeader?_eq_none_of_marksUp (marksUp_stripReturn marksUp).1 singleBody noHeader
  html := by
    intro rest
    rw [Option.eq_none_iff_forall_ne_some]
    intro admonition reading
    obtain ⟨keyword, titlePart, ⟨_, _, blanks, _, shape⟩, _⟩ := ofHeader?_sound reading
    have split := stripReturn_split ('<' :: rest)
    rw [shape] at split
    exact absurd (List.cons.inj split).1 (by decide)

/-! ## What becomes of the lines -/

theorem bodyLine?_eq_some {line content : Text} (reading : bodyLine? line = some content) :
    ∃ hadReturn, line = indentation ++ (content ++ returnIf hadReturn) := by
  simp only [bodyLine?, Option.bind_eq_bind, Option.bind_eq_some_iff,
    isPrefixOf?_eq_some_iff] at reading
  obtain ⟨rest, rfl, reading⟩ := reading
  split at reading
  · simp at reading
  · rw [Option.pure_def, Option.some.injEq] at reading
    exact ⟨(stripReturn rest).2, by rw [← reading, ← stripReturn_split]⟩

theorem mem_of_mem_takeBody_rest {line : Text} {lines : List Text}
    (member : line ∈ (takeBody lines).2) : line ∈ lines := by
  induction lines with
  | nil => simp [takeBody] at member
  | cons first rest inductionHypothesis =>
      cases reading : bodyLine? first with
      | none => simpa [takeBody, reading] using member
      | some content =>
          simp only [takeBody, reading] at member
          exact List.mem_cons_of_mem first (inductionHypothesis member)

private theorem not_mem_of_mem_takeBody {c : Char} {lines : List Text}
    (absent : ∀ line ∈ lines, c ∉ line)
    {content : Text} (member : content ∈ (takeBody lines).1) : c ∉ content := by
  induction lines with
  | nil => simp [takeBody] at member
  | cons first rest inductionHypothesis =>
      cases reading : bodyLine? first with
      | none => simp [takeBody, reading] at member
      | some found =>
          simp only [takeBody, reading, List.mem_cons] at member
          rcases member with rfl | inRest
          · obtain ⟨hadReturn, rfl⟩ := bodyLine?_eq_some reading
            have absentInFirst := absent _ List.mem_cons_self
            exact fun member => absentInFirst (by simp [member])
          · apply inductionHypothesis _ inRest
            exact fun line lineMember => absent line (List.mem_cons_of_mem first lineMember)

/-- The body lines and the lines that remain hold all angle brackets between them. -/
private theorem count_takeBody (lines : List Text) :
    lines.flatten.count '<' =
      (takeBody lines).1.flatten.count '<' + (takeBody lines).2.flatten.count '<' := by
  induction lines with
  | nil => simp [takeBody]
  | cons first rest inductionHypothesis =>
      cases reading : bodyLine? first with
      | none => simp [takeBody, reading]
      | some content =>
          obtain ⟨hadReturn, rfl⟩ := bodyLine?_eq_some reading
          have noReturnTag : (returnIf hadReturn).count '<' = 0 := by
            cases hadReturn <;> decide
          have noIndentTag : indentation.count '<' = 0 := by decide
          simp only [takeBody, reading, List.flatten_cons, List.count_append, noReturnTag,
            noIndentTag]
          omega

private theorem count_lt_count_html {line : Text} {admonition : Admonition}
    (isHeader : ofHeader? (stripReturn line).1 = some admonition) (body : List Text) :
    line.count '<' + body.flatten.count '<' <
      ({ admonition with body := body }.html ++ returnIf (stripReturn line).2).count '<' := by
  obtain ⟨keyword, titlePart, ⟨areLetters, _, blanks, areBlank, shape⟩, _, title⟩ :=
    ofHeader?_sound isHeader
  have keywordCount : keyword.count '<' = 0 :=
    List.count_eq_zero.mpr fun member => absurd (areLetters '<' member) (by decide)
  have blanksCount : blanks.count '<' = 0 :=
    List.count_eq_zero.mpr fun member => absurd (areBlank '<' member) (by decide)
  have lineCount : line.count '<' =
      titlePart.count '<' + (returnIf (stripReturn line).2).count '<' := by
    conv_lhs => rw [stripReturn_split line, shape]
    simp only [List.count_append, List.count_cons, keywordCount, blanksCount]
    simp
  have titleCount : titlePart.count '<' ≤ admonition.title.count '<' := by
    rw [title, ← count_trim (by decide) titlePart]
    split
    · next empty =>
        rw [List.isEmpty_iff.mp empty]
        exact Nat.zero_le _
    · exact Nat.le_refl _
  have bodyCount := count_joinWith '<' bodySeparator body
  have opening : "<div class=\"admonition admonition-".toList.count '<' = 1 := by decide
  unfold html
  simp only [List.count_append, opening, bodyCount, lineCount]
  omega

theorem addsTags_expand : AddsTags expand := by
  have onLines : ∀ lines : List Text, expandLines lines = lines ∨
      lines.flatten.count '<' < (expandLines lines).flatten.count '<' := by
    intro lines
    induction lines using blocks_induction with
    | nil => exact Or.inl expandLines_nil
    | plain line rest noHeader inductionHypothesis =>
        rw [expandLines_of_not_header noHeader]
        simp only [List.flatten_cons, List.count_append]
        rcases inductionHypothesis with same | more
        · exact Or.inl (by rw [same])
        · right
          omega
    | block line rest admonition isHeader inductionHypothesis =>
        right
        have gained := count_lt_count_html isHeader (takeBody rest).1
        have kept := count_takeBody rest
        have notFewer : (takeBody rest).2.flatten.count '<' ≤
            (expandLines (takeBody rest).2).flatten.count '<' := by
          rcases inductionHypothesis with same | more
          · rw [same]
          · exact Nat.le_of_lt more
        rw [expandLines_of_header isHeader, List.flatten_cons, List.count_append,
          List.flatten_cons, List.count_append]
        omega
  intro text
  unfold expand
  rcases onLines (lines text) with same | more
  · exact Or.inl (by rw [same, unlines_lines])
  · right
    have before := count_unlines (by decide : '<' ≠ '\n') (lines text)
    rw [unlines_lines] at before
    rw [before, count_unlines (by decide)]
    exact more

/-- A line of the result is a line that was there before, and no header, or HTML. -/
theorem cases_of_mem_expandLines {lines : List Text} {line : Text}
    (member : line ∈ expandLines lines) :
    line ∈ lines ∧ ofHeader? (stripReturn line).1 = none ∨ ∃ rest, line = '<' :: rest := by
  induction lines using blocks_induction with
  | nil => simp at member
  | plain first rest noHeader inductionHypothesis =>
      rw [expandLines_of_not_header noHeader, List.mem_cons] at member
      rcases member with rfl | inRest
      · exact Or.inl ⟨List.mem_cons_self, noHeader⟩
      · exact (inductionHypothesis inRest).imp_left fun found =>
          ⟨List.mem_cons_of_mem first found.1, found.2⟩
  | block first rest admonition isHeader inductionHypothesis =>
      rw [expandLines_of_header isHeader, List.mem_cons] at member
      rcases member with rfl | inRest
      · right
        unfold html
        exact ⟨_, rfl⟩
      · exact (inductionHypothesis inRest).imp_left fun found =>
          ⟨List.mem_cons_of_mem first (mem_of_mem_takeBody_rest found.1), found.2⟩

theorem expandLines_eq_self {lines : List Text}
    (noHeader : ∀ line ∈ lines, ofHeader? (stripReturn line).1 = none) :
    expandLines lines = lines := by
  induction lines with
  | nil => exact expandLines_nil
  | cons line rest inductionHypothesis =>
      rw [expandLines_of_not_header (noHeader line List.mem_cons_self), inductionHypothesis]
      exact fun other member => noHeader other (List.mem_cons_of_mem line member)

theorem expand_eq_self {text : Text}
    (noHeader : ∀ line ∈ lines text, ofHeader? (stripReturn line).1 = none) :
    expand text = text := by
  unfold expand
  rw [expandLines_eq_self noHeader, unlines_lines]

section

variable {c : Char} (foreign : isMarkupChar c = false)
include foreign

@[simp]
theorem mem_html {admonition : Admonition} :
    c ∈ admonition.html ↔
      c ∈ admonition.title ∨ c ∈ joinWith bodySeparator admonition.body := by
  have absentInName : c ∉ admonition.kind.name := by
    apply not_mem_of_isMarkupChar foreign
    cases admonition.kind <;> decide
  have opening : "<div class=\"admonition admonition-".toList.all isMarkupChar = true := by decide
  have beforeTitle : "\"><div class=\"admonition-title\">".toList.all isMarkupChar = true := by
    decide
  have afterTitle : "</div><div class=\"admonition-content\">".toList.all isMarkupChar = true := by
    decide
  have closing : "</div></div>".toList.all isMarkupChar = true := by decide
  unfold html
  rw [mem_append_markup foreign closing, List.mem_append, mem_append_markup foreign afterTitle,
    List.mem_append, mem_append_markup foreign beforeTitle, mem_markup_append foreign opening,
    or_iff_right absentInName]

private theorem not_mem_html {line : Text} {admonition : Admonition} (absent : c ∉ line)
    (isHeader : ofHeader? (stripReturn line).1 = some admonition) {body : List Text}
    (absentInBody : ∀ content ∈ body, c ∉ content) :
    c ∉ { admonition with body := body }.html := by
  obtain ⟨keyword, titlePart, ⟨_, _, blanks, _, shape⟩, _, title⟩ := ofHeader?_sound isHeader
  have absentInTitlePart : c ∉ titlePart := by
    intro member
    apply absent
    rw [stripReturn_split line, shape]
    simp [member]
  have absentInDefault : c ∉ admonition.kind.defaultTitle := by
    apply not_mem_of_isMarkupChar foreign
    cases admonition.kind <;> decide
  have absentInTitle : c ∉ admonition.title := by
    rw [title]
    split
    · exact absentInDefault
    · exact fun member => absentInTitlePart (mem_of_mem_trim member)
  have absentInJoined : c ∉ joinWith bodySeparator body :=
    not_mem_joinWith (not_mem_of_isMarkupChar foreign (by decide)) absentInBody
  rw [mem_html foreign, not_or]
  exact ⟨absentInTitle, absentInJoined⟩

theorem not_mem_of_mem_expandLines {lines : List Text} (absent : ∀ line ∈ lines, c ∉ line) :
    ∀ line ∈ expandLines lines, c ∉ line := by
  induction lines using blocks_induction with
  | nil => simp
  | plain first rest noHeader inductionHypothesis =>
      intro line member
      rw [expandLines_of_not_header noHeader, List.mem_cons] at member
      rcases member with rfl | inRest
      · exact absent line List.mem_cons_self
      · exact inductionHypothesis (fun other found => absent other (List.mem_cons_of_mem _ found))
          line inRest
  | block first rest admonition isHeader inductionHypothesis =>
      have absentInRest : ∀ other ∈ rest, c ∉ other :=
        fun other found => absent other (List.mem_cons_of_mem first found)
      have absentInFirst := absent first List.mem_cons_self
      have absentInReturn : c ∉ returnIf (stripReturn first).2 := by
        rw [stripReturn_split first, List.mem_append, not_or] at absentInFirst
        exact absentInFirst.2
      intro line member
      rw [expandLines_of_header isHeader, List.mem_cons] at member
      rcases member with rfl | inRest
      · rw [List.mem_append, not_or]
        exact ⟨not_mem_html foreign absentInFirst isHeader
          fun _ => not_mem_of_mem_takeBody absentInRest, absentInReturn⟩
      · exact inductionHypothesis
          (fun other found => absentInRest other (mem_of_mem_takeBody_rest found)) line inRest

end

/-- The lines of the result are the expanded lines. -/
@[simp]
theorem lines_expand (text : Text) : lines (expand text) = expandLines (lines text) := by
  unfold expand
  apply lines_unlines
  · exact not_mem_of_mem_expandLines (by decide) fun _ => lineFeed_not_mem_of_mem_lines
  · exact expandLines_ne_nil (lines_ne_nil text)

/-- No header is left: a line of the result is an old line that is none, or HTML. -/
theorem ofHeader?_eq_none_of_mem_lines_expand {text line : Text}
    (member : line ∈ lines (expand text)) : ofHeader? (stripReturn line).1 = none := by
  rw [lines_expand] at member
  rcases cases_of_mem_expandLines member with ⟨_, noHeader⟩ | ⟨rest, rfl⟩
  · exact noHeader
  · exact lasting_not_header.html rest

end MarkdownDialect.Admonition
