import MarkdownDialect.Proofs.Directive.InlinePattern

/-!
# Highlights told by their tags

Highlighting puts a tag in the place of each delimiter that it uses and leaves the rest as it is. If
a text holds no such tag before, the tags of the result are those of its highlights: no tag comes
about where the text meets one. So they alternate within each line, what stands between two of them
is the body of a highlight, and turning them back to delimiters gives the text again.
-/

namespace MarkdownDialect.Highlight

open Text

/-! ## Tags -/

/-- The tags around the body of a highlight. -/
inductive Tag where
  | opening
  | closing
  deriving DecidableEq, Repr

def Tag.text : Tag → Text
  | opening => "<mark>".toList
  | closing => "</mark>".toList

/-- A tag at the front of a text, and what follows it. -/
def readTag? (text : Text) : Option (Tag × Text) :=
  match Tag.opening.text.isPrefixOf? text with
  | some after => some (.opening, after)
  | none => (Tag.closing.text.isPrefixOf? text).map fun after => (.closing, after)

/-- The tags of a text in their order. -/
def tags (text : Text) : List Tag :=
  findMatches readTag? text

/-- A tag at the front of a text, as the delimiter in whose place it stands. -/
def readDelimiter? (text : Text) : Option (Text × Text) :=
  (readTag? text).map fun (_, after) => (delimiter, after)

/-- Turns every tag back to a delimiter. -/
def unmark (text : Text) : Text :=
  replaceMatches readDelimiter? text

/-- What stands between an opening tag at the front of a text and the next closing tag. -/
def readMarked? (text : Text) : Option (Text × Text) :=
  match readTag? text with
  | some (.opening, after) => breakOn Tag.closing.text after
  | _ => none

/-- The highlighted bodies of a text in their order. -/
def bodies (text : Text) : List Text :=
  findMatches readMarked? text

/-- Whether a text holds no tag of a highlight. -/
def IsUntagged (text : Text) : Prop :=
  ∀ tag : Tag, ¬ tag.text <:+: text

theorem IsUntagged.of_isInfix {piece text : Text} (untagged : IsUntagged text)
    (isInfix : piece <:+: text) : IsUntagged piece :=
  fun tag occurs => untagged tag (occurs.trans isInfix)

/-- A tag holds no angle bracket but the one that it begins with. -/
theorem Tag.exists_text_eq (tag : Tag) : ∃ name, tag.text = '<' :: name ∧ '<' ∉ name := by
  cases tag with
  | opening => exact ⟨"mark>".toList, rfl, by decide⟩
  | closing => exact ⟨"/mark>".toList, rfl, by decide⟩

theorem readTag?_eq_some_iff {text after : Text} {tag : Tag} :
    readTag? text = some (tag, after) ↔ text = tag.text ++ after := by
  constructor
  · intro reading
    unfold readTag? at reading
    split at reading
    · next following isOpening =>
        cases reading
        exact isPrefixOf?_eq_some_iff.mp isOpening
    · obtain ⟨following, isClosing, same⟩ := Option.map_eq_some_iff.mp reading
      cases same
      exact isPrefixOf?_eq_some_iff.mp isClosing
  · rintro rfl
    unfold readTag?
    cases tag with
    | opening => rw [isPrefixOf?_append]
    | closing =>
        have noOpening : Tag.opening.text.isPrefixOf? (Tag.closing.text ++ after) = none :=
          isPrefixOf?_append_eq_none (by decide) (by decide) after
        rw [noOpening, isPrefixOf?_append]
        rfl

@[simp]
theorem readTag?_text_append (tag : Tag) (after : Text) :
    readTag? (tag.text ++ after) = some (tag, after) :=
  readTag?_eq_some_iff.mpr rfl

theorem readTag?_eq_none_iff {text : Text} :
    readTag? text = none ↔ ∀ tag : Tag, ¬ tag.text <+: text := by
  rw [Option.eq_none_iff_forall_ne_some]
  constructor
  · rintro missing tag ⟨after, rfl⟩
    exact missing (tag, after) (readTag?_text_append tag after)
  · rintro missing ⟨tag, after⟩ reading
    exact missing tag ⟨after, (readTag?_eq_some_iff.mp reading).symm⟩

theorem advances_readTag? : Advances readTag? := by
  intro text tag after reading
  refine ⟨tag.text, ?_, readTag?_eq_some_iff.mp reading⟩
  cases tag <;> decide

@[simp]
theorem readDelimiter?_text_append (tag : Tag) (after : Text) :
    readDelimiter? (tag.text ++ after) = some (delimiter, after) := by
  rw [readDelimiter?, readTag?_text_append, Option.map_some]

theorem readDelimiter?_eq_none {text : Text} (noTag : readTag? text = none) :
    readDelimiter? text = none := by
  rw [readDelimiter?, noTag, Option.map_none]

private theorem advances_readDelimiter? : Advances readDelimiter? :=
  advances_readTag?.map fun _ => delimiter

theorem readMarked?_eq_none {text : Text} (noTag : readTag? text = none) :
    readMarked? text = none := by
  unfold readMarked?
  rw [noTag]

private theorem advances_readMarked? : Advances readMarked? := by
  intro text body after reading
  unfold readMarked? at reading
  split at reading
  · next following isOpening =>
      rw [readTag?_eq_some_iff.mp isOpening, breakOn_sound reading]
      exact ⟨Tag.opening.text ++ (body ++ Tag.closing.text),
        List.append_ne_nil_of_left_ne_nil (by decide) _, by simp only [List.append_assoc]⟩
  · contradiction

/-- No tag begins in a piece without tags that stands before another tag. -/
theorem readTag?_append_text {piece back : Text} (untagged : IsUntagged piece)
    (suffix : back <:+ piece) (nonempty : back ≠ []) (tag : Tag) (rest : Text) :
    readTag? (back ++ (tag.text ++ rest)) = none := by
  obtain ⟨name, isText, _⟩ := tag.exists_text_eq
  rw [readTag?_eq_none_iff, isText]
  intro other begins
  obtain ⟨otherName, isOther, single⟩ := other.exists_text_eq
  rw [isOther] at begins
  have inBack := isPrefix_of_isPrefix_append_cons single nonempty begins
  exact untagged other (isOther ▸ inBack.isInfix.trans suffix.isInfix)

/-! ## What highlighting does -/

/-- What can be the body of a highlight. -/
structure IsBody (body : Text) : Prop where
  nonempty : body ≠ []
  noEquals : ¬ ['='] <+: body
  noDelimiter : ¬ delimiter <:+: body
  noReturn : '\r' ∉ body
  noLineFeed : '\n' ∉ body

/-- `Marks old new` means that `new` is `old` with tags in the place of the delimiters around some
bodies. -/
inductive Marks : Text → Text → Prop
  | nil : Marks [] []
  | keep {old new : Text} (c : Char) : Marks old new → Marks (c :: old) (c :: new)
  | mark {old new body : Text} : IsBody body → Marks old new →
      Marks (delimiter ++ (body ++ (delimiter ++ old)))
        (Tag.opening.text ++ (body ++ (Tag.closing.text ++ new)))

theorem html_append (body rest : Text) :
    html body ++ rest = Tag.opening.text ++ (body ++ (Tag.closing.text ++ rest)) := by
  unfold html
  rw [List.append_assoc, List.append_assoc]
  rfl

private theorem exists_isBody_of_find? {text replacement after : Text} (single : '\n' ∉ text)
    (reading : find? text = some (replacement, after)) :
    ∃ body, IsBody body ∧ text = delimiter ++ (body ++ (delimiter ++ after)) ∧
      replacement = html body := by
  obtain ⟨first, rest, body, rfl, noEquals, firstNoReturn, found, rfl⟩ :=
    find?_eq_some_iff.mp reading
  obtain ⟨rfl, noReturn⟩ := readRest?_sound found
  have noDelimiterInRest : ¬ delimiter <:+: body :=
    not_isInfix_of_breakOn (by decide) (readRest?_eq_some_iff.mp found).1
  refine ⟨first :: body, ⟨List.cons_ne_nil first body, ?_, ?_, ?_, ?_⟩, rfl, rfl⟩
  · rintro ⟨others, split⟩
    exact noEquals (List.cons.inj split).1.symm
  · rw [List.infix_cons_iff, not_or]
    refine ⟨?_, noDelimiterInRest⟩
    rintro ⟨others, split⟩
    exact noEquals (List.cons.inj split).1.symm
  · exact List.not_mem_cons_of_ne_of_not_mem (Ne.symm firstNoReturn) noReturn
  · simp only [List.mem_cons, List.mem_append, not_or] at single ⊢
    exact ⟨single.2.2.1, single.2.2.2.1⟩

namespace Marks

variable {old new : Text}

private theorem append {older newer : Text} (first : Marks old new) (second : Marks older newer) :
    Marks (old ++ older) (new ++ newer) := by
  induction first with
  | nil => exact second
  | keep c rest inductionHypothesis => exact keep c inductionHypothesis
  | mark isBody rest inductionHypothesis =>
      simpa only [List.append_assoc] using mark isBody inductionHypothesis

private theorem marksUp (marks : Marks old new) : MarksUp old new := by
  induction marks with
  | nil => exact .nil
  | keep c rest inductionHypothesis => exact .keep c inductionHypothesis
  | @mark old new body isBody rest inductionHypothesis =>
      have nonempty : delimiter ++ (body ++ delimiter) ≠ [] :=
        List.append_ne_nil_of_left_ne_nil (by decide) _
      have noReturn : '\r' ∉ delimiter ++ (body ++ delimiter) :=
        List.not_mem_append (by decide) (List.not_mem_append isBody.noReturn (by decide))
      have marked := MarksUp.mark nonempty noReturn (isHtml_html body) inductionHypothesis
      rw [html_append] at marked
      simpa only [List.append_assoc] using marked

end Marks

theorem marks_expandLine {line : Text} (single : '\n' ∉ line) : Marks line (expandLine line) := by
  unfold expandLine
  induction line using match_induction advances with
  | nil => exact .nil
  | pass c rest missing inductionHypothesis =>
      rw [replaceMatches_of_none missing]
      exact .keep c (inductionHypothesis (List.not_mem_of_not_mem_cons single))
  | found text replacement after reading inductionHypothesis =>
      obtain ⟨body, isBody, rfl, rfl⟩ := exists_isBody_of_find? single reading
      simp only [List.mem_append, not_or] at single
      rw [replaceMatches_of_some advances reading, html_append]
      exact .mark isBody (inductionHypothesis single.2.2.2)

private theorem marks_unlines {pieces : List Text} (single : ∀ line ∈ pieces, '\n' ∉ line) :
    Marks (unlines pieces) (unlines (pieces.map expandLine)) := by
  induction pieces with
  | nil => exact .nil
  | cons line rest inductionHypothesis =>
      have first := marks_expandLine (single line List.mem_cons_self)
      have others := inductionHypothesis fun other member =>
        single other (List.mem_cons_of_mem line member)
      cases rest with
      | nil => simpa using first
      | cons next more =>
          have nonempty : next :: more ≠ [] := List.cons_ne_nil next more
          have mapped : (next :: more).map expandLine ≠ [] := List.map_eq_nil_iff.not.mpr nonempty
          rw [List.map_cons, unlines_cons nonempty, unlines_cons mapped]
          exact first.append (.keep '\n' others)

private theorem marks_expand (text : Text) : Marks text (expand text) := by
  have marks := marks_unlines fun line member => @lineFeed_not_mem_of_mem_lines text line member
  rw [unlines_lines] at marks
  rwa [expand_eq_onLines]

/-! ## Reading the tags -/

section Marked

variable {body : Text} (untagged : IsUntagged body) (rest : Text)

include untagged

private theorem tags_marked : tags (Tag.opening.text ++ (body ++ (Tag.closing.text ++ rest))) =
    .opening :: .closing :: tags rest := by
  have between : findMatches readTag? (body ++ (Tag.closing.text ++ rest)) =
      findMatches readTag? (Tag.closing.text ++ rest) :=
    findMatches_append fun _ suffix nonempty =>
      readTag?_append_text untagged suffix nonempty .closing rest
  unfold tags
  rw [findMatches_of_some advances_readTag? (readTag?_text_append .opening _), between,
    findMatches_of_some advances_readTag? (readTag?_text_append .closing rest)]

private theorem unmark_marked : unmark (Tag.opening.text ++ (body ++ (Tag.closing.text ++ rest))) =
    delimiter ++ (body ++ (delimiter ++ unmark rest)) := by
  have between : replaceMatches readDelimiter? (body ++ (Tag.closing.text ++ rest)) =
      body ++ replaceMatches readDelimiter? (Tag.closing.text ++ rest) :=
    replaceMatches_append fun _ suffix nonempty =>
      readDelimiter?_eq_none (readTag?_append_text untagged suffix nonempty .closing rest)
  unfold unmark
  rw [replaceMatches_of_some advances_readDelimiter? (readDelimiter?_text_append .opening _),
    between, replaceMatches_of_some advances_readDelimiter?
      (readDelimiter?_text_append .closing rest)]

private theorem bodies_marked : bodies (Tag.opening.text ++ (body ++ (Tag.closing.text ++ rest))) =
    body :: bodies rest := by
  obtain ⟨name, isText, single⟩ := Tag.closing.exists_text_eq
  have noClosing : ¬ '<' :: name <:+: body := isText ▸ untagged .closing
  have reading : readMarked? (Tag.opening.text ++ (body ++ (Tag.closing.text ++ rest))) =
      some (body, rest) := by
    simp only [readMarked?, readTag?_text_append]
    rw [isText]
    exact breakOn_of_not_isInfix single noClosing rest
  exact findMatches_of_some advances_readMarked? reading

end Marked

namespace Marks

variable {old new : Text}

theorem untagged_of_mark {body : Text}
    (untagged : IsUntagged (delimiter ++ (body ++ (delimiter ++ old)))) :
    IsUntagged body ∧ IsUntagged old := by
  constructor
  · exact untagged.of_isInfix ⟨delimiter, delimiter ++ old, by simp⟩
  · exact untagged.of_isInfix ⟨delimiter ++ (body ++ delimiter), [], by simp⟩

/-- No tag comes about where a character stays. -/
theorem readTag?_cons {c : Char} (marks : Marks old new) (untagged : IsUntagged (c :: old)) :
    readTag? (c :: new) = none := by
  rw [readTag?_eq_none_iff]
  rintro tag ⟨after, split⟩
  obtain ⟨name, isText, noBracket⟩ := tag.exists_text_eq
  rw [isText] at split
  obtain ⟨rfl, rfl⟩ := List.cons.inj split
  obtain ⟨rest, rfl, _⟩ := marks.marksUp.of_append noBracket
  exact untagged tag (isText ▸ ⟨[], rest, rfl⟩)

/-- Each highlight is opened and closed before the next one. -/
theorem exists_tags_eq (marks : Marks old new) (untagged : IsUntagged old) :
    ∃ count, tags new = (List.replicate count [Tag.opening, .closing]).flatten := by
  induction marks with
  | nil => exact ⟨0, rfl⟩
  | @keep old new c marks inductionHypothesis =>
      have rest := inductionHypothesis (untagged.of_isInfix (List.suffix_cons c old).isInfix)
      rwa [tags, findMatches_of_none (marks.readTag?_cons untagged)]
  | @mark old new body isBody marks inductionHypothesis =>
      obtain ⟨bodyUntagged, oldUntagged⟩ := untagged_of_mark untagged
      obtain ⟨count, rest⟩ := inductionHypothesis oldUntagged
      refine ⟨count + 1, ?_⟩
      rw [tags_marked bodyUntagged, rest, List.replicate_succ, List.flatten_cons]
      rfl

/-- What stands between the tags is the body of a highlight. -/
private theorem isBody_of_mem_bodies (marks : Marks old new) (untagged : IsUntagged old) :
    ∀ body ∈ bodies new, IsBody body := by
  induction marks with
  | nil => exact fun body member => absurd member List.not_mem_nil
  | @keep old new c marks inductionHypothesis =>
      have noMarked := readMarked?_eq_none (marks.readTag?_cons untagged)
      rw [bodies, findMatches_of_none noMarked]
      exact inductionHypothesis (untagged.of_isInfix (List.suffix_cons c old).isInfix)
  | mark isBody marks inductionHypothesis =>
      obtain ⟨bodyUntagged, oldUntagged⟩ := untagged_of_mark untagged
      rw [bodies_marked bodyUntagged, List.forall_mem_cons]
      exact ⟨isBody, inductionHypothesis oldUntagged⟩

/-- Turning the tags back gives the old text. -/
theorem unmark_eq (marks : Marks old new) (untagged : IsUntagged old) : unmark new = old := by
  induction marks with
  | nil => rfl
  | @keep old new c marks inductionHypothesis =>
      have noTag := readDelimiter?_eq_none (marks.readTag?_cons untagged)
      have rest := inductionHypothesis (untagged.of_isInfix (List.suffix_cons c old).isInfix)
      rw [unmark, replaceMatches_of_none noTag, ← unmark, rest]
  | mark isBody marks inductionHypothesis =>
      obtain ⟨bodyUntagged, oldUntagged⟩ := untagged_of_mark untagged
      rw [unmark_marked bodyUntagged, inductionHypothesis oldUntagged]

end Marks

/-! ## The tags of a highlighted text -/

/-- If a text holds no tags before, its highlights are opened and closed in turn within each line,
what is highlighted can be the body of a highlight, and turning the tags back gives the text. -/
theorem highlighting_loses_nothing {text : Text} (untagged : IsUntagged text) :
    (∀ line ∈ lines (expand text), ∃ count,
        tags line = (List.replicate count [Tag.opening, .closing]).flatten) ∧
      (∀ body ∈ bodies (expand text), IsBody body) ∧
      unmark (expand text) = text := by
  have marks := marks_expand text
  refine ⟨?_, marks.isBody_of_mem_bodies untagged, marks.unmark_eq untagged⟩
  intro line member
  rw [expand_eq_onLines, staysInLine_expandLine.lines_onLines, List.mem_map] at member
  obtain ⟨old, oldMember, rfl⟩ := member
  have marksLine := marks_expandLine (lineFeed_not_mem_of_mem_lines oldMember)
  exact marksLine.exists_tags_eq (untagged.of_isInfix (isInfix_of_mem_lines oldMember))

/-- Runs of equals signs, delimiters without partners and a part of a tag beside a highlight. -/
def sampleText : Text :=
  "</mark==a==> ===b===\r\n==c\n=== <mark==d= ==".toList

theorem highlighting_loses_nothing_at_sampleText :
    IsUntagged sampleText ∧
      (∀ line ∈ lines (expand sampleText), ∃ count,
        tags line = (List.replicate count [Tag.opening, .closing]).flatten) ∧
      (∀ body ∈ bodies (expand sampleText), IsBody body) ∧
      unmark (expand sampleText) = sampleText := by
  have untagged : IsUntagged sampleText := by
    intro tag
    cases tag <;> decide +kernel
  exact ⟨untagged, highlighting_loses_nothing untagged⟩

end MarkdownDialect.Highlight
