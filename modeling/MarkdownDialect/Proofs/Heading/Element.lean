import MarkdownDialect.Heading.Identifier
import MarkdownDialect.Proofs.Text.Occurrence
import MarkdownDialect.Proofs.Text.Replacement

/-!
# Reading heading elements

A heading element reaches from an opening tag to the next closing tag of any heading. It is read
exactly where one is written, whatever comes after it.
-/

namespace MarkdownDialect.HeadingElement

open Text

/-! ## The parts of an element -/

/-- What may stand between the name of a tag and its end. -/
def IsAttributes (attributes : Text) : Prop :=
  '>' ∉ attributes ∧ ∀ c, attributes.head? = some c → isSpace c = true

/-- Whether no closing heading tag is written in a text. -/
def HasNoClosing (text : Text) : Prop :=
  ∀ before level after, isLevelDigit level = true →
    text ≠ before ++ '<' :: '/' :: 'h' :: level :: '>' :: after

theorem readAttributes?_eq_some_iff {text attributes after : Text} :
    readAttributes? text = some (attributes, after) ↔
      text = attributes ++ '>' :: after ∧ IsAttributes attributes := by
  cases text with
  | nil =>
      constructor
      · intro reading
        simp [readAttributes?] at reading
      · intro ⟨split, _⟩
        simp at split
  | cons c rest =>
      rw [readAttributes?]
      by_cases closes : c = '>'
      · rw [if_pos closes, closes]
        constructor
        · intro reading
          rw [Option.some.injEq, Prod.mk.injEq] at reading
          obtain ⟨rfl, rfl⟩ := reading
          exact ⟨rfl, List.not_mem_nil, by simp⟩
        · intro ⟨split, noEnd, _⟩
          cases attributes with
          | nil =>
              rw [List.nil_append, List.cons.injEq] at split
              rw [split.2]
          | cons d others =>
              rw [List.cons_append, List.cons.injEq] at split
              exact absurd (split.1 ▸ List.mem_cons_self) noEnd
      · rw [if_neg closes]
        by_cases space : isSpace c = true
        · rw [if_pos space, breakOn_singleton_eq_some_iff]
          constructor
          · intro ⟨split, noEnd⟩
            refine ⟨split, noEnd, ?_⟩
            intro d isFirst
            cases attributes with
            | nil => simp at isFirst
            | cons e others =>
                rw [List.cons_append, List.cons.injEq] at split
                rw [← Option.some.inj isFirst, ← split.1]
                exact space
          · intro ⟨split, noEnd, _⟩
            exact ⟨split, noEnd⟩
        · rw [if_neg space]
          constructor
          · intro reading
            simp at reading
          · intro ⟨split, _, startsWithSpace⟩
            cases attributes with
            | nil => exact absurd (List.cons.inj split).1 closes
            | cons d others =>
                rw [List.cons_append, List.cons.injEq] at split
                exact absurd (split.1 ▸ startsWithSpace d rfl) space

theorem readClosing?_eq_some_iff {text after : Text} {level : Char} :
    readClosing? text = some (level, after) ↔
      text = '<' :: '/' :: 'h' :: level :: '>' :: after ∧ isLevelDigit level = true := by
  simp only [readClosing?, Option.bind_eq_bind, Option.bind_eq_some_iff, isPrefixOf?_eq_some_iff]
  constructor
  · intro ⟨rest, shape, reading⟩
    split at reading
    · next digit others =>
        split at reading
        · next isDigit =>
            rw [Option.pure_def, Option.some.injEq, Prod.mk.injEq] at reading
            obtain ⟨rfl, rfl⟩ := reading
            exact ⟨shape, isDigit⟩
        · simp at reading
    · simp at reading
  · intro ⟨shape, isDigit⟩
    refine ⟨level :: '>' :: after, shape, ?_⟩
    simp [isDigit]

/-- No closing tag begins in a text that has none and ends where one begins. -/
theorem readClosing?_eq_none {c : Char} {text : Text} (rest : Text)
    (noClosing : HasNoClosing (c :: text)) : readClosing? (c :: (text ++ '<' :: rest)) = none := by
  rw [Option.eq_none_iff_forall_ne_some]
  intro ⟨level, after⟩ reading
  obtain ⟨shape, isDigit⟩ := readClosing?_eq_some_iff.mp reading
  match text, shape with
  | [], shape => simp at shape
  | [_], shape => simp at shape
  | [_, _], shape =>
      simp only [List.cons_append, List.nil_append, List.cons.injEq] at shape
      rw [← shape.2.2.2.1] at isDigit
      exact absurd isDigit (by decide)
  | [_, _, _], shape => simp at shape
  | slash :: letter :: digit :: bracket :: more, shape =>
      simp only [List.cons_append, List.cons.injEq] at shape
      obtain ⟨rfl, rfl, rfl, rfl, rfl, _⟩ := shape
      exact noClosing [] digit more isDigit rfl

theorem HasNoClosing.of_cons {c : Char} {text : Text} (noClosing : HasNoClosing (c :: text)) :
    HasNoClosing text := by
  intro before level after isDigit split
  apply noClosing (c :: before) level after isDigit
  rw [split, List.cons_append]

theorem readContent?_complete {content after : Text} {level : Char}
    (isDigit : isLevelDigit level = true) (noClosing : HasNoClosing content) :
    readContent? (content ++ '<' :: '/' :: 'h' :: level :: '>' :: after) =
      some (content, level, after) := by
  induction content with
  | nil =>
      have closing := readClosing?_eq_some_iff.mpr
        ⟨(rfl : '<' :: '/' :: 'h' :: level :: '>' :: after = _), isDigit⟩
      rw [List.nil_append, readContent?, closing]
  | cons c rest inductionHypothesis =>
      have notYet := readClosing?_eq_none ('/' :: 'h' :: level :: '>' :: after) noClosing
      rw [List.cons_append, readContent?, notYet, inductionHypothesis noClosing.of_cons]
      rfl

theorem readContent?_sound {text content after : Text} {level : Char}
    (reading : readContent? text = some (content, level, after)) :
    text = content ++ '<' :: '/' :: 'h' :: level :: '>' :: after ∧ isLevelDigit level = true ∧
      HasNoClosing content := by
  induction text generalizing content with
  | nil => simp [readContent?] at reading
  | cons c rest inductionHypothesis =>
      rw [readContent?] at reading
      cases closing : readClosing? (c :: rest) with
      | some found =>
          obtain ⟨digit, following⟩ := found
          obtain ⟨shape, isDigit⟩ := readClosing?_eq_some_iff.mp closing
          simp only [closing, Option.some.injEq, Prod.mk.injEq] at reading
          obtain ⟨rfl, rfl, rfl⟩ := reading
          refine ⟨shape, isDigit, ?_⟩
          intro before level after _ split
          simp at split
      | none =>
          simp only [closing, Option.map_eq_some_iff, Prod.mk.injEq, Prod.exists] at reading
          obtain ⟨shorter, digit, following, inRest, rfl, sameLevel, sameAfter⟩ := reading
          subst sameLevel sameAfter
          obtain ⟨split, isDigit, noClosing⟩ := inductionHypothesis inRest
          refine ⟨by rw [split, List.cons_append], isDigit, ?_⟩
          intro before level after isLevel written
          cases before with
          | nil =>
              -- a closing tag at the front would have been read
              rw [List.nil_append, List.cons.injEq] at written
              have whole : c :: rest = '<' :: '/' :: 'h' :: level :: '>' ::
                  (after ++ '<' :: '/' :: 'h' :: digit :: '>' :: following) := by
                rw [split, written.1, written.2]
                simp
              have early := readClosing?_eq_some_iff.mpr ⟨whole, isLevel⟩
              rw [closing] at early
              exact absurd early (by simp)
          | cons d others =>
              rw [List.cons_append, List.cons.injEq] at written
              exact noClosing others level after isLevel written.2

theorem readContent?_eq_some_iff {text content after : Text} {level : Char} :
    readContent? text = some (content, level, after) ↔
      text = content ++ '<' :: '/' :: 'h' :: level :: '>' :: after ∧ isLevelDigit level = true ∧
        HasNoClosing content := by
  constructor
  · exact readContent?_sound
  · intro ⟨split, isDigit, noClosing⟩
    rw [split]
    exact readContent?_complete isDigit noClosing

/-- Wherever a closing heading tag is written, there is a content before it. -/
private theorem readContent?_isSome (before after : Text) {level : Char}
    (isDigit : isLevelDigit level = true) :
    (readContent? (before ++ '<' :: '/' :: 'h' :: level :: '>' :: after)).isSome = true := by
  induction before with
  | nil =>
      have closing := readClosing?_eq_some_iff.mpr
        ⟨(rfl : '<' :: '/' :: 'h' :: level :: '>' :: after = _), isDigit⟩
      rw [List.nil_append, readContent?, closing]
      rfl
  | cons c rest inductionHypothesis =>
      rw [List.cons_append, readContent?]
      cases readClosing? (c :: (rest ++ '<' :: '/' :: 'h' :: level :: '>' :: after)) with
      | some found => rfl
      | none => simpa using inductionHypothesis

/-! ## The whole element -/

namespace Element

structure IsValid (element : Element) : Prop where
  level : isLevelDigit element.level = true
  attributes : IsAttributes element.attributes
  content : HasNoClosing element.content
  closingLevel : isLevelDigit element.closingLevel = true

theorem html_append (element : Element) (insertion after : Text) :
    element.html insertion ++ after =
      '<' :: 'h' :: element.level :: (insertion ++ element.attributes ++ '>' ::
        (element.content ++ '<' :: '/' :: 'h' :: element.closingLevel :: '>' :: after)) := by
  have opening : "<h".toList = ['<', 'h'] := rfl
  have closing : "</h".toList = ['<', '/', 'h'] := rfl
  simp only [html, openingTag, opening, closing, List.append_assoc, List.cons_append,
    List.nil_append]

end Element

/-- An element is read exactly where it is written. -/
theorem read?_eq_some_iff {text after : Text} {element : Element} :
    read? text = some (element, after) ↔ text = element.html [] ++ after ∧ element.IsValid := by
  have opening : "<h".toList = ['<', 'h'] := rfl
  rw [Element.html_append]
  simp only [read?, Option.bind_eq_bind, Option.bind_eq_some_iff, isPrefixOf?_eq_some_iff, opening]
  constructor
  · intro ⟨rest, shape, reading⟩
    cases rest with
    | nil => simp at reading
    | cons level others =>
        dsimp only at reading
        split at reading
        · next isDigit =>
            simp only [Option.bind_eq_some_iff, Option.pure_def, Option.some.injEq,
              Prod.mk.injEq, Prod.exists] at reading
            obtain ⟨attributes, inner, attributesReading, content, closingLevel, following,
              contentReading, rfl, rfl⟩ := reading
            obtain ⟨rfl, isAttributes⟩ := readAttributes?_eq_some_iff.mp attributesReading
            obtain ⟨rfl, isClosingDigit, noClosing⟩ := readContent?_eq_some_iff.mp contentReading
            exact ⟨shape, isDigit, isAttributes, noClosing, isClosingDigit⟩
        · simp at reading
  · intro ⟨shape, valid⟩
    refine ⟨_, shape, ?_⟩
    have attributesReading := readAttributes?_eq_some_iff.mpr
      ⟨(rfl : element.attributes ++ '>' :: (element.content ++ '<' :: '/' :: 'h' ::
        element.closingLevel :: '>' :: after) = _), valid.attributes⟩
    have contentReading := readContent?_eq_some_iff.mpr
      ⟨(rfl : element.content ++ '<' :: '/' :: 'h' :: element.closingLevel :: '>' :: after = _),
        valid.closingLevel, valid.content⟩
    simp only [List.nil_append, valid.level, if_true, attributesReading, Option.bind_some,
      contentReading, Option.pure_def]

/-- Text in which an element can be read, of whatever kind. -/
def OpensElement (text : Text) : Prop :=
  ∃ level attributes before closingLevel after, isLevelDigit level = true ∧
    IsAttributes attributes ∧ isLevelDigit closingLevel = true ∧
    text = '<' :: 'h' :: level :: (attributes ++ '>' ::
      (before ++ '<' :: '/' :: 'h' :: closingLevel :: '>' :: after))

theorem read?_isSome_iff {text : Text} : (read? text).isSome = true ↔ OpensElement text := by
  constructor
  · intro found
    obtain ⟨⟨element, after⟩, reading⟩ := Option.isSome_iff_exists.mp found
    obtain ⟨rfl, valid⟩ := read?_eq_some_iff.mp reading
    refine ⟨element.level, element.attributes, element.content, element.closingLevel, after,
      valid.level, valid.attributes, valid.closingLevel, ?_⟩
    rw [Element.html_append, List.nil_append]
  · intro ⟨level, attributes, before, closingLevel, after, isDigit, isAttributes, isClosingDigit,
      shape⟩
    obtain ⟨⟨content, digit, following⟩, contentReading⟩ :=
      Option.isSome_iff_exists.mp (readContent?_isSome before after isClosingDigit)
    obtain ⟨split, isLevel, noClosing⟩ := readContent?_eq_some_iff.mp contentReading
    have valid : Element.IsValid ⟨level, attributes, content, digit⟩ :=
      ⟨isDigit, isAttributes, noClosing, isLevel⟩
    have whole : text = Element.html ⟨level, attributes, content, digit⟩ [] ++ following := by
      rw [Element.html_append, shape, split, List.nil_append]
    rw [read?_eq_some_iff.mpr ⟨whole, valid⟩]
    rfl

theorem advances : Advances read? := by
  intro text element after reading
  obtain ⟨rfl, _⟩ := read?_eq_some_iff.mp reading
  refine ⟨element.html [], ?_, rfl⟩
  intro empty
  have shape := element.html_append [] []
  rw [empty] at shape
  simp at shape

end MarkdownDialect.HeadingElement
