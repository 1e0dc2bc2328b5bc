import MarkdownDialect.Proofs.Heading.Element
import MarkdownDialect.Proofs.Heading.Slug

/-!
# Giving headings their ids

An id attribute is put behind the name of an opening tag and nothing else changes. The heading
elements of the result are those that were there before, with the attributes they were given: no
insertion opens an element, closes one or hides one.
-/

namespace MarkdownDialect.HeadingElement

open Text

/-! ## Insertions -/

def idAttribute (id : Text) : Text :=
  ' ' :: 'i' :: 'd' :: '=' :: '\x22' :: (id ++ ['\x22'])

/-- Whether an element is given an id. -/
def Element.ReceivesId (element : Element) : Prop :=
  element.level = element.closingLevel ∧ hasId element.attributes = false ∧
    idOf element.content ≠ []

instance (element : Element) : Decidable element.ReceivesId :=
  inferInstanceAs (Decidable (_ ∧ _ ∧ _))

theorem Element.newId_eq (element : Element) :
    element.newId = if element.ReceivesId then idAttribute (idOf element.content) else [] := by
  have opening : " id=\"".toList = [' ', 'i', 'd', '=', '\x22'] := rfl
  unfold newId
  dsimp only
  by_cases receives : element.ReceivesId
  · have parts := receives
    obtain ⟨sameLevel, noId, nonempty⟩ := parts
    rw [if_pos receives, if_neg (by simp [sameLevel, noId, nonempty]), opening]
    simp only [idAttribute, List.cons_append, List.nil_append]
  · rw [if_neg receives, if_pos]
    simp only [ReceivesId, not_and_or, Bool.not_eq_false, not_not] at receives
    rcases receives with different | hasOne | empty
    · simp [different]
    · simp [hasOne]
    · simp [empty]

/-- `Inserts old new` means that `new` is `old` with id attributes put behind the names of opening
heading tags. -/
inductive Inserts : Text → Text → Prop
  | nil : Inserts [] []
  | keep {old new : Text} (c : Char) :
      Inserts old new → Inserts (c :: old) (c :: new)
  | insert {old new id : Text} {level : Char} :
      isLevelDigit level = true → id ≠ [] → (∀ c ∈ id, isSlugChar c = true) →
      Inserts old new →
      Inserts ('<' :: 'h' :: level :: old) ('<' :: 'h' :: level :: (idAttribute id ++ new))

namespace Inserts

variable {old new : Text}

private theorem prepend (piece : Text) (inserts : Inserts old new) :
    Inserts (piece ++ old) (piece ++ new) := by
  induction piece with
  | nil => exact inserts
  | cons c rest inductionHypothesis => exact keep c inductionHypothesis

theorem of_cons {c : Char} (different : c ≠ '<') (inserts : Inserts old (c :: new)) :
    ∃ rest, old = c :: rest ∧ Inserts rest new := by
  generalize whole : c :: new = target at inserts
  cases inserts with
  | nil => simp at whole
  | keep d rest =>
      obtain ⟨rfl, rfl⟩ := List.cons.inj whole
      exact ⟨_, rfl, rest⟩
  | insert isDigit nonempty slugChars rest => exact absurd (List.cons.inj whole).1 different

/-- The characters of a tag's beginning, with the attribute that is put there. -/
theorem not_mem_insertion {level c : Char} {id : Text} (isDigit : isLevelDigit level = true)
    (slugChars : ∀ c ∈ id, isSlugChar c = true) (foreign : c = '<' ∨ c = '>') :
    c ∉ 'h' :: level :: idAttribute id := by
  intro member
  have noSlug : isSlugChar c = false := by
    rcases foreign with rfl | rfl <;> decide
  simp only [idAttribute, List.mem_cons, List.mem_append, List.not_mem_nil, or_false] at member
  rcases member with rfl | rfl | rfl | rfl | rfl | rfl | rfl | inId | rfl
  · simp at foreign
  · rcases foreign with rfl | rfl <;> exact absurd isDigit (by decide)
  · simp at foreign
  · simp at foreign
  · simp at foreign
  · simp at foreign
  · simp at foreign
  · rw [slugChars c inId] at noSlug
    exact absurd noSlug (by decide)
  · simp at foreign

/-- A piece that ends before a character lies behind any front without that character. -/
theorem split_of_not_mem {c : Char} {front back before after : Text}
    (split : front ++ back = before ++ c :: after) (absent : c ∉ front) :
    ∃ middle, before = front ++ middle ∧ back = middle ++ c :: after := by
  rcases List.append_eq_append_iff.mp split with
    ⟨middle, isBefore, isBack⟩ | ⟨middle, isFront, tail⟩
  · exact ⟨middle, isBefore, isBack⟩
  · cases middle with
    | nil => exact ⟨[], by simpa using isFront.symm, by simpa using tail.symm⟩
    | cons d others =>
        rw [List.cons_append, List.cons.injEq] at tail
        rw [isFront, ← tail.1] at absent
        exact absurd (List.mem_append_right before List.mem_cons_self) absent

/-- The end of a tag was there before. -/
private theorem of_append_bracket {front : Text} (noBracket : '>' ∉ front)
    (inserts : Inserts old (front ++ '>' :: new)) :
    ∃ oldFront rest, old = oldFront ++ '>' :: rest ∧ '>' ∉ oldFront ∧
      oldFront.head? = front.head? ∧ Inserts rest new := by
  generalize whole : front ++ '>' :: new = target at inserts
  induction inserts generalizing front with
  | nil => simp at whole
  | @keep older newer c rest inductionHypothesis =>
      cases front with
      | nil =>
          obtain ⟨rfl, rfl⟩ := List.cons.inj whole
          exact ⟨[], older, rfl, by simp, rfl, rest⟩
      | cons d others =>
          replace noBracket := List.ne_and_not_mem_of_not_mem_cons noBracket
          obtain ⟨rfl, tail⟩ := List.cons.inj whole
          obtain ⟨oldFront, back, rfl, stillNoBracket, _, insertsBack⟩ :=
            inductionHypothesis noBracket.2 tail
          exact ⟨d :: oldFront, back, rfl,
            List.not_mem_cons_of_ne_of_not_mem noBracket.1 stillNoBracket, rfl, insertsBack⟩
  | @insert older newer id level isDigit nonempty slugChars rest inductionHypothesis =>
      have noBracketBefore : '>' ∉ '<' :: 'h' :: level :: idAttribute id := by
        have noBracketThere := not_mem_insertion isDigit slugChars (.inr rfl)
        simpa using noBracketThere
      have split : '<' :: 'h' :: level :: idAttribute id ++ newer = front ++ '>' :: new := by
        simpa using whole.symm
      obtain ⟨middle, rfl, tail⟩ := split_of_not_mem split noBracketBefore
      have noBracketMiddle : '>' ∉ middle := fun member =>
        noBracket (List.mem_append_right _ member)
      obtain ⟨oldFront, back, rfl, stillNoBracket, _, insertsBack⟩ :=
        inductionHypothesis noBracketMiddle tail.symm
      refine ⟨'<' :: 'h' :: level :: oldFront, back, rfl, ?_, rfl, insertsBack⟩
      simp only [List.mem_cons, not_or] at noBracketBefore ⊢
      exact ⟨noBracketBefore.1, noBracketBefore.2.1, noBracketBefore.2.2.1, stillNoBracket⟩

/-- The beginning of a closing tag was there before. -/
private theorem of_append_closing {front : Text}
    (inserts : Inserts old (front ++ '<' :: '/' :: new)) :
    ∃ oldFront rest, old = oldFront ++ '<' :: '/' :: rest ∧ Inserts rest new := by
  generalize whole : front ++ '<' :: '/' :: new = target at inserts
  induction inserts generalizing front with
  | nil => simp at whole
  | @keep older newer c rest inductionHypothesis =>
      cases front with
      | nil =>
          obtain ⟨rfl, rfl⟩ := List.cons.inj whole
          obtain ⟨back, rfl, insertsBack⟩ := of_cons (by decide) rest
          exact ⟨[], back, rfl, insertsBack⟩
      | cons d others =>
          obtain ⟨rfl, tail⟩ := List.cons.inj whole
          obtain ⟨oldFront, back, rfl, insertsBack⟩ := inductionHypothesis tail
          exact ⟨d :: oldFront, back, rfl, insertsBack⟩
  | @insert older newer id level isDigit nonempty slugChars rest inductionHypothesis =>
      cases front with
      | nil =>
          rw [List.nil_append] at whole
          exact absurd (List.cons.inj (List.cons.inj whole).2).1 (by decide)
      | cons d others =>
          obtain ⟨rfl, tail⟩ := List.cons.inj whole
          have noBracket := not_mem_insertion isDigit slugChars (.inl rfl)
          have split : 'h' :: level :: idAttribute id ++ newer = others ++ '<' :: '/' :: new := by
            simpa using tail.symm
          obtain ⟨middle, rfl, back⟩ := split_of_not_mem split noBracket
          obtain ⟨oldFront, more, rfl, insertsBack⟩ := inductionHypothesis back.symm
          exact ⟨'<' :: 'h' :: level :: oldFront, more, rfl, insertsBack⟩

end Inserts

/-- An insertion does not open an element. -/
private theorem opensElement_of_inserts {c : Char} {old new : Text} (inserts : Inserts old new)
    (opens : OpensElement (c :: new)) : OpensElement (c :: old) := by
  obtain ⟨level, attributes, before, closingLevel, after, isDigit, ⟨noBracket, startsWithSpace⟩,
    isClosingDigit, shape⟩ := opens
  rw [List.cons.injEq] at shape
  obtain ⟨rfl, rfl⟩ := shape
  have levelDiffers : level ≠ '<' := by
    rintro rfl
    exact absurd isDigit (by decide)
  have closingDiffers : closingLevel ≠ '<' := by
    rintro rfl
    exact absurd isClosingDigit (by decide)
  obtain ⟨old, rfl, behindName⟩ := inserts.of_cons (by decide)
  obtain ⟨old, rfl, behindLevel⟩ := behindName.of_cons levelDiffers
  obtain ⟨oldAttributes, old, rfl, stillNoBracket, sameFirst, behindTag⟩ :=
    behindLevel.of_append_bracket noBracket
  obtain ⟨oldBefore, old, rfl, behindSlash⟩ := behindTag.of_append_closing
  obtain ⟨old, rfl, behindClosingName⟩ := behindSlash.of_cons (by decide)
  obtain ⟨old, rfl, behindClosingLevel⟩ := behindClosingName.of_cons closingDiffers
  obtain ⟨old, rfl, _⟩ := behindClosingLevel.of_cons (by decide)
  exact ⟨level, oldAttributes, oldBefore, closingLevel, old, isDigit,
    ⟨stillNoBracket, by rwa [sameFirst]⟩, isClosingDigit, rfl⟩

/-! ## The elements of the result -/

/-- The heading elements of a text, in their order. -/
def elements (html : Text) : List Element :=
  findMatches read? html

/-- The reader whose matches `injectIds` replaces. -/
def inject? (text : Text) : Option (Text × Text) :=
  (read? text).map fun (element, after) => (element.html element.newId, after)

theorem injectIds_eq (html : Text) : injectIds html = replaceMatches inject? html := rfl

theorem inject?_eq_some_iff {text replacement after : Text} :
    inject? text = some (replacement, after) ↔
      ∃ element, read? text = some (element, after) ∧
        element.html element.newId = replacement := by
  simp only [inject?, Option.map_eq_some_iff, Prod.mk.injEq, Prod.exists]
  constructor
  · intro ⟨element, following, reading, isReplacement, same⟩
    exact ⟨element, same ▸ reading, isReplacement⟩
  · intro ⟨element, reading, isReplacement⟩
    exact ⟨element, after, reading, isReplacement, rfl⟩

theorem advances_inject : Advances inject? := by
  intro text replacement after reading
  obtain ⟨element, elementReading, _⟩ := inject?_eq_some_iff.mp reading
  exact advances text element after elementReading

theorem isSlugChar_of_mem_idOf {c : Char} {content : Text} (member : c ∈ idOf content) :
    isSlugChar c = true :=
  isSlugChar_of_mem_slug member

namespace Element

/-- An element with the attributes it is given. -/
def withId (element : Element) : Element :=
  { element with attributes := element.newId ++ element.attributes }

@[simp]
theorem html_newId (element : Element) (after : Text) :
    element.html element.newId ++ after = element.withId.html [] ++ after := by
  simp only [html_append, withId, List.nil_append]

private theorem isAttributes_withId {element : Element}
    (isAttributes : IsAttributes element.attributes) :
    IsAttributes element.withId.attributes := by
  obtain ⟨noBracket, startsWithSpace⟩ := isAttributes
  rw [withId, newId_eq]
  by_cases receives : element.ReceivesId
  · rw [if_pos receives]
    constructor
    · intro member
      have notSlug : '>' ∉ idOf element.content := by
        intro inId
        exact absurd (isSlugChar_of_mem_idOf inId) (by decide)
      simp only [idAttribute, List.cons_append, List.append_assoc, List.nil_append,
        List.mem_cons, List.mem_append] at member
      simp [notSlug, noBracket] at member
    · intro c isFirst
      rw [idAttribute, List.cons_append, List.head?_cons, Option.some.injEq] at isFirst
      rw [← isFirst]
      decide
  · rw [if_neg receives]
    exact ⟨noBracket, startsWithSpace⟩

private theorem isValid_withId {element : Element} (valid : element.IsValid) :
    element.withId.IsValid where
  level := valid.level
  attributes := isAttributes_withId valid.attributes
  content := valid.content
  closingLevel := valid.closingLevel

private theorem inserts_html {element : Element} {old new : Text} (valid : element.IsValid)
    (inserts : Inserts old new) :
    Inserts (element.html [] ++ old) (element.html element.newId ++ new) := by
  have behindName : Inserts
      (element.attributes ++ '>' :: (element.content ++
        '<' :: '/' :: 'h' :: element.closingLevel :: '>' :: old))
      (element.attributes ++ '>' :: (element.content ++
        '<' :: '/' :: 'h' :: element.closingLevel :: '>' :: new)) := by
    have closing := inserts.prepend ['<', '/', 'h', element.closingLevel, '>']
    have content := (closing.prepend element.content).keep '>'
    exact content.prepend element.attributes
  rw [html_append, html_append, newId_eq, List.nil_append, List.append_assoc]
  by_cases receives : element.ReceivesId
  · rw [if_pos receives]
    apply Inserts.insert valid.level receives.2.2 _ behindName
    intro c member
    exact isSlugChar_of_mem_idOf member
  · rw [if_neg receives]
    exact behindName.prepend ['<', 'h', element.level]

end Element

private theorem inserts_injectIds (html : Text) : Inserts html (injectIds html) := by
  rw [injectIds_eq]
  induction html using match_induction advances_inject with
  | nil => exact Inserts.nil
  | pass c rest missing inductionHypothesis =>
      rw [replaceMatches_of_none missing]
      exact inductionHypothesis.keep c
  | found text replacement after reading inductionHypothesis =>
      rw [replaceMatches_of_some advances_inject reading]
      obtain ⟨element, elementReading, rfl⟩ := inject?_eq_some_iff.mp reading
      obtain ⟨rfl, valid⟩ := read?_eq_some_iff.mp elementReading
      exact Element.inserts_html valid inductionHypothesis

/-- The elements stay the same but for the attributes they are given. -/
theorem elements_injectIds (html : Text) :
    elements (injectIds html) = (elements html).map Element.withId := by
  rw [injectIds_eq]
  induction html using match_induction advances_inject with
  | nil => rfl
  | pass c rest missing inductionHypothesis =>
      have noElement : read? (c :: rest) = none := Option.map_eq_none_iff.mp missing
      have stillNone : read? (c :: replaceMatches inject? rest) = none := by
        rw [← Option.not_isSome_iff_eq_none, read?_isSome_iff] at noElement ⊢
        intro opens
        exact noElement (opensElement_of_inserts (inserts_injectIds rest) opens)
      rw [replaceMatches_of_none missing]
      simp only [elements] at inductionHypothesis ⊢
      rw [findMatches_of_none stillNone, findMatches_of_none noElement, inductionHypothesis]
  | found text replacement after reading inductionHypothesis =>
      rw [replaceMatches_of_some advances_inject reading]
      obtain ⟨element, elementReading, rfl⟩ := inject?_eq_some_iff.mp reading
      obtain ⟨_, valid⟩ := read?_eq_some_iff.mp elementReading
      have newReading : read? (element.html element.newId ++ replaceMatches inject? after) =
          some (element.withId, replaceMatches inject? after) :=
        read?_eq_some_iff.mpr ⟨element.html_newId _, Element.isValid_withId valid⟩
      simp only [elements] at inductionHypothesis ⊢
      rw [findMatches_of_some advances newReading, findMatches_of_some advances elementReading,
        inductionHypothesis, List.map_cons]

/-! ## What is inserted -/

theorem Element.exists_of_newId_ne_nil {element : Element} (isGiven : element.newId ≠ []) :
    ∃ id, element.newId = idAttribute id ∧ id ≠ [] ∧ (∀ c ∈ id, isIdChar c = true) ∧
      element.level = element.closingLevel ∧ hasId element.attributes = false := by
  rw [newId_eq] at isGiven ⊢
  by_cases receives : element.ReceivesId
  · rw [if_pos receives]
    obtain ⟨sameLevel, noId, nonempty⟩ := receives
    exact ⟨idOf element.content, rfl, nonempty, fun _ => isIdChar_of_mem_slug, sameLevel, noId⟩
  · exact absurd (if_neg receives) isGiven

/-- A text is cut at its heading elements. All that the ids change is what stands behind the names
of some opening tags: without it the pieces are the text that was there. -/
theorem injectIds_inserts_ids (html : Text) :
    ∃ pieces, Cut read? pieces html ∧
      pieces.flatMap (pieceText fun element => element.html []) = html ∧
      pieces.flatMap (pieceText fun element => element.html element.newId) = injectIds html ∧
      ∀ element, .inr element ∈ pieces → element.newId ≠ [] →
        ∃ id, element.newId = idAttribute id ∧ id ≠ [] ∧ (∀ c ∈ id, isIdChar c = true) ∧
          element.level = element.closingLevel ∧ hasId element.attributes = false := by
  obtain ⟨pieces, cut⟩ := exists_cut advances html
  have sound (text : Text) (element : Element) (after : Text)
      (reading : read? text = some (element, after)) : text = element.html [] ++ after :=
    (read?_eq_some_iff.mp reading).1
  have result : pieces.flatMap (pieceText fun element => element.html element.newId) =
      injectIds html :=
    cut.flatMap_eq_replaceMatches advances _
  exact ⟨pieces, cut, cut.flatMap_eq sound, result,
    fun element _ isGiven => element.exists_of_newId_ne_nil isGiven⟩

end MarkdownDialect.HeadingElement
