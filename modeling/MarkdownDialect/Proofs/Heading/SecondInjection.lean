import MarkdownDialect.Proofs.Heading.Injection

/-!
# Headings that have their ids

An element that was given an id calls for none any more, and an element that was given none still
calls for none. So the ids of a text are complete after one pass, however its heading tags are
nested, closed or left open.
-/

namespace MarkdownDialect.HeadingElement

open Text

/-- An id attribute is found in front of all others. -/
@[simp]
theorem hasId_idAttribute (id attributes : Text) : hasId (idAttribute id ++ attributes) = true := by
  have blank : isSpace ' ' = true := by decide
  have sign : isSpace '=' = false := by decide
  have starts : hasId.startsId ("id".toList ++ '=' :: '\x22' :: (id ++ '\x22' :: attributes)) =
      true := by
    rw [hasId.startsId, isPrefixOf?_append]
    simp [sign]
  have shape : idAttribute id ++ attributes =
      ' ' :: ("id".toList ++ '=' :: '\x22' :: (id ++ '\x22' :: attributes)) := by
    simp [idAttribute]
  rw [hasId, shape, hasId.afterSpace, starts, blank]
  simp

namespace Element

variable {element : Element}

theorem newId_eq_nil_iff : element.newId = [] ↔ ¬element.ReceivesId := by
  rw [newId_eq]
  by_cases receives : element.ReceivesId
  · simp [receives, idAttribute]
  · simp [receives]

theorem withId_eq_self_iff : element.withId = element ↔ ¬element.ReceivesId := by
  rw [← newId_eq_nil_iff]
  constructor
  · intro same
    have sameAttributes : element.newId ++ element.attributes = element.attributes :=
      congrArg attributes same
    simpa using sameAttributes
  · intro empty
    rw [withId, empty, List.nil_append]

/-- One id is enough. -/
@[simp]
theorem not_receivesId_withId (element : Element) : ¬element.withId.ReceivesId := by
  by_cases receives : element.ReceivesId
  · intro ⟨_, noId, _⟩
    rw [withId, newId_eq, if_pos receives, hasId_idAttribute] at noId
    exact absurd noId (by decide)
  · rwa [withId_eq_self_iff.mpr receives]

end Element

/-- A text stays as it is exactly if none of its elements is to be given an id. -/
theorem injectIds_eq_self_iff {html : Text} :
    injectIds html = html ↔ ∀ element ∈ elements html, ¬element.ReceivesId := by
  constructor
  · intro unchanged element member
    have sameElements : (elements html).map Element.withId = (elements html).map id := by
      rw [← elements_injectIds, unchanged, List.map_id]
    rw [← Element.withId_eq_self_iff]
    exact List.map_inj_left.mp sameElements element member
  · rw [injectIds_eq]
    induction html using match_induction advances_inject with
    | nil => simp
    | pass c rest missing inductionHypothesis =>
        have noElement : read? (c :: rest) = none := Option.map_eq_none_iff.mp missing
        intro settled
        rw [elements, findMatches_of_none noElement] at settled
        rw [replaceMatches_of_none missing, inductionHypothesis settled]
    | found text replacement after reading inductionHypothesis =>
        intro settled
        obtain ⟨element, elementReading, rfl⟩ := inject?_eq_some_iff.mp reading
        rw [elements, findMatches_of_some advances elementReading, List.forall_mem_cons] at settled
        obtain ⟨split, _⟩ := read?_eq_some_iff.mp elementReading
        rw [replaceMatches_of_some advances_inject reading, inductionHypothesis settled.2,
          Element.newId_eq_nil_iff.mpr settled.1, ← split]

/-- Giving headings their ids a second time changes nothing. -/
theorem injectIds_injectIds (html : Text) : injectIds (injectIds html) = injectIds html := by
  rw [injectIds_eq_self_iff, elements_injectIds, List.forall_mem_map]
  intro element _
  exact element.not_receivesId_withId

end MarkdownDialect.HeadingElement
