import MarkdownDialect.Proofs.Heading.Attribute
import MarkdownDialect.Proofs.Heading.Toc
import MarkdownDialect.Proofs.Text.Unescape

/-!
# Headings printed as they were read

A heading of a source that is printed with its escaped text is read back as one element, and the id
that this element is given is the id to which the table of contents links: escaping and decoding
undo each other, and the two ways to the slug agree.
-/

namespace MarkdownDialect

open Text HeadingElement

namespace HeadingElement

theorem read?_eq_none_of_ne {c : Char} (different : c ≠ '<') (rest : Text) :
    read? (c :: rest) = none := by
  have opening : "<h".toList.isPrefixOf? (c :: rest) = none := by
    simp [List.isPrefixOf?, different.symm]
  rw [read?, opening]
  rfl

theorem elements_cons {c : Char} (different : c ≠ '<') (rest : Text) :
    elements (c :: rest) = elements rest :=
  findMatches_of_none (read?_eq_none_of_ne different rest)

theorem elements_html_append {element : Element} (valid : element.IsValid) (rest : Text) :
    elements (element.html [] ++ rest) = element :: elements rest :=
  findMatches_of_some advances (read?_eq_some_iff.mpr ⟨rfl, valid⟩)

theorem injectIds_cons {c : Char} (different : c ≠ '<') (rest : Text) :
    injectIds (c :: rest) = c :: injectIds rest := by
  have noElement : inject? (c :: rest) = none :=
    Option.map_eq_none_iff.mpr (read?_eq_none_of_ne different rest)
  exact replaceMatches_of_none noElement

theorem injectIds_html_append {element : Element} (valid : element.IsValid) (rest : Text) :
    injectIds (element.html [] ++ rest) = element.html element.newId ++ injectIds rest := by
  have reading : inject? (element.html [] ++ rest) = some (element.html element.newId, rest) :=
    inject?_eq_some_iff.mpr ⟨element, read?_eq_some_iff.mpr ⟨rfl, valid⟩, rfl⟩
  exact replaceMatches_of_some advances_inject reading

/-- A text without tags has none to lose. -/
private theorem stripTags_of_not_mem {text : Text} (noTag : '<' ∉ text) :
    stripTags text = text := by
  apply replaceMatches_inert
  apply inert_of_not_mem _ noTag
  intro c rest different
  unfold dropTag?
  split
  · next others split => exact absurd (List.cons.inj split).1 different
  · rfl

/-- The id of an escaped text is the slug of the text. -/
private theorem idOf_escape (text : Text) : idOf (escape text) = slug (trim text) := by
  rw [idOf, stripTags_of_not_mem (not_mem_escape (by decide) text), unescape_escape]

end HeadingElement

namespace Heading

/-- A heading as an element on a line of its own. -/
def html (heading : Heading) (attributes : Text) : Text :=
  "<h".toList ++ ofNat heading.level ++ attributes ++ ">".toList ++ escape heading.text
    ++ "</h".toList ++ ofNat heading.level ++ ">\n".toList

/-- The element that a heading is printed as. -/
def element (heading : Heading) : Element where
  level := heading.level.digitChar
  attributes := []
  content := escape heading.text
  closingLevel := heading.level.digitChar

/-- What makes a heading print as one element that its own id fits. -/
structure IsPrintable (heading : Heading) : Prop extends heading.IsExtracted where
  trimmed : trim heading.text = heading.text

private theorem isPrintable_of_mem_extract {source : Text} {heading : Heading}
    (member : heading ∈ extract source) : heading.IsPrintable where
  toIsExtracted := isExtracted_of_mem_extract member
  trimmed := trim_text_of_mem_extract member

namespace IsPrintable

variable {heading : Heading}

theorem html_eq (printable : heading.IsPrintable) (attributes : Text) :
    heading.html attributes = heading.element.html attributes ++ ['\n'] := by
  have oneDigit : ofNat heading.level = [heading.level.digitChar] :=
    Nat.toDigits_of_lt_base (Nat.lt_of_le_of_lt printable.level_le (by decide))
  have opening : "<h".toList = ['<', 'h'] := rfl
  have closing : "</h".toList = ['<', '/', 'h'] := rfl
  have tagEnd : ">".toList = ['>'] := rfl
  have lineEnd : ">\n".toList = ['>', '\n'] := rfl
  unfold html Element.html Element.openingTag element
  simp only [oneDigit, opening, closing, tagEnd, lineEnd]
  simp only [List.append_assoc, List.cons_append, List.nil_append]

theorem isValid_element (printable : heading.IsPrintable) : heading.element.IsValid := by
  have digits : ∀ level ≤ 6, 1 ≤ level → isLevelDigit level.digitChar = true := by
    decide
  have isDigit := digits heading.level printable.level_le printable.level_pos
  refine ⟨isDigit, ⟨List.not_mem_nil, by simp [element]⟩, ?_, isDigit⟩
  intro before level after _ split
  have noTag : '<' ∉ escape heading.text := not_mem_escape (by decide) heading.text
  apply noTag
  have whole : escape heading.text = before ++ '<' :: '/' :: 'h' :: level :: '>' :: after := split
  rw [whole]
  exact List.mem_append_right before List.mem_cons_self

theorem idOf_content (printable : heading.IsPrintable) :
    idOf heading.element.content = heading.id := by
  rw [element, idOf_escape, printable.trimmed, printable.id_eq]

theorem receivesId_element (printable : heading.IsPrintable) : heading.element.ReceivesId := by
  refine ⟨rfl, rfl, ?_⟩
  rw [printable.idOf_content, printable.id_eq]
  exact slug_ne_nil printable.text_ne_nil

private theorem newId_element (printable : heading.IsPrintable) :
    heading.element.newId = idAttribute heading.id := by
  rw [Element.newId_eq, if_pos printable.receivesId_element, printable.idOf_content]

private theorem finalId?_element (printable : heading.IsPrintable) :
    heading.element.finalId? = some heading.id := by
  rw [Element.finalId?, if_pos printable.receivesId_element, printable.idOf_content]

end IsPrintable

variable {headings : List Heading}

private theorem elements_html (printable : ∀ heading ∈ headings, heading.IsPrintable) :
    elements (headings.flatMap fun heading => heading.html []) = headings.map element := by
  induction headings with
  | nil => rfl
  | cons heading others inductionHypothesis =>
      rw [List.forall_mem_cons] at printable
      rw [List.flatMap_cons, printable.1.html_eq, List.append_assoc, List.singleton_append,
        elements_html_append printable.1.isValid_element, elements_cons (by decide),
        inductionHypothesis printable.2, List.map_cons]

/-- Every heading that is printed without attributes is given its id, and nothing else changes. -/
private theorem injectIds_html (printable : ∀ heading ∈ headings, heading.IsPrintable) :
    injectIds (headings.flatMap fun heading => heading.html []) =
      headings.flatMap fun heading => heading.html (idAttribute heading.id) := by
  induction headings with
  | nil => rfl
  | cons heading others inductionHypothesis =>
      rw [List.forall_mem_cons] at printable
      rw [List.flatMap_cons, List.flatMap_cons, printable.1.html_eq, printable.1.html_eq,
        List.append_assoc, List.append_assoc, List.singleton_append, List.singleton_append,
        injectIds_html_append printable.1.isValid_element, injectIds_cons (by decide),
        inductionHypothesis printable.2, printable.1.newId_element]

end Heading

/-- The headings of a source, printed as elements with their escaped texts, are given exactly the
ids to which the table of all headings links: one for each, in their order. -/
theorem links_name_ids_of_printed_headings (source : Text) :
    let headings := Heading.extract source
    let html := headings.flatMap fun heading => heading.html []
    (injectIds html = headings.flatMap fun heading => heading.html (idAttribute heading.id)) ∧
      (elements (injectIds html)).map (fun element => idValue? element.attributes) =
        headings.map (fun heading => some heading.id) ∧
      Toc.targets (Toc.build headings 1) = headings.map Heading.id := by
  intro headings html
  have printable : ∀ heading ∈ headings, heading.IsPrintable :=
    fun _ member => Heading.isPrintable_of_mem_extract member
  refine ⟨Heading.injectIds_html printable, ?_, Toc.targets_build_extract source⟩
  rw [elements_injectIds, Heading.elements_html printable, List.map_map, List.map_map]
  apply List.map_congr_left
  intro heading member
  have carried := Element.idValue?_withId heading.element
  rw [(printable heading member).finalId?_element] at carried
  exact carried

end MarkdownDialect
