import MarkdownDialect.Proofs.Heading.Attribute
import MarkdownDialect.Proofs.Heading.Toc

/-!
# Where the links of a table of contents lead

The table is made from the lines of the source, the ids from the rendered headings. A link leads to
a heading exactly if both readings of the heading have the same slug.
-/

namespace MarkdownDialect

open Text HeadingElement

/-- The HTML of a document before its headings are given ids. -/
def filledHtml (palette : Palette) (options : RenderOptions) (source : Text) : Text :=
  TocMarker.fill (Toc.navigation options.tocTitle (Heading.extract source))
    (renderFragment options (expandDirectives palette source))

private theorem ids_render (palette : Palette) {options : RenderOptions} (source : Text)
    (givesIds : options.headingIds = true) :
    ids (render palette options source) =
      (elements (filledHtml palette options source)).filterMap Element.finalId? := by
  have isInjected : render palette options source =
      injectIds (filledHtml palette options source) := by
    rw [render, completeHtml, if_pos givesIds, filledHtml]
  rw [isInjected, ids_injectIds]

/-- Every link of the table leads to a heading exactly if, for every heading of the source, an
element is rendered that gets its id: because its text has the same slug, or because it carries
that id from the beginning. -/
theorem links_resolve_iff (palette : Palette) (options : RenderOptions) (source : Text)
    (givesIds : options.headingIds = true) :
    (∀ target ∈ Toc.targets (tableOfContents options source 1),
        target ∈ ids (render palette options source)) ↔
      ∀ heading ∈ Heading.extract source,
        ∃ element ∈ elements (filledHtml palette options source),
          element.ReceivesId ∧ idOf element.content = slug heading.text ∨
            ¬element.ReceivesId ∧ idValue? element.attributes = some (slug heading.text) := by
  have carries : ∀ (element : Element) (id : Text), element.finalId? = some id ↔
      element.ReceivesId ∧ idOf element.content = id ∨
        ¬element.ReceivesId ∧ idValue? element.attributes = some id := by
    intro element id
    by_cases receives : element.ReceivesId
    · simp [Element.finalId?, receives]
    · simp [Element.finalId?, receives]
  have resolves : ∀ target, target ∈ ids (render palette options source) ↔
      ∃ element ∈ elements (filledHtml palette options source),
        element.finalId? = some target := by
    intro target
    rw [ids_render palette source givesIds, List.mem_filterMap]
  rw [Toc.targets_tableOfContents, List.forall_mem_map]
  constructor
  · intro allResolve heading member
    have isExtracted := Heading.isExtracted_of_mem_extract member
    obtain ⟨element, isElement, isFinal⟩ := (resolves heading.id).mp (allResolve heading member)
    rw [isExtracted.id_eq, carries] at isFinal
    exact ⟨element, isElement, isFinal⟩
  · intro allRendered heading member
    have isExtracted := Heading.isExtracted_of_mem_extract member
    obtain ⟨element, isElement, hasSlug⟩ := allRendered heading member
    rw [← carries, ← isExtracted.id_eq] at hasSlug
    exact (resolves heading.id).mpr ⟨element, isElement, hasSlug⟩

theorem links_resolve_at_centered_heading :
    ({} : RenderOptions).headingIds = true ∧
      ∀ target ∈ Toc.targets (tableOfContents {} "# -> A & B <-".toList 1),
        target ∈ ids (render .standard {} "# -> A & B <-".toList) :=
  ⟨rfl, (links_resolve_iff .standard {} "# -> A & B <-".toList rfl).mpr (by decide +kernel)⟩

/-- The underscores of emphasis are part of the slug in the table only. -/
theorem links_miss_emphasized_heading :
    ¬ ∀ (palette : Palette) (options : RenderOptions) (source : Text),
      options.headingIds = true →
        ∀ target ∈ Toc.targets (tableOfContents options source 1),
          target ∈ ids (render palette options source) := by
  intro allResolve
  exact absurd (allResolve .standard {} "# _a_".toList rfl) (by decide +kernel)

end MarkdownDialect
