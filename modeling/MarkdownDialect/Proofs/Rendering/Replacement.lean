import MarkdownDialect.Proofs.Rendering.Centering
import MarkdownDialect.Rendering

/-!
# Elements that are replaced

Images and diagrams are replaced whole, links by their tags. Nothing else changes, and whether
links open in a new tab changes their tags only.
-/

namespace MarkdownDialect

open Text CommonMark

theorem Gathering.replace_cons (options : RenderOptions) (state : Gathering) (event : Event)
    (rest : List Event) :
    state.replace options (event :: rest) =
      (state.step options event).1 ++ (state.step options event).2.replace options rest :=
  rfl

/-! ## Nothing to replace -/

def entersDiagram : Event → Bool
  | .enter (.codeBlock (some info)) => Diagram.isDiagram info
  | _ => false

private theorem Gathering.outside_of_plain {options : RenderOptions} {event : Event}
    (sameTab : options.linksInNewTab = false) (noImage : event.entersImage = false)
    (noDiagram : entersDiagram event = false) : outside options event = ([event], nothing) := by
  unfold outside
  split
  · simp [Event.entersImage] at noImage
  · have notDiagram : Diagram.isDiagram _ = false := noDiagram
    rw [notDiagram]
    rfl
  · rw [sameTab]
    rfl
  · rw [sameTab]
    rfl
  · rfl

private theorem replaceElements_of_plain {options : RenderOptions} {events : List Event}
    (sameTab : options.linksInNewTab = false)
    (noImage : ∀ event ∈ events, event.entersImage = false)
    (noDiagram : ∀ event ∈ events, entersDiagram event = false) :
    replaceElements options events = events := by
  induction events with
  | nil => rfl
  | cons event rest inductionHypothesis =>
      obtain ⟨notImage, restNoImage⟩ := List.forall_mem_cons.mp noImage
      obtain ⟨notDiagram, restNoDiagram⟩ := List.forall_mem_cons.mp noDiagram
      have restSame := inductionHypothesis restNoImage restNoDiagram
      have stays : Gathering.nothing.step options event = ([event], .nothing) :=
        Gathering.outside_of_plain sameTab notImage notDiagram
      unfold replaceElements at restSame ⊢
      rw [Gathering.replace_cons, stays, restSame]
      rfl

/-- Without images, diagrams and centred headings, and with links in the same tab, documents are
printed as plain Markdown is. -/
theorem rendering_extends_markdown {options : RenderOptions} {events : List Event}
    (sameTab : options.linksInNewTab = false)
    (noImage : ∀ event ∈ events, event.entersImage = false)
    (noDiagram : ∀ event ∈ events, entersDiagram event = false)
    (inlineHeadings : ∀ heading ∈ Centering.headings events,
      ∀ event ∈ heading.2, event.isInline = true)
    (notCentered : ∀ heading ∈ Centering.headings events,
      Heading.isCentered heading.1 (heading.2.flatMap Centering.textOf) = false) :
    htmlOf (centerHeadings (replaceElements options events)) = htmlOf events := by
  have areUncentered : ∀ heading ∈ Centering.headings events, Centering.IsUncentered heading :=
    fun heading member => ⟨inlineHeadings heading member, notCentered heading member⟩
  rw [replaceElements_of_plain sameTab noImage noDiagram]
  exact Centering.print_go rfl none events (List.forall_mem_nil _) noImage areUncentered

theorem rendering_extends_markdown_at_split_texts :
    let events := eventsOf (elementsOf "# a < _b_ -> c\n> [d](<e>)\n\n```rust\nf".toList)
    htmlOf (centerHeadings (replaceElements { linksInNewTab := false } events)) = htmlOf events :=
  rendering_extends_markdown rfl (by decide +kernel) (by decide +kernel) (by decide +kernel)
    (by decide +kernel)

/-! ## What is left of images and diagrams -/

namespace Gathering

def IsHtml (event : Event) : Prop :=
  ∃ html, event = htmlEvent html

private theorem IsHtml.entersImage {event : Event} (isHtml : IsHtml event) :
    event.entersImage = false := by
  obtain ⟨html, rfl⟩ := isHtml
  rfl

theorem isHtml_withinImage (destination title : Text) (depth : Nat) (alt : Text) (event : Event) :
    ∀ left ∈ (withinImage destination title depth alt event).1, IsHtml left := by
  unfold withinImage
  split
  · exact List.forall_mem_nil _
  · split
    · exact List.forall_mem_singleton.mpr ⟨_, rfl⟩
    · exact List.forall_mem_nil _
  · exact List.forall_mem_nil _
  · exact List.forall_mem_nil _
  · exact List.forall_mem_nil _

theorem isHtml_withinDiagram (code : Text) (event : Event) :
    ∀ left ∈ (withinDiagram code event).1, IsHtml left := by
  unfold withinDiagram
  split
  · exact List.forall_mem_singleton.mpr ⟨_, rfl⟩
  · exact List.forall_mem_nil _
  · exact List.forall_mem_nil _

theorem isHtml_finish (state : Gathering) : ∀ left ∈ state.finish, IsHtml left := by
  cases state with
  | nothing => exact List.forall_mem_nil _
  | image destination title depth alt => exact List.forall_mem_singleton.mpr ⟨_, rfl⟩
  | diagram code => exact List.forall_mem_singleton.mpr ⟨_, rfl⟩

private theorem entersImage_outside (options : RenderOptions) (event : Event) :
    ∀ left ∈ (outside options event).1, left.entersImage = false := by
  unfold outside
  split
  · exact List.forall_mem_nil _
  · split
    · exact List.forall_mem_nil _
    · exact List.forall_mem_singleton.mpr rfl
  · split
    · exact List.forall_mem_singleton.mpr rfl
    · exact List.forall_mem_singleton.mpr rfl
  · split
    · exact List.forall_mem_singleton.mpr rfl
    · exact List.forall_mem_singleton.mpr rfl
  · next noImage _ _ _ =>
      have staysOutside : event.entersImage = false := by
        unfold Event.entersImage
        split
        · exact absurd rfl (noImage _ _)
        · rfl
      exact List.forall_mem_singleton.mpr staysOutside

/-- No image is left to the printer. -/
theorem entersImage_replace (options : RenderOptions) (state : Gathering) (events : List Event) :
    ∀ left ∈ state.replace options events, left.entersImage = false := by
  induction events generalizing state with
  | nil => exact fun left member => (isHtml_finish state left member).entersImage
  | cons event rest inductionHypothesis =>
      have inStep : ∀ left ∈ (state.step options event).1, left.entersImage = false := by
        cases state with
        | nothing => exact entersImage_outside options event
        | image destination title depth alt =>
            exact fun left member => (isHtml_withinImage _ _ _ _ event left member).entersImage
        | diagram code =>
            exact fun left member => (isHtml_withinDiagram code event left member).entersImage
      rw [replace_cons]
      exact List.forall_mem_append.mpr ⟨inStep, inductionHypothesis _⟩

end Gathering

/-! ## Links in a new tab -/

/-- An event with the tags of links as they are asked for. -/
def withLinks (newTab : Bool) (event : Event) : Event :=
  match newTab, event with
  | true, .enter (.link _ destination title) => Gathering.htmlEvent (newTabTag destination title)
  | true, .leave (.link _ _ _) => Gathering.htmlEvent "</a>".toList
  | _, _ => event

@[simp]
theorem withLinks_same (event : Event) : withLinks false event = event := rfl

@[simp]
theorem map_withLinks_same (events : List Event) : events.map (withLinks false) = events :=
  List.map_id' events

section

variable (newTab : Bool)

@[simp]
theorem withLinks_leaf (inner : Leaf) : withLinks newTab (.leaf inner) = .leaf inner := by
  cases newTab with
  | _ => rfl

@[simp]
theorem withLinks_enter_heading (level : Nat) :
    withLinks newTab (.enter (.heading level)) = .enter (.heading level) := by
  cases newTab with
  | _ => rfl

@[simp]
theorem withLinks_leave_heading (level : Nat) :
    withLinks newTab (.leave (.heading level)) = .leave (.heading level) := by
  cases newTab with
  | _ => rfl

/-- Nothing but raw HTML comes about. -/
theorem eq_of_withLinks_eq {event other : Event} (same : withLinks newTab event = other)
    (notHtml : ∀ html, .leaf (.html html) ≠ other) : event = other := by
  unfold withLinks at same
  split at same
  · exact absurd same (notHtml _)
  · exact absurd same (notHtml _)
  · exact same

end

namespace Gathering

theorem map_withLinks_of_isHtml (newTab : Bool) {events : List Event}
    (areHtml : ∀ event ∈ events, IsHtml event) : events.map (withLinks newTab) = events := by
  have fixed : ∀ event ∈ events, withLinks newTab event = id event := by
    intro event member
    obtain ⟨html, rfl⟩ := areHtml event member
    exact withLinks_leaf newTab _
  rw [List.map_congr_left fixed, List.map_id]

/-- The tab of links decides on their tags and on nothing else. -/
private theorem outside_eq_map (options : RenderOptions) (event : Event) :
    outside options event =
      ((outside { linksInNewTab := false } event).1.map (withLinks options.linksInNewTab),
        (outside { linksInNewTab := false } event).2) := by
  obtain ⟨newTab, headingIds, tocTitle⟩ := options
  cases newTab with
  | false =>
      rw [map_withLinks_same]
      rfl
  | true =>
      cases event with
      | enter tag =>
          cases tag with
          | codeBlock info =>
              cases info with
              | none => rfl
              | some info =>
                  unfold outside
                  by_cases isDiagram : Diagram.isDiagram info = true
                  · simp only [isDiagram, if_true, List.map_nil]
                  · simp only [isDiagram, Bool.false_eq_true, if_false, List.map_cons,
                      List.map_nil, withLinks]
          | _ => rfl
      | leave tag =>
          cases tag with
          | _ => rfl
      | leaf inner => rfl

private theorem step_eq_map (options : RenderOptions) (state : Gathering) (event : Event) :
    state.step options event =
      ((state.step { linksInNewTab := false } event).1.map (withLinks options.linksInNewTab),
        (state.step { linksInNewTab := false } event).2) := by
  cases state with
  | nothing => exact outside_eq_map options event
  | image destination title depth alt =>
      unfold step
      rw [map_withLinks_of_isHtml _ (isHtml_withinImage _ _ _ _ event)]
  | diagram code =>
      unfold step
      rw [map_withLinks_of_isHtml _ (isHtml_withinDiagram code event)]

theorem replace_eq_map (options : RenderOptions) (state : Gathering) (events : List Event) :
    state.replace options events =
      (state.replace { linksInNewTab := false } events).map
        (withLinks options.linksInNewTab) := by
  induction events generalizing state with
  | nil => exact (map_withLinks_of_isHtml _ (isHtml_finish state)).symm
  | cons event rest inductionHypothesis =>
      rw [replace_cons, replace_cons, step_eq_map, List.map_append, inductionHypothesis]

end Gathering

end MarkdownDialect
