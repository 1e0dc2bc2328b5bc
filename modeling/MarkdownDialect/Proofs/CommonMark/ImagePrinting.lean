import MarkdownDialect.Proofs.CommonMark.Address
import MarkdownDialect.Proofs.CommonMark.Forest
import MarkdownDialect.Proofs.CommonMark.Printing
import MarkdownDialect.Proofs.Text.Number

/-!
# Printing images

An image is printed as one tag, with everything that stands in its description as the value of
`alt`: the elements within it leave no tags, a break is a space. So the printer of a document is
within an image exactly where the document is.
-/

namespace MarkdownDialect.CommonMark.Printer

open Text

/-! ## Descriptions -/

/-- What an event adds to the description of an image, before it is escaped. -/
def added (printer : Printer) : Event → Text
  | .leaf (.text content) | .leaf (.code content) | .leaf (.html content) => content
  | .leaf .softBreak | .leaf .hardBreak | .leaf .rule => [' ']
  | .leaf (.footnoteReference label) => ['['] ++ ofNat (printer.footnoteNumber label) ++ [']']
  | .leaf (.taskMarker true) => "[x]".toList
  | .leaf (.taskMarker false) => "[ ]".toList
  | .enter _ | .leave _ => []

/-- The description that consists of some events. -/
def describe (printer : Printer) : List Event → Text
  | [] => []
  | event :: rest => printer.added event ++ (printer.next event).describe rest

@[simp]
theorem describe_append (printer : Printer) (first second : List Event) :
    printer.describe (first ++ second) =
      printer.describe first ++ (printer.after first).describe second := by
  induction first generalizing printer with
  | nil => rfl
  | cons event rest inductionHypothesis =>
      rw [List.cons_append, describe, describe, inductionHypothesis, after_cons, List.append_assoc]

/-! ## Within an image -/

theorem escapeContent_eq_self {text : Text} (plain : ∀ c ∈ ['&', '<', '>', '\x22'], c ∉ text) :
    escapeContent text = text := by
  have stays : ∀ c ∈ text, escapeContent [c] = [c] :=
    fun c member => escapeContent_singleton fun special => plain c special member
  rw [← flatMap_escapeContent, List.flatMap_congr stays, List.flatMap_singleton']

private theorem escapeContent_footnote (n : Nat) :
    escapeContent (['['] ++ ofNat n ++ [']']) = ['['] ++ ofNat n ++ [']'] := by
  apply escapeContent_eq_self
  intro c special
  have noDigit : ∀ c ∈ ['&', '<', '>', '\x22'],
      c.isDigit = false ∧ c ∉ ['['] ∧ c ∉ [']'] := by
    rw [List.forall_mem_cons, List.forall_mem_cons, List.forall_mem_cons,
      List.forall_mem_singleton]
    decide
  obtain ⟨notDigit, notOpening, notClosing⟩ := noDigit c special
  rw [List.mem_append, List.mem_append, not_or, not_or]
  exact ⟨⟨notOpening, not_mem_ofNat notDigit n⟩, notClosing⟩

section

variable {printer : Printer} {image : OpenImage} (within : printer.image = some image)
include within

private theorem eventText_leaf_within (inner : Leaf) :
    printer.eventText (.leaf inner) = escapeContent (printer.added (.leaf inner)) := by
  have described : printer.eventText (.leaf inner) = printer.descriptionText inner := by
    unfold eventText
    rw [within]
    rfl
  rw [described]
  cases inner with
  | footnoteReference label => exact (escapeContent_footnote _).symm
  | taskMarker checked =>
      cases checked with
      | _ => rfl
  | _ => rfl

private theorem image_next_leaf_within (inner : Leaf) :
    (printer.next (.leaf inner)).image = some image := by
  cases inner with
  | footnoteReference label => exact (printer.image_withFootnote label).trans within
  | _ => exact within

private theorem eventText_enter_within (tag : Tag) : printer.eventText (.enter tag) = [] := by
  unfold eventText
  rw [within]
  rfl

private theorem image_next_enter_within (tag : Tag) :
    (printer.next (.enter tag)).image = some { image with depth := image.depth + 1 } := by
  unfold next afterEvent
  rw [within]

end

section

variable {printer : Printer} {depth : Nat} {title : Text}

private theorem eventText_leave_within (within : printer.image = some ⟨depth + 1, title⟩)
    (tag : Tag) :
    printer.eventText (.leave tag) = [] := by
  unfold eventText
  rw [within]
  rfl

private theorem image_next_leave_within (within : printer.image = some ⟨depth + 1, title⟩)
    (tag : Tag) :
    (printer.next (.leave tag)).image = some ⟨depth, title⟩ := by
  unfold next afterEvent
  rw [within]
  rfl

/-- Within an image the events of a forest are printed as a description, and the printer stays
within the image. -/
theorem print_eventsOf_within (within : printer.image = some ⟨depth, title⟩)
    (forest : List Element) :
    printer.print (eventsOf forest) = escapeContent (printer.describe (eventsOf forest)) ∧
      (printer.after (eventsOf forest)).image = some ⟨depth, title⟩ := by
  induction forest using forest_induction generalizing printer depth with
  | nil => exact ⟨rfl, within⟩
  | leaf inner others inductionHypothesis =>
      obtain ⟨printed, stays⟩ := inductionHypothesis (image_next_leaf_within within inner)
      rw [eventsOf_leaf_cons, print_cons, describe, escapeContent_append,
        eventText_leaf_within within, printed]
      exact ⟨rfl, stays⟩
  | node tag children others childrenHypothesis othersHypothesis =>
      obtain ⟨printedChildren, staysInner⟩ :=
        childrenHypothesis (image_next_enter_within within tag)
      obtain ⟨printedOthers, stays⟩ :=
        othersHypothesis (image_next_leave_within staysInner tag)
      rw [eventsOf_node_cons, print_cons, describe, print_append, describe_append, print_cons,
        describe, escapeContent_append, escapeContent_append, escapeContent_append,
        eventText_enter_within within, eventText_leave_within staysInner, printedChildren,
        printedOthers, after_cons, after_append, after_cons]
      exact ⟨rfl, stays⟩

end

/-! ## Images and what is around them -/

private theorem eventText_leave_outermost {printer : Printer} {title : Text}
    (within : printer.image = some ⟨0, title⟩) (tag : Tag) :
    printer.eventText (.leave tag) = titleAttribute title ++ "\" />".toList := by
  unfold eventText
  rw [within]
  exact if_pos rfl

theorem image_next_enter_image {printer : Printer} (outside : printer.image = none)
    (destination title : Text) :
    (printer.next (.enter (.image destination title))).image = some ⟨0, title⟩ := by
  unfold next afterEvent
  rw [outside]
  rfl

private theorem image_next_leave_outermost {printer : Printer} {title : Text}
    (within : printer.image = some ⟨0, title⟩) (tag : Tag) :
    (printer.next (.leave tag)).image = none := by
  unfold next afterEvent
  rw [within]
  rfl

/-- The description of an image with the given events in it. -/
def descriptionOf (printer : Printer) (destination title : Text) (description : List Element) :
    Text :=
  (printer.next (.enter (.image destination title))).describe (eventsOf description)

/-- The tag that the plain printer prints for an image. -/
def imageTag (printer : Printer) (destination title : Text) (description : List Element) : Text :=
  printer.enterText (.image destination title) ++
    (escapeContent (printer.descriptionOf destination title description) ++
      (titleAttribute title ++ "\" />".toList))

theorem print_image {printer : Printer} (outside : printer.image = none)
    (destination title : Text) (description : List Element) :
    printer.print (Element.node (.image destination title) description).events =
      printer.imageTag destination title description := by
  obtain ⟨printed, stays⟩ :=
    print_eventsOf_within (image_next_enter_image outside destination title) description
  have closed : ((printer.next (.enter (.image destination title))).after
      (eventsOf description)).print [.leave (.image destination title)] =
        titleAttribute title ++ "\" />".toList := by
    rw [print_cons, eventText_leave_outermost stays, print, List.append_nil]
  rw [Element.events, print_cons, print_append, closed, eventText_enter outside, printed]
  rfl

/-- A forest leaves the printer outside of images. -/
private theorem image_after_eventsOf {printer : Printer} (outside : printer.image = none)
    (forest : List Element) : (printer.after (eventsOf forest)).image = none := by
  induction forest using forest_induction generalizing printer with
  | nil => exact outside
  | leaf inner others inductionHypothesis =>
      rw [eventsOf_leaf_cons, after_cons]
      exact inductionHypothesis (image_next outside rfl)
  | node tag children others childrenHypothesis othersHypothesis =>
      rw [eventsOf_node_cons, after_cons, after_append, after_cons]
      apply othersHypothesis
      by_cases entersImage : (Event.enter tag).entersImage = true
      · cases tag with
        | image destination title =>
            have entered := image_next_enter_image outside destination title
            exact image_next_leave_outermost (print_eventsOf_within entered children).2 _
        | _ => contradiction
      · have staysOutside := image_next outside (Bool.eq_false_iff.mpr entersImage)
        exact image_next (childrenHypothesis staysOutside) rfl

/-- Where no image is open, the printer is outside of images. -/
theorem image_after_of_opens {printer : Printer} (outside : printer.image = none)
    {opened : List Tag} {events : List Event} (opens : Opens opened events)
    (noImage : ∀ tag ∈ opened, (Event.enter tag).entersImage = false) :
    (printer.after events).image = none := by
  induction opened generalizing events with
  | nil =>
      obtain ⟨forest, rfl⟩ := opens
      exact image_after_eventsOf outside forest
  | cons tag opened inductionHypothesis =>
      obtain ⟨front, forest, rfl, opensFront⟩ := opens
      obtain ⟨notImage, noneAround⟩ := List.forall_mem_cons.mp noImage
      rw [after_append, after_cons]
      exact image_after_eventsOf
        (image_next (inductionHypothesis opensFront noneAround) notImage) forest

/-- Raw HTML outside of images is printed as it is. -/
theorem isInfix_print {printer : Printer} (outside : printer.image = none) {html : Text}
    {events : List Event} (noImage : ∀ event ∈ events, event.entersImage = false)
    (member : .leaf (.html html) ∈ events) : html <:+: printer.print events := by
  obtain ⟨before, after, rfl⟩ := List.append_of_mem member
  have noImageBefore := (List.forall_mem_append.mp noImage).1
  have printed : (printer.after before).eventText (.leaf (.html html)) = html :=
    eventText_leaf (image_after outside noImageBefore) _
  rw [print_append, print_cons, printed]
  exact ⟨_, _, List.append_assoc _ _ _⟩

end MarkdownDialect.CommonMark.Printer
