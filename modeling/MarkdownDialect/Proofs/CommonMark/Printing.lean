import MarkdownDialect.CommonMark.Html

/-!
# Printing one event after the other

What is printed for an event depends on the events before it only through the printer. Only blocks
look at the place in the line, so within a line two printers that differ in nothing else print the
same.
-/

namespace MarkdownDialect.CommonMark

open Text

/-! ## Kinds of events -/

/-- The elements that stand within a line of text. -/
def Tag.isInline : Tag → Bool
  | .emphasis | .strong | .strikethrough | .link _ _ _ | .image _ _ => true
  | _ => false

def Leaf.isInline : Leaf → Bool
  | .rule => false
  | _ => true

def Event.isInline : Event → Bool
  | .enter tag | .leave tag => tag.isInline
  | .leaf inner => inner.isInline

def Event.entersImage : Event → Bool
  | .enter (.image _ _) => true
  | _ => false

namespace Printer

/-! ## Sequences of events -/

/-- Where a printer stands after a sequence of events. -/
def after (printer : Printer) (events : List Event) : Printer :=
  events.foldl next printer

@[simp]
theorem after_cons (printer : Printer) (event : Event) (rest : List Event) :
    printer.after (event :: rest) = (printer.next event).after rest := rfl

@[simp]
theorem after_append (printer : Printer) (first second : List Event) :
    printer.after (first ++ second) = (printer.after first).after second :=
  List.foldl_append

@[simp]
theorem print_cons (printer : Printer) (event : Event) (rest : List Event) :
    printer.print (event :: rest) = printer.eventText event ++ (printer.next event).print rest :=
  rfl

@[simp]
theorem print_append (printer : Printer) (first second : List Event) :
    printer.print (first ++ second) =
      printer.print first ++ (printer.after first).print second := by
  induction first generalizing printer with
  | nil => rfl
  | cons event rest inductionHypothesis =>
      rw [List.cons_append, print_cons, print_cons, inductionHypothesis, after_cons,
        List.append_assoc]

/-! ## Outside of images -/

section

variable {printer : Printer} (outside : printer.image = none)
include outside

theorem eventText_enter (tag : Tag) : printer.eventText (.enter tag) = printer.enterText tag := by
  unfold eventText
  rw [outside]
  rfl

theorem eventText_leave (tag : Tag) : printer.eventText (.leave tag) = printer.leaveText tag := by
  unfold eventText
  rw [outside]

theorem eventText_leaf (inner : Leaf) :
    printer.eventText (.leaf inner) = printer.leafText inner := by
  unfold eventText
  rw [outside]
  rfl

end

@[simp]
theorem image_withFootnote (printer : Printer) (label : Text) :
    (printer.withFootnote label).image = printer.image := by
  unfold withFootnote
  split
  · rfl
  · rfl

/-- An event that enters no image leaves the printer outside of images. -/
theorem image_next {printer : Printer} {event : Event} (outside : printer.image = none)
    (noImage : event.entersImage = false) : (printer.next event).image = none := by
  have footnoteStays (label : Text) : (printer.withFootnote label).image = none :=
    (printer.image_withFootnote label).trans outside
  unfold next afterEvent
  cases event with
  | enter tag =>
      rw [outside]
      cases tag with
      | image destination title => simp [Event.entersImage] at noImage
      | footnote label => exact footnoteStays label
      | _ => exact outside
  | leave tag =>
      rw [outside]
      cases tag with
      | _ => exact outside
  | leaf inner =>
      cases inner with
      | footnoteReference label => exact footnoteStays label
      | _ => exact outside

theorem image_after {printer : Printer} {events : List Event} (outside : printer.image = none)
    (noImage : ∀ event ∈ events, event.entersImage = false) :
    (printer.after events).image = none := by
  induction events generalizing printer with
  | nil => exact outside
  | cons event rest inductionHypothesis =>
      rw [after_cons]
      apply inductionHypothesis
      · exact image_next outside (noImage event List.mem_cons_self)
      · exact fun other member => noImage other (List.mem_cons_of_mem event member)

/-! ## Texts -/

/-- A text is printed alike in the line and in the description of an image. -/
@[simp]
theorem eventText_text (printer : Printer) (content : Text) :
    printer.eventText (.leaf (.text content)) = escapeContent content :=
  ite_self (escapeContent content)

@[simp]
theorem escapeContent_append (first second : Text) :
    escapeContent (first ++ second) = escapeContent first ++ escapeContent second :=
  List.flatMap_append

/-! ## The place in the line -/

/-- Two printers that differ in nothing but their place in the line. -/
def SameButPlace (first second : Printer) : Prop :=
  ∃ place, second = { first with atLineStart := place }

theorem SameButPlace.refl (printer : Printer) : SameButPlace printer printer :=
  ⟨printer.atLineStart, rfl⟩

variable {first second third : Printer}

theorem SameButPlace.symm (same : SameButPlace first second) : SameButPlace second first := by
  obtain ⟨place, rfl⟩ := same
  exact ⟨first.atLineStart, rfl⟩

theorem SameButPlace.trans (same : SameButPlace first second)
    (alsoSame : SameButPlace second third) : SameButPlace first third := by
  obtain ⟨place, rfl⟩ := same
  obtain ⟨otherPlace, rfl⟩ := alsoSame
  exact ⟨otherPlace, rfl⟩

/-- A text changes nothing but the place. -/
theorem sameButPlace_next_text (printer : Printer) (content : Text) :
    SameButPlace printer (printer.next (.leaf (.text content))) :=
  ⟨printer.startsLine (.leaf (.text content)), rfl⟩

private theorem withFootnote_withPlace (printer : Printer) (place : Bool) (label : Text) :
    withFootnote { printer with atLineStart := place } label =
      { printer.withFootnote label with atLineStart := place } := by
  unfold withFootnote
  split
  · rfl
  · rfl

private theorem afterEvent_withPlace (printer : Printer) (place : Bool) (event : Event) :
    afterEvent { printer with atLineStart := place } event =
      { printer.afterEvent event with atLineStart := place } := by
  obtain ⟨atLineStart, footnotes, columns, inTableHead, column, image⟩ := printer
  cases event with
  | enter tag =>
      cases image with
      | some image => rfl
      | none =>
          cases tag with
          | footnote label => exact withFootnote_withPlace _ place label
          | _ => rfl
  | leave tag =>
      cases image with
      | none =>
          cases tag with
          | _ => rfl
      | some image =>
          unfold afterEvent
          by_cases isOuter : image.depth = 0
          · simp only [isOuter, if_true]
          · simp only [isOuter, if_false]
  | leaf inner =>
      cases inner with
      | footnoteReference label => exact withFootnote_withPlace _ place label
      | _ => rfl

/-- An event does not look at the place in the line in order to say what comes after it. -/
theorem SameButPlace.next (same : SameButPlace first second) (event : Event) :
    SameButPlace (first.next event) (second.next event) := by
  obtain ⟨place, rfl⟩ := same
  refine ⟨startsLine { first with atLineStart := place } event, ?_⟩
  unfold Printer.next
  rw [afterEvent_withPlace]

theorem SameButPlace.after (same : SameButPlace first second) (events : List Event) :
    SameButPlace (first.after events) (second.after events) := by
  induction events generalizing first second with
  | nil => exact same
  | cons event rest inductionHypothesis => exact inductionHypothesis (same.next event)

/-- Within a line an event is printed alike at every place. -/
theorem SameButPlace.eventText_eq (same : SameButPlace first second) {event : Event}
    (isInline : event.isInline = true) : first.eventText event = second.eventText event := by
  obtain ⟨place, rfl⟩ := same
  cases event with
  | enter tag =>
      cases tag with
      | emphasis | strong | strikethrough | link _ _ _ | image _ _ => rfl
      | _ => simp [Event.isInline, Tag.isInline] at isInline
  | leave tag => rfl
  | leaf inner =>
      cases inner with
      | rule => simp [Event.isInline, Leaf.isInline] at isInline
      | taskMarker checked =>
          cases checked with
          | _ => rfl
      | _ => rfl

theorem SameButPlace.print_eq (same : SameButPlace first second) {events : List Event}
    (areInline : ∀ event ∈ events, event.isInline = true) :
    first.print events = second.print events := by
  induction events generalizing first second with
  | nil => rfl
  | cons event rest inductionHypothesis =>
      rw [print_cons, print_cons, same.eventText_eq (areInline event List.mem_cons_self),
        inductionHypothesis (same.next event)]
      exact fun other member => areInline other (List.mem_cons_of_mem event member)

/-- What is printed for the end of an element does not depend on the place either. -/
theorem SameButPlace.leaveText_eq (same : SameButPlace first second) (tag : Tag) :
    first.eventText (.leave tag) = second.eventText (.leave tag) := by
  obtain ⟨place, rfl⟩ := same
  cases tag with
  | _ => rfl

/-- Once something is printed, the place is known. -/
theorem SameButPlace.next_eq (same : SameButPlace first second) {event : Event}
    (sameText : first.eventText event = second.eventText event)
    (printed : first.eventText event ≠ []) : first.next event = second.next event := by
  obtain ⟨place, state⟩ := same.next event
  have samePlace : first.startsLine event = second.startsLine event := by
    obtain ⟨last, isLast⟩ := Option.isSome_iff_exists.mp (List.getLast?_isSome.mpr printed)
    unfold startsLine
    rw [← sameText, isLast]
  have isPlace : place = (second.next event).atLineStart := by
    rw [state]
  have firstPlace : (first.next event).atLineStart = place := by
    rw [isPlace]
    exact samePlace
  rw [state, ← firstPlace]

/-- Outside of images the end of a heading begins a new line. -/
theorem SameButPlace.next_leave_heading (same : SameButPlace first second)
    (outside : first.image = none) (level : Nat) :
    first.next (.leave (.heading level)) = second.next (.leave (.heading level)) := by
  have text : first.leaveText (.heading level) =
      "</".toList ++ (headingName level ++ ">\n".toList) :=
    List.append_assoc _ _ _
  apply same.next_eq (same.leaveText_eq (.heading level))
  rw [eventText_leave outside, text]
  exact List.cons_ne_nil _ _

end Printer

end MarkdownDialect.CommonMark
