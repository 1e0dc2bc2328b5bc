import MarkdownDialect.Proofs.CommonMark.Printing
import MarkdownDialect.Rendering.Centering

/-!
# Headings that are not centred

Centring collects the events of a heading and joins its texts before it knows whether the heading
is centred. A heading that is not is printed as if nothing had happened to it.
-/

namespace MarkdownDialect.Centering

open Text CommonMark

/-! ## Joined texts -/

private theorem flatMap_textOf_mergeTexts (events : List Event) :
    (mergeTexts events).flatMap textOf = events.flatMap textOf := by
  fun_induction mergeTexts events with
  | case1 => rfl
  | case2 content rest following others merged inductionHypothesis =>
      rw [List.flatMap_cons, List.flatMap_cons, ← inductionHypothesis, merged, List.flatMap_cons]
      exact List.append_assoc content following _
  | case3 content rest _ inductionHypothesis =>
      rw [List.flatMap_cons, List.flatMap_cons, inductionHypothesis]
  | case4 event rest _ inductionHypothesis =>
      rw [List.flatMap_cons, List.flatMap_cons, inductionHypothesis]

theorem forall_mem_mergeTexts {motive : Event → Prop}
    (text : ∀ content, motive (.leaf (.text content))) {events : List Event}
    (each : ∀ event ∈ events, motive event) : ∀ event ∈ mergeTexts events, motive event := by
  fun_induction mergeTexts events with
  | case1 => exact each
  | case2 content rest following others merged inductionHypothesis =>
      obtain ⟨_, eachOfRest⟩ := List.forall_mem_cons.mp each
      have eachMerged := inductionHypothesis eachOfRest
      rw [merged] at eachMerged
      obtain ⟨_, eachOther⟩ := List.forall_mem_cons.mp eachMerged
      exact List.forall_mem_cons.mpr ⟨text _, eachOther⟩
  | case3 content rest _ inductionHypothesis =>
      obtain ⟨_, eachOfRest⟩ := List.forall_mem_cons.mp each
      exact List.forall_mem_cons.mpr ⟨text _, inductionHypothesis eachOfRest⟩
  | case4 event rest _ inductionHypothesis =>
      obtain ⟨ofFirst, eachOfRest⟩ := List.forall_mem_cons.mp each
      exact List.forall_mem_cons.mpr ⟨ofFirst, inductionHypothesis eachOfRest⟩

/-- Joining the texts within a line changes nothing of what is printed, but it may change the
place in the line that the printer takes itself to be at. -/
theorem print_mergeTexts (printer : Printer) {events : List Event}
    (areInline : ∀ event ∈ events, event.isInline = true) :
    printer.print (mergeTexts events) = printer.print events ∧
      (printer.after (mergeTexts events)).SameButPlace (printer.after events) := by
  fun_induction mergeTexts events generalizing printer with
  | case1 => exact ⟨rfl, Printer.SameButPlace.refl _⟩
  | case2 content rest following others merged inductionHypothesis =>
      obtain ⟨_, restInline⟩ := List.forall_mem_cons.mp areInline
      have othersInline : ∀ event ∈ others, event.isInline = true := by
        have mergedInline := forall_mem_mergeTexts (fun _ => rfl) restInline
        rw [merged] at mergedInline
        exact (List.forall_mem_cons.mp mergedInline).2
      obtain ⟨samePrint, sameAfter⟩ :=
        inductionHypothesis (printer.next (.leaf (.text content))) restInline
      rw [merged] at samePrint sameAfter
      -- The joined text and the two texts leave the printer alike, except perhaps for the place.
      have samePlace :
          (printer.next (.leaf (.text (content ++ following)))).SameButPlace
            ((printer.next (.leaf (.text content))).next (.leaf (.text following))) :=
        (printer.sameButPlace_next_text _).symm.trans
          ((printer.sameButPlace_next_text content).trans (Printer.sameButPlace_next_text _ _))
      constructor
      · rw [Printer.print_cons, Printer.print_cons, ← samePrint, Printer.print_cons,
          samePlace.print_eq othersInline, Printer.eventText_text, Printer.eventText_text,
          Printer.eventText_text, Printer.escapeContent_append, List.append_assoc]
      · exact (samePlace.after others).trans sameAfter
  | case3 content rest _ inductionHypothesis =>
      obtain ⟨_, restInline⟩ := List.forall_mem_cons.mp areInline
      obtain ⟨samePrint, sameAfter⟩ :=
        inductionHypothesis (printer.next (.leaf (.text content))) restInline
      rw [Printer.print_cons, Printer.print_cons, samePrint]
      exact ⟨rfl, sameAfter⟩
  | case4 event rest _ inductionHypothesis =>
      obtain ⟨_, restInline⟩ := List.forall_mem_cons.mp areInline
      obtain ⟨samePrint, sameAfter⟩ := inductionHypothesis (printer.next event) restInline
      rw [Printer.print_cons, Printer.print_cons, samePrint]
      exact ⟨rfl, sameAfter⟩

/-! ## The headings of a sequence -/

def endsHeading : Event → Bool
  | .leave (.heading _) => true
  | _ => false

/-- The headings of a sequence: the level of each with the events up to its end. -/
def headings : List Event → List (Nat × List Event)
  | [] => []
  | .enter (.heading level) :: rest =>
    (level, rest.takeWhile fun event => !endsHeading event) :: headings rest
  | _ :: rest => headings rest

/-- A heading whose events stand within a line, and that has not both arrows in its text. -/
def IsUncentered (heading : Nat × List Event) : Prop :=
  (∀ event ∈ heading.2, event.isInline = true) ∧
    Heading.isCentered heading.1 (heading.2.flatMap textOf) = false

instance (heading : Nat × List Event) : Decidable (IsUncentered heading) :=
  inferInstanceAs (Decidable (_ ∧ _))

theorem mem_headings_cons {heading : Nat × List Event} {rest : List Event} (event : Event)
    (member : heading ∈ headings rest) : heading ∈ headings (event :: rest) := by
  cases event with
  | enter tag =>
      cases tag with
      | heading level => exact List.mem_cons_of_mem _ member
      | _ => exact member
  | _ => exact member

theorem mem_headings_append {heading : Nat × List Event} {rest : List Event}
    (before : List Event) (member : heading ∈ headings rest) :
    heading ∈ headings (before ++ rest) := by
  induction before with
  | nil => exact member
  | cons event before inductionHypothesis => exact mem_headings_cons event inductionHypothesis

/-- A heading that is never ended reaches up to the last event. -/
private theorem mem_headings_unended (level : Nat) {inner : List Event}
    (goesOn : ∀ event ∈ inner, endsHeading event = false) :
    (level, inner) ∈ headings (.enter (.heading level) :: inner) := by
  have takesAll : inner.takeWhile (fun event => !endsHeading event) = inner := by
    have takesFront : (inner ++ []).takeWhile (fun event => !endsHeading event) =
        inner ++ [].takeWhile (fun event => !endsHeading event) :=
      List.takeWhile_append_of_pos (by simpa using goesOn)
    simpa using takesFront
  unfold headings
  rw [takesAll]
  exact List.mem_cons_self

/-- A heading reaches up to the first event that ends it. -/
private theorem mem_headings_ended (level closed : Nat) {inner : List Event} (rest : List Event)
    (goesOn : ∀ event ∈ inner, endsHeading event = false) :
    (level, inner) ∈
      headings (.enter (.heading level) :: (inner ++ .leave (.heading closed) :: rest)) := by
  have takesInner : (inner ++ .leave (.heading closed) :: rest).takeWhile
      (fun event => !endsHeading event) = inner := by
    rw [List.takeWhile_append_of_pos (by simpa using goesOn),
      List.takeWhile_cons_of_neg (by simp [endsHeading]), List.append_nil]
  unfold headings
  rw [takesInner]
  exact List.mem_cons_self

/-! ## Headings left as they are -/

variable {printer : Printer}

theorem heading_of_isUncentered {level : Nat} {inner : List Event}
    (isUncentered : IsUncentered (level, inner)) (last : List Event) :
    heading level inner last = .enter (.heading level) :: (mergeTexts inner ++ last) := by
  have notCentered :
      Heading.isCentered level ((mergeTexts inner).flatMap textOf) = false := by
    rw [flatMap_textOf_mergeTexts]
    exact isUncentered.2
  simp only [heading, notCentered, Bool.false_eq_true, if_false, List.cons_append]

private theorem print_unended {level : Nat} {inner : List Event}
    (isUncentered : IsUncentered (level, inner)) :
    printer.print (heading level inner []) = printer.print (.enter (.heading level) :: inner) := by
  rw [heading_of_isUncentered isUncentered, List.append_nil, Printer.print_cons,
    Printer.print_cons, (print_mergeTexts _ isUncentered.1).1]

/-- The end of a heading begins a new line, whatever the place before it was taken to be. -/
private theorem print_ended (outside : printer.image = none) {level : Nat} (closed : Nat)
    {inner : List Event} (isUncentered : IsUncentered (level, inner))
    (noImage : ∀ event ∈ inner, event.entersImage = false) (rest : List Event) :
    printer.print (heading level inner [.leave (.heading closed)] ++ rest) =
      printer.print (.enter (.heading level) :: (inner ++ .leave (.heading closed) :: rest)) := by
  obtain ⟨samePrint, sameAfter⟩ :=
    print_mergeTexts (printer.next (.enter (.heading level))) isUncentered.1
  have stillOutside : ((printer.next (.enter (.heading level))).after inner).image = none :=
    Printer.image_after (Printer.image_next outside rfl) noImage
  have sameNext := sameAfter.symm.next_leave_heading stillOutside closed
  have sameEnd := sameAfter.leaveText_eq (.heading closed)
  rw [heading_of_isUncentered isUncentered, List.cons_append, List.append_assoc,
    List.singleton_append, Printer.print_cons, Printer.print_cons, Printer.print_append,
    Printer.print_append, Printer.print_cons, Printer.print_cons, samePrint, sameNext, sameEnd]

/-- The events of an open heading, in the order in which they came. -/
def openEvents : Option (Nat × List Event) → List Event
  | none => []
  | some (level, inner) => .enter (.heading level) :: inner

theorem openEvents_append (level : Nat) (inner : List Event) (event : Event) (rest : List Event) :
    openEvents (some (level, inner ++ [event])) ++ rest =
      openEvents (some (level, inner)) ++ event :: rest := by
  simp [openEvents]

/-- If no heading is centred, the events gathered so far and those that follow are printed as they
stand. -/
theorem print_go (outside : printer.image = none) (opened : Option (Nat × List Event))
    (events : List Event) (goesOn : ∀ event ∈ openEvents opened, endsHeading event = false)
    (noImage : ∀ event ∈ openEvents opened ++ events, event.entersImage = false)
    (areUncentered : ∀ heading ∈ headings (openEvents opened ++ events), IsUncentered heading) :
    printer.print (go opened events) = printer.print (openEvents opened ++ events) := by
  fun_induction go opened events generalizing printer with
  | case1 => rfl
  | case2 level inner =>
      rw [List.append_nil] at areUncentered ⊢
      apply print_unended
      apply areUncentered
      apply mem_headings_unended
      exact (List.forall_mem_cons.mp goesOn).2
  | case3 level rest inductionHypothesis =>
      apply inductionHypothesis outside
      · exact List.forall_mem_cons.mpr ⟨rfl, List.forall_mem_nil _⟩
      · exact noImage
      · exact areUncentered
  | case4 event rest _ inductionHypothesis =>
      obtain ⟨entersNone, restNoImage⟩ := List.forall_mem_cons.mp noImage
      have samePrint := inductionHypothesis (Printer.image_next outside entersNone) goesOn
        restNoImage (fun heading member => areUncentered heading (mem_headings_cons event member))
      rw [Printer.print_cons, samePrint]
      rfl
  | case5 level inner closed rest inductionHypothesis =>
      obtain ⟨_, innerGoesOn⟩ := List.forall_mem_cons.mp goesOn
      obtain ⟨beforeNoImage, afterNoImage⟩ := List.forall_mem_append.mp noImage
      obtain ⟨_, innerNoImage⟩ := List.forall_mem_cons.mp beforeNoImage
      obtain ⟨_, restNoImage⟩ := List.forall_mem_cons.mp afterNoImage
      have isUncentered := areUncentered _ (mem_headings_ended level closed rest innerGoesOn)
      have restUncentered : ∀ heading ∈ headings rest, IsUncentered heading := by
        intro heading member
        apply areUncentered
        exact mem_headings_append _ (mem_headings_cons _ member)
      have outsideAfter :
          ((printer.after (openEvents (some (level, inner)))).next
            (.leave (.heading closed))).image = none :=
        Printer.image_next (Printer.image_after outside beforeNoImage) rfl
      have samePrint := inductionHypothesis outsideAfter (List.forall_mem_nil _) restNoImage
        restUncentered
      rw [print_ended outside closed isUncentered innerNoImage, ← List.cons_append,
        Printer.print_append, Printer.print_append, Printer.print_cons, Printer.print_cons]
      exact congrArg _ (congrArg _ samePrint)
  | case6 level inner event rest continues inductionHypothesis =>
      rw [openEvents_append] at inductionHypothesis
      apply inductionHypothesis outside
      · have eventGoesOn : endsHeading event = false := by
          unfold endsHeading
          split
          · exact absurd rfl (continues _)
          · rfl
        change ∀ other ∈ openEvents (some (level, inner)) ++ [event], endsHeading other = false
        exact List.forall_mem_append.mpr ⟨goesOn, List.forall_mem_singleton.mpr eventGoesOn⟩
      · exact noImage
      · exact areUncentered

/-! ## What centring brings in -/

section

variable {motive : Event → Prop} (text : ∀ content, motive (.leaf (.text content)))
include text

theorem mapText_induction (change : Text → Text) {event : Event} (ofEvent : motive event) :
    motive (mapText change event) := by
  unfold mapText
  split
  · exact text _
  · exact ofEvent

private theorem forall_mem_onFirst (change : Text → Text) {events : List Event}
    (each : ∀ event ∈ events, motive event) :
    ∀ event ∈ onFirst change events, motive event := by
  cases events with
  | nil => exact each
  | cons event rest =>
      obtain ⟨ofFirst, eachOfRest⟩ := List.forall_mem_cons.mp each
      exact List.forall_mem_cons.mpr ⟨mapText_induction text change ofFirst, eachOfRest⟩

private theorem forall_mem_stripArrows {events : List Event}
    (each : ∀ event ∈ events, motive event) :
    ∀ event ∈ stripArrows events, motive event := by
  have eachMapped : ∀ event ∈ events.map (mapText Heading.stripArrows), motive event := by
    rw [List.forall_mem_map]
    exact fun event member => mapText_induction text _ (each event member)
  have eachTrimmed := forall_mem_onFirst text trimStart eachMapped
  have eachReversed := forall_mem_onFirst text trimEnd
    (fun event member => eachTrimmed event (List.mem_reverse.mp member))
  exact fun event member => eachReversed event (List.mem_reverse.mp member)

variable (html : ∀ content, motive (.leaf (.html content)))
include html

private theorem forall_mem_heading (level : Nat) (enter : motive (.enter (.heading level)))
    {inner last : List Event} (eachInner : ∀ event ∈ inner, motive event)
    (eachLast : ∀ event ∈ last, motive event) :
    ∀ event ∈ heading level inner last, motive event := by
  have eachMerged := forall_mem_mergeTexts text eachInner
  unfold heading
  dsimp only
  split
  · have eachStripped := forall_mem_stripArrows text eachMerged
    exact List.forall_mem_append.mpr
      ⟨List.forall_mem_cons.mpr ⟨html _, eachStripped⟩, List.forall_mem_singleton.mpr (html _)⟩
  · exact List.forall_mem_append.mpr
      ⟨List.forall_mem_cons.mpr ⟨enter, eachMerged⟩, eachLast⟩

/-- Centring brings in texts and raw HTML and nothing else. -/
theorem forall_mem_go (opened : Option (Nat × List Event)) (events : List Event)
    (each : ∀ event ∈ openEvents opened ++ events, motive event) :
    ∀ event ∈ go opened events, motive event := by
  fun_induction go opened events with
  | case1 => exact each
  | case2 level inner =>
      rw [List.append_nil] at each
      obtain ⟨enter, eachInner⟩ := List.forall_mem_cons.mp each
      exact forall_mem_heading text html level enter eachInner (List.forall_mem_nil _)
  | case3 level rest inductionHypothesis => exact inductionHypothesis each
  | case4 event rest _ inductionHypothesis =>
      obtain ⟨ofFirst, eachOfRest⟩ := List.forall_mem_cons.mp each
      exact List.forall_mem_cons.mpr ⟨ofFirst, inductionHypothesis eachOfRest⟩
  | case5 level inner closed rest inductionHypothesis =>
      obtain ⟨eachBefore, eachAfter⟩ := List.forall_mem_append.mp each
      obtain ⟨enter, eachInner⟩ := List.forall_mem_cons.mp eachBefore
      obtain ⟨leave, eachOfRest⟩ := List.forall_mem_cons.mp eachAfter
      exact List.forall_mem_append.mpr
        ⟨forall_mem_heading text html level enter eachInner (List.forall_mem_singleton.mpr leave),
          inductionHypothesis eachOfRest⟩
  | case6 level inner event rest _ inductionHypothesis =>
      rw [openEvents_append] at inductionHypothesis
      exact inductionHypothesis each

end

/-! ## What centring keeps -/

section

variable {html : Text}

private theorem html_mem_mergeTexts {events : List Event} (member : .leaf (.html html) ∈ events) :
    .leaf (.html html) ∈ mergeTexts events := by
  fun_induction mergeTexts events with
  | case1 => exact member
  | case2 content rest following others merged inductionHypothesis =>
      rw [merged] at inductionHypothesis
      have inRest := (List.mem_cons.mp member).resolve_left (by simp)
      have inOthers := (List.mem_cons.mp (inductionHypothesis inRest)).resolve_left (by simp)
      exact List.mem_cons_of_mem _ inOthers
  | case3 content rest _ inductionHypothesis =>
      have inRest := (List.mem_cons.mp member).resolve_left (by simp)
      exact List.mem_cons_of_mem _ (inductionHypothesis inRest)
  | case4 event rest _ inductionHypothesis =>
      cases List.mem_cons.mp member with
      | inl isFirst => exact List.mem_cons.mpr (.inl isFirst)
      | inr inRest => exact List.mem_cons_of_mem _ (inductionHypothesis inRest)

private theorem html_mem_onFirst (change : Text → Text) {events : List Event}
    (member : .leaf (.html html) ∈ events) : .leaf (.html html) ∈ onFirst change events := by
  cases events with
  | nil => exact member
  | cons event rest =>
      cases List.mem_cons.mp member with
      | inl isFirst =>
          rw [← isFirst]
          exact List.mem_cons_self
      | inr inRest => exact List.mem_cons_of_mem _ inRest

private theorem html_mem_stripArrows {events : List Event} (member : .leaf (.html html) ∈ events) :
    .leaf (.html html) ∈ stripArrows events := by
  have inMapped : .leaf (.html html) ∈ events.map (mapText Heading.stripArrows) :=
    List.mem_map.mpr ⟨_, member, rfl⟩
  have inTrimmed := html_mem_onFirst trimStart inMapped
  exact List.mem_reverse.mpr (html_mem_onFirst trimEnd (List.mem_reverse.mpr inTrimmed))

private theorem html_mem_heading (level : Nat) {inner : List Event} (last : List Event)
    (member : .leaf (.html html) ∈ inner) : .leaf (.html html) ∈ heading level inner last := by
  have inMerged := html_mem_mergeTexts member
  unfold heading
  dsimp only
  split
  · have inStripped := html_mem_stripArrows inMerged
    exact List.mem_append_left _ (List.mem_cons_of_mem _ inStripped)
  · exact List.mem_append_left _ (List.mem_cons_of_mem _ inMerged)

/-- Centring keeps all raw HTML. -/
theorem html_mem_go (opened : Option (Nat × List Event)) (events : List Event)
    (member : .leaf (.html html) ∈ openEvents opened ++ events) :
    .leaf (.html html) ∈ go opened events := by
  fun_induction go opened events with
  | case1 => exact member
  | case2 level inner =>
      rw [List.append_nil] at member
      have inInner := (List.mem_cons.mp member).resolve_left (by simp)
      exact html_mem_heading level [] inInner
  | case3 level rest inductionHypothesis => exact inductionHypothesis member
  | case4 event rest _ inductionHypothesis =>
      cases List.mem_cons.mp member with
      | inl isFirst => exact List.mem_cons.mpr (.inl isFirst)
      | inr inRest => exact List.mem_cons_of_mem _ (inductionHypothesis inRest)
  | case5 level inner closed rest inductionHypothesis =>
      cases List.mem_append.mp member with
      | inl inHeading =>
          have inInner := (List.mem_cons.mp inHeading).resolve_left (by simp)
          exact List.mem_append_left _ (html_mem_heading level _ inInner)
      | inr inBehind =>
          have inRest := (List.mem_cons.mp inBehind).resolve_left (by simp)
          exact List.mem_append_right _ (inductionHypothesis inRest)
  | case6 level inner event rest _ inductionHypothesis =>
      rw [openEvents_append] at inductionHypothesis
      exact inductionHypothesis member

end

end MarkdownDialect.Centering
