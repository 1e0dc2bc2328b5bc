import MarkdownDialect.Proofs.CommonMark.Address
import MarkdownDialect.Proofs.Heading.Attribute
import MarkdownDialect.Proofs.Rendering.Replacement

/-!
# Where links point

A document is printed in parts. Whether links open in a new tab decides on the opening tags of
links and on nothing else. The tag for a new tab does not know the kind of its link, so an address
of e-mail loses the scheme that the other tag gives it.
-/

namespace MarkdownDialect

open Text CommonMark

/-! ## Centring links in a new tab -/

namespace Centering

variable (newTab : Bool)

@[simp]
theorem textOf_withLinks (event : Event) : textOf (withLinks newTab event) = textOf event := by
  unfold withLinks
  split
  · rfl
  · rfl
  · rfl

@[simp]
theorem mapText_withLinks (change : Text → Text) (event : Event) :
    mapText change (withLinks newTab event) = withLinks newTab (mapText change event) := by
  cases newTab with
  | false => rfl
  | true =>
      cases event with
      | enter tag =>
          cases tag with
          | _ => rfl
      | leave tag =>
          cases tag with
          | _ => rfl
      | leaf inner =>
          cases inner with
          | _ => rfl

private theorem mergeTexts_cons_of_not_text {event : Event}
    (notText : ∀ content, event = .leaf (.text content) → False) (rest : List Event) :
    mergeTexts (event :: rest) = event :: mergeTexts rest := by
  rw [mergeTexts]
  exact notText

private theorem mergeTexts_withLinks (events : List Event) :
    mergeTexts (events.map (withLinks newTab)) =
      (mergeTexts events).map (withLinks newTab) := by
  fun_induction mergeTexts events with
  | case1 => rfl
  | case2 content rest following others merged inductionHypothesis =>
      rw [merged, List.map_cons, withLinks_leaf] at inductionHypothesis
      rw [List.map_cons, List.map_cons, withLinks_leaf, withLinks_leaf, mergeTexts,
        inductionHypothesis]
  | case3 content rest notText inductionHypothesis =>
      rw [List.map_cons, List.map_cons, withLinks_leaf, mergeTexts, inductionHypothesis]
      split
      · next following others mapped =>
          obtain ⟨first, merged, isMerged, isText, _⟩ := List.map_eq_cons_iff.mp mapped
          rw [eq_of_withLinks_eq newTab isText (by simp)] at isMerged
          exact absurd isMerged (notText following merged)
      · rfl
  | case4 event rest notText inductionHypothesis =>
      rw [List.map_cons, List.map_cons, mergeTexts_cons_of_not_text, inductionHypothesis]
      exact fun content isText =>
        notText content (eq_of_withLinks_eq newTab isText (by simp))

private theorem onFirst_withLinks (change : Text → Text) (events : List Event) :
    onFirst change (events.map (withLinks newTab)) =
      (onFirst change events).map (withLinks newTab) := by
  cases events with
  | nil => rfl
  | cons event rest =>
      simp only [List.map_cons, onFirst, mapText_withLinks]

private theorem stripArrows_withLinks (events : List Event) :
    stripArrows (events.map (withLinks newTab)) =
      (stripArrows events).map (withLinks newTab) := by
  have arrows : (events.map (withLinks newTab)).map (mapText Heading.stripArrows) =
      (events.map (mapText Heading.stripArrows)).map (withLinks newTab) := by
    simp only [List.map_map, Function.comp_def, mapText_withLinks]
  simp only [stripArrows, onLast, arrows, onFirst_withLinks, ← List.map_reverse]

private theorem heading_withLinks (level : Nat) (inner last : List Event) :
    heading level (inner.map (withLinks newTab)) (last.map (withLinks newTab)) =
      (heading level inner last).map (withLinks newTab) := by
  have sameText : ((mergeTexts inner).map (withLinks newTab)).flatMap textOf =
      (mergeTexts inner).flatMap textOf := by
    rw [List.flatMap_map]
    simp only [textOf_withLinks]
  unfold heading
  rw [mergeTexts_withLinks]
  dsimp only
  rw [sameText]
  split
  · rw [stripArrows_withLinks]
    simp
  · simp

theorem go_none_cons {event : Event}
    (notHeading : ∀ level, event = .enter (.heading level) → False) (rest : List Event) :
    go none (event :: rest) = event :: go none rest := by
  rw [go]
  exact notHeading

theorem go_some_cons {event : Event}
    (goesOn : ∀ closed, event = .leave (.heading closed) → False) (level : Nat)
    (inner rest : List Event) :
    go (some (level, inner)) (event :: rest) = go (some (level, inner ++ [event])) rest := by
  rw [go]
  exact goesOn

private theorem go_withLinks (opened : Option (Nat × List Event)) (events : List Event) :
    go (opened.map fun heading => (heading.1, heading.2.map (withLinks newTab)))
        (events.map (withLinks newTab)) =
      (go opened events).map (withLinks newTab) := by
  fun_induction go opened events with
  | case1 => rfl
  | case2 level inner => exact heading_withLinks newTab level inner []
  | case3 level rest inductionHypothesis =>
      rw [List.map_cons, withLinks_enter_heading]
      exact inductionHypothesis
  | case4 event rest notHeading inductionHypothesis =>
      rw [List.map_cons, List.map_cons, ← inductionHypothesis]
      apply go_none_cons
      exact fun level isHeading =>
        notHeading level (eq_of_withLinks_eq newTab isHeading (by simp))
  | case5 level inner closed rest inductionHypothesis =>
      have mapped := heading_withLinks newTab level inner [.leave (.heading closed)]
      rw [List.map_cons, List.map_nil, withLinks_leave_heading] at mapped
      rw [List.map_cons, withLinks_leave_heading, List.map_append, ← mapped,
        ← inductionHypothesis]
      rfl
  | case6 level inner event rest goesOn inductionHypothesis =>
      have stillGoesOn : ∀ closed, withLinks newTab event = .leave (.heading closed) → False :=
        fun closed ends =>
          goesOn closed (eq_of_withLinks_eq newTab ends (by simp))
      rw [← inductionHypothesis, List.map_cons, Option.map_some, Option.map_some,
        go_some_cons stillGoesOn, List.map_append, List.map_singleton]

end Centering

private theorem centerHeadings_withLinks (newTab : Bool) (events : List Event) :
    centerHeadings (events.map (withLinks newTab)) =
      (centerHeadings events).map (withLinks newTab) :=
  Centering.go_withLinks newTab none events

/-! ## Documents in parts -/

/-- A part of a printed document. -/
inductive Part where
  /-- What does not depend on the tab in which links open. -/
  | plain (html : Text)
  /-- The opening tag of a link. -/
  | link (kind : LinkKind) (destination title : Text)
  deriving DecidableEq, Repr

/-- The opening tag of a link that opens in the same tab. -/
def sameTabTag (kind : LinkKind) (destination title : Text) : Text :=
  Printer.initial.enterText (.link kind destination title)

namespace Part

def html (newTab : Bool) : Part → Text
  | plain html => html
  | link kind destination title =>
    if newTab then newTabTag destination title else sameTabTag kind destination title

def isEmailLink : Part → Bool
  | link .email _ _ => true
  | _ => false

/-- What is printed for an event. -/
def ofEvent (printer : Printer) (event : Event) : Part :=
  match printer.image, event with
  | none, .enter (.link kind destination title) => link kind destination title
  | _, _ => plain (printer.eventText event)

def ofEvents (printer : Printer) : List Event → List Part
  | [] => []
  | event :: rest => ofEvent printer event :: ofEvents (printer.next event) rest

end Part

@[simp]
theorem getLast?_sameTabTag (kind : LinkKind) (destination title : Text) :
    (sameTabTag kind destination title).getLast? = some '>' := by
  unfold sameTabTag Printer.enterText
  rw [List.getLast?_append]
  rfl

@[simp]
theorem getLast?_newTabTag (destination title : Text) :
    (newTabTag destination title).getLast? = some '>' := by
  unfold newTabTag
  rw [List.getLast?_append]
  rfl

private theorem startsLine_of_tag {printer : Printer} {event : Event}
    (closes : (printer.eventText event).getLast? = some '>') :
    printer.startsLine event = false := by
  unfold Printer.startsLine
  rw [closes]
  rfl

section

variable {printer : Printer} (outside : printer.image = none)
include outside

theorem eventText_closingTag (kind : LinkKind) (destination title : Text) :
    printer.eventText (Gathering.htmlEvent "</a>".toList) =
      printer.eventText (.leave (.link kind destination title)) := by
  rw [Printer.eventText_leave outside]
  exact Printer.eventText_leaf outside _

private theorem eventText_withLinks (newTab : Bool) (event : Event) :
    printer.eventText (withLinks newTab event) = (Part.ofEvent printer event).html newTab := by
  unfold Part.ofEvent
  rw [outside]
  cases newTab with
  | false =>
      rw [withLinks_same]
      split
      · exact Printer.eventText_enter outside _
      · rfl
  | true =>
      unfold withLinks
      split
      · exact Printer.eventText_leaf outside _
      · exact eventText_closingTag outside _ _ _
      · next notLink _ =>
          split
          · exact absurd rfl (notLink _ _ _ rfl)
          · rfl

/-- The printer stands alike after both tags of a link. -/
private theorem next_withLinks (newTab : Bool) (event : Event) :
    printer.next (withLinks newTab event) = printer.next event := by
  unfold withLinks
  split
  · next kind destination title =>
      have samePlace : printer.startsLine (.enter (.link kind destination title)) = false := by
        apply startsLine_of_tag
        rw [Printer.eventText_enter outside]
        exact getLast?_sameTabTag kind destination title
      have otherPlace :
          printer.startsLine (Gathering.htmlEvent (newTabTag destination title)) = false := by
        apply startsLine_of_tag
        rw [Gathering.htmlEvent, Printer.eventText_leaf outside]
        exact getLast?_newTabTag destination title
      unfold Printer.next
      rw [samePlace, otherPlace]
      unfold Printer.afterEvent
      rw [outside]
      rfl
  · next kind destination title =>
      have samePlace : printer.startsLine (Gathering.htmlEvent "</a>".toList) =
          printer.startsLine (.leave (.link kind destination title)) := by
        unfold Printer.startsLine
        rw [eventText_closingTag outside kind destination title,
          Printer.eventText_leave outside]
        rfl
      unfold Printer.next
      rw [samePlace]
      unfold Printer.afterEvent
      rw [outside]
      rfl
  · rfl

private theorem print_withLinks (newTab : Bool) {events : List Event}
    (noImage : ∀ event ∈ events, event.entersImage = false) :
    printer.print (events.map (withLinks newTab)) =
      (Part.ofEvents printer events).flatMap (Part.html newTab) := by
  induction events generalizing printer with
  | nil => rfl
  | cons event rest inductionHypothesis =>
      obtain ⟨entersNone, restNoImage⟩ := List.forall_mem_cons.mp noImage
      rw [List.map_cons, Printer.print_cons, eventText_withLinks outside, next_withLinks outside,
        inductionHypothesis (Printer.image_next outside entersNone) restNoImage]
      rfl

end

/-- The parts of a printed sequence of events. -/
def partsOf (events : List Event) : List Part :=
  Part.ofEvents Printer.initial
    (centerHeadings (replaceElements { linksInNewTab := false } events))

private theorem htmlOf_eq_parts (options : RenderOptions) (events : List Event) :
    htmlOf (centerHeadings (replaceElements options events)) =
      (partsOf events).flatMap (Part.html options.linksInNewTab) := by
  have noImage : ∀ event ∈ centerHeadings (replaceElements { linksInNewTab := false } events),
      event.entersImage = false :=
    Centering.forall_mem_go (fun _ => rfl) (fun _ => rfl) none _
      (Gathering.entersImage_replace _ .nothing events)
  have replaced : replaceElements options events =
      (replaceElements { linksInNewTab := false } events).map
        (withLinks options.linksInNewTab) :=
    Gathering.replace_eq_map options .nothing events
  rw [replaced, centerHeadings_withLinks]
  exact print_withLinks rfl options.linksInNewTab noImage

/-! ## Targets -/

/-- The value of `href` in the opening tag of a link. -/
def hrefOf? (tag : Text) : Option Text :=
  ("<a".toList.isPrefixOf? tag).bind fun attributes =>
    ((findMatches HeadingElement.readAttribute? attributes).lookup "href".toList).join

/-- The bytes of the address that a tag links to. -/
def targetOf? (tag : Text) : Option Bytes :=
  (hrefOf? tag).map fun value => percentDecode (decodeReferences value)

theorem hrefOf?_append {value : Text} (noQuote : '\x22' ∉ value) (attributes : Text) :
    hrefOf? ("<a".toList ++
      ' ' :: ("href".toList ++ '=' :: '\x22' :: (value ++ '\x22' :: attributes))) =
        some value := by
  have isName : ∀ c ∈ "href".toList, HeadingElement.isNameChar c = true :=
    List.all_eq_true.mp (by decide)
  have lower : "href".toList.map Char.toLower = "href".toList := by
    decide
  rw [hrefOf?, isPrefixOf?_append, Option.bind_some,
    HeadingElement.findMatches_attribute isName (by decide) noQuote, lower, List.lookup_cons_self]
  rfl

@[simp]
theorem targetOf?_newTabTag (destination title : Text) :
    targetOf? (newTabTag destination title) = some (percentDecode destination) := by
  have noQuote : '\x22' ∉ escape destination := not_mem_escape (by decide) destination
  have shape : ∃ attributes, newTabTag destination title = "<a".toList ++
      ' ' :: ("href".toList ++ '=' :: '\x22' :: (escape destination ++ '\x22' :: attributes)) := by
    unfold newTabTag Image.quotedAttribute
    simp only [List.append_assoc]
    exact ⟨_, rfl⟩
  obtain ⟨attributes, shape⟩ := shape
  rw [targetOf?, shape, hrefOf?_append noQuote, Option.map_some, decodeReferences_escape]

theorem targetOf?_sameTabTag (kind : LinkKind) (destination title : Text) :
    targetOf? (sameTabTag kind destination title) =
      some (Utf8.encode (Printer.addressScheme kind) ++ percentDecode destination) := by
  have inert : '\x22' ∉ Printer.addressScheme kind ∧ '&' ∉ Printer.addressScheme kind ∧
      '%' ∉ Printer.addressScheme kind := by
    cases kind with
    | _ => decide
  obtain ⟨noQuote, noAmpersand, noPercent⟩ := inert
  have noQuoteInValue : '\x22' ∉ Printer.addressScheme kind ++ escapeAddress destination := by
    rw [List.mem_append, not_or]
    exact ⟨noQuote, quote_not_mem_escapeAddress destination⟩
  have shape : ∃ attributes, sameTabTag kind destination title = "<a".toList ++
      ' ' :: ("href".toList ++ '=' :: '\x22' ::
        ((Printer.addressScheme kind ++ escapeAddress destination) ++ '\x22' :: attributes)) := by
    unfold sameTabTag Printer.enterText Printer.titleAttribute
    simp only [List.append_assoc]
    split
    · exact ⟨_, rfl⟩
    · exact ⟨_, rfl⟩
  obtain ⟨attributes, shape⟩ := shape
  rw [targetOf?, shape, hrefOf?_append noQuoteInValue, Option.map_some, decodeReferences,
    replaceMatches_inert_append (inert_reference noAmpersand), ← decodeReferences,
    decodeReferences_escapeAddress, percentDecode_append noPercent,
    percentDecode_flatMap_percentForm]

namespace Part

/-- Where a part links to, if it is a link. -/
def target? (newTab : Bool) : Part → Option Bytes
  | plain _ => none
  | link kind destination title => targetOf? ((link kind destination title).html newTab)

@[simp]
theorem target?_link_newTab (kind : LinkKind) (destination title : Text) :
    (link kind destination title).target? true = some (percentDecode destination) :=
  targetOf?_newTabTag destination title

private theorem target?_link_sameTab (kind : LinkKind) (destination title : Text) :
    (link kind destination title).target? false =
      some (Utf8.encode (Printer.addressScheme kind) ++ percentDecode destination) :=
  targetOf?_sameTabTag kind destination title

/-- The tag for the same tab alone knows the scheme of an address of e-mail. -/
theorem filterMap_target?_eq_iff (parts : List Part) :
    parts.filterMap (target? true) = parts.filterMap (target? false) ↔
      ∀ part ∈ parts, part.isEmailLink = false := by
  induction parts with
  | nil =>
      rw [List.filterMap_nil, List.filterMap_nil]
      exact iff_of_true rfl (List.forall_mem_nil _)
  | cons part rest inductionHypothesis =>
      rw [List.forall_mem_cons, ← inductionHypothesis]
      cases part with
      | plain html =>
          rw [List.filterMap_cons_none rfl, List.filterMap_cons_none rfl]
          exact (and_iff_right rfl).symm
      | link kind destination title =>
          rw [List.filterMap_cons_some (target?_link_newTab kind destination title),
            List.filterMap_cons_some (target?_link_sameTab kind destination title),
            List.cons.injEq]
          apply and_congr_left
          intro _
          cases kind with
          | ordinary => exact iff_of_true rfl rfl
          | email =>
              have longer : ∀ bytes : Bytes, bytes ≠ Utf8.encode "mailto:".toList ++ bytes := by
                intro bytes same
                have sameLength := congrArg List.length same
                have schemeLength : (Utf8.encode "mailto:".toList).length = 7 := by
                  decide
                rw [List.length_append] at sameLength
                omega
              exact iff_of_false (longer _) nofun

end Part

/-- The parts of a rendered fragment. -/
def fragmentParts (markdown : Text) : List Part :=
  partsOf (eventsOf (elementsOf markdown))

/-- Where the links of a rendered fragment point, in their order. -/
def linkTargets (newTab : Bool) (markdown : Text) : List Bytes :=
  (fragmentParts markdown).filterMap (Part.target? newTab)

/-- A fragment is the same in both tabs up to the opening tags of its links, and the links point to
the same addresses unless one of them is an address of e-mail. -/
theorem link_targets_stay_iff (markdown : Text) :
    (∀ options, renderFragment options markdown =
        (fragmentParts markdown).flatMap (Part.html options.linksInNewTab)) ∧
      (linkTargets true markdown = linkTargets false markdown ↔
        ∀ part ∈ fragmentParts markdown, part.isEmailLink = false) := by
  constructor
  · intro options
    rw [renderFragment, fragmentParts, htmlOf_eq_parts]
  · unfold linkTargets
    exact Part.filterMap_target?_eq_iff (fragmentParts markdown)

/-- An address of e-mail between angle brackets loses its scheme in a new tab. -/
theorem link_targets_differ_at_email :
    linkTargets true "<a@b.c>".toList ≠ linkTargets false "<a@b.c>".toList := by
  decide +kernel

end MarkdownDialect
