import MarkdownDialect.Proofs.CommonMark.ImagePrinting
import MarkdownDialect.Proofs.Heading.Attribute
import MarkdownDialect.Proofs.Rendering.Replacement
import MarkdownDialect.Proofs.Rendering.TreeReplacement

/-!
# Descriptions of images

An image is printed with its description as the `alt` of its tag. Plain Markdown puts everything
that stands in the description there, a break as a space. The tag that replaces an image has the
texts and codes alone, so the two say the same exactly if there is nothing else.
-/

namespace MarkdownDialect

open Text CommonMark

/-! ## What is spoken -/

/-- What an event adds to the description in the tag that stands for an image. -/
def CommonMark.Event.spoken : Event → Text
  | .leaf (.text content) | .leaf (.code content) => content
  | _ => []

/-- Whether an event adds the same to both descriptions of an image. -/
def CommonMark.Event.isSpoken : Event → Bool
  | .leaf (.text _) | .leaf (.code _) => true
  | .leaf (.html content) => content.isEmpty
  | .leaf _ => false
  | _ => true

private theorem spokenIn_eq_flatMap (forest : List Element) :
    spokenIn forest = (eventsOf forest).flatMap Event.spoken := by
  induction forest using forest_induction with
  | nil => rfl
  | leaf inner others inductionHypothesis =>
      rw [spokenIn, eventsOf_leaf_cons, List.flatMap_cons, inductionHypothesis]
      cases inner with
      | _ => rfl
  | node tag children others childrenHypothesis othersHypothesis =>
      rw [spokenIn, spoken, eventsOf_node_cons, List.flatMap_cons, List.flatMap_append,
        List.flatMap_cons, childrenHypothesis, othersHypothesis]
      rfl

namespace CommonMark.Printer

theorem added_of_isSpoken (printer : Printer) {event : Event} (isSpoken : event.isSpoken = true) :
    printer.added event = event.spoken := by
  unfold Event.isSpoken at isSpoken
  split at isSpoken
  · rfl
  · rfl
  · exact List.isEmpty_iff.mp isSpoken
  · contradiction
  · next notText notCode notHtml notLeaf =>
      cases event with
      | leaf inner => exact absurd rfl (notLeaf inner)
      | _ => rfl

theorem length_spoken_lt (printer : Printer) {event : Event}
    (notSpoken : event.isSpoken = false) :
    event.spoken.length < (printer.added event).length := by
  cases event with
  | leaf inner =>
      cases inner with
      | html content =>
          exact List.length_pos_iff.mpr (mt List.isEmpty_iff.mpr (Bool.eq_false_iff.mp notSpoken))
      | taskMarker checked =>
          cases checked with
          | _ => exact Nat.zero_lt_succ _
      | text | code => contradiction
      | _ => exact Nat.zero_lt_succ _
  | _ => contradiction

private theorem length_flatMap_spoken_le (printer : Printer) (events : List Event) :
    (events.flatMap Event.spoken).length ≤ (printer.describe events).length := by
  induction events generalizing printer with
  | nil => exact Nat.le_refl 0
  | cons event rest inductionHypothesis =>
      have restShorter := inductionHypothesis (printer.next event)
      rw [List.flatMap_cons, describe, List.length_append, List.length_append]
      by_cases isSpoken : event.isSpoken = true
      · rw [printer.added_of_isSpoken isSpoken]
        omega
      · have shorter := printer.length_spoken_lt (Bool.eq_false_iff.mpr isSpoken)
        omega

/-- Every event that is not spoken makes the plain description longer. -/
theorem flatMap_spoken_eq_describe_iff (printer : Printer) (events : List Event) :
    events.flatMap Event.spoken = printer.describe events ↔
      ∀ event ∈ events, event.isSpoken = true := by
  induction events generalizing printer with
  | nil => simp [describe]
  | cons event rest inductionHypothesis =>
      rw [List.flatMap_cons, describe, List.forall_mem_cons]
      by_cases isSpoken : event.isSpoken = true
      · rw [printer.added_of_isSpoken isSpoken, List.append_cancel_left_eq, inductionHypothesis]
        simp only [isSpoken, true_and]
      · have shorter := printer.length_spoken_lt (Bool.eq_false_iff.mpr isSpoken)
        have restShorter := (printer.next event).length_flatMap_spoken_le rest
        constructor
        · intro same
          have sameLength := congrArg List.length same
          rw [List.length_append, List.length_append] at sameLength
          omega
        · exact fun areSpoken => absurd areSpoken.1 isSpoken

end CommonMark.Printer

/-! ## The descriptions in tags -/

/-- The decoded value of `alt` in the tag of an image. -/
def altOf? (tag : Text) : Option Text :=
  ("<img".toList.isPrefixOf? tag).bind fun attributes =>
    ((findMatches HeadingElement.readAttribute? attributes).lookup "alt".toList).join.map
      decodeReferences

theorem altOf?_append {address alt : Text} (noQuote : '\x22' ∉ address)
    (noQuoteInAlt : '\x22' ∉ alt) (attributes : Text) :
    altOf? ("<img".toList ++
      ' ' :: ("src".toList ++ '=' :: '\x22' :: (address ++ '\x22' ::
        ' ' :: ("alt".toList ++ '=' :: '\x22' :: (alt ++ '\x22' :: attributes))))) =
      some (decodeReferences alt) := by
  have isSource : ∀ c ∈ "src".toList, HeadingElement.isNameChar c = true :=
    List.all_eq_true.mp (by decide)
  have isDescription : ∀ c ∈ "alt".toList, HeadingElement.isNameChar c = true :=
    List.all_eq_true.mp (by decide)
  have lower : "src".toList.map Char.toLower = "src".toList ∧
      "alt".toList.map Char.toLower = "alt".toList := by
    decide
  have different : ("alt".toList == "src".toList) = false := by
    decide
  rw [altOf?, isPrefixOf?_append, Option.bind_some,
    HeadingElement.findMatches_attribute isSource (by decide) noQuote,
    HeadingElement.findMatches_attribute isDescription (by decide) noQuoteInAlt, lower.1,
    lower.2, List.lookup_cons, different, List.lookup_cons_self]
  rfl

@[simp]
theorem altOf?_imageHtml (destination title alt : Text) :
    altOf? (Gathering.imageHtml destination title alt) = some alt := by
  have noQuote (text : Text) : '\x22' ∉ escape text := not_mem_escape (by decide) text
  have shape : ∃ attributes, Gathering.imageHtml destination title alt = "<img".toList ++
      ' ' :: ("src".toList ++ '=' :: '\x22' :: (escape (Image.ofDestination destination).source ++
        '\x22' :: ' ' :: ("alt".toList ++ '=' :: '\x22' ::
          (escape alt ++ '\x22' :: attributes)))) := by
    unfold Gathering.imageHtml Image.html Image.quotedAttribute
    simp only [List.append_assoc]
    exact ⟨_, rfl⟩
  obtain ⟨attributes, shape⟩ := shape
  rw [shape, altOf?_append (noQuote _) (noQuote _), decodeReferences_escape]

@[simp]
theorem altOf?_imageTag (printer : Printer) (destination title : Text)
    (description : List Element) :
    altOf? (printer.imageTag destination title description) =
      some (printer.descriptionOf destination title description) := by
  have shape : ∃ attributes, printer.imageTag destination title description = "<img".toList ++
      ' ' :: ("src".toList ++ '=' :: '\x22' :: (escapeAddress destination ++
        '\x22' :: ' ' :: ("alt".toList ++ '=' :: '\x22' ::
          (escapeContent (printer.descriptionOf destination title description) ++
            '\x22' :: attributes)))) := by
    unfold Printer.imageTag Printer.enterText Printer.titleAttribute
    simp only [List.append_assoc]
    split
    · exact ⟨_, rfl⟩
    · exact ⟨_, rfl⟩
  obtain ⟨attributes, shape⟩ := shape
  rw [shape, altOf?_append (quote_not_mem_escapeAddress _) (quote_not_mem_escapeContent _),
    decodeReferences_escapeContent]

/-! ## Images in a sequence -/

section

variable {before : List Event} (opens : Opens (openTags before) before)
  (outermost : ∀ tag ∈ openTags before, isReplacedWhole tag = false)
  (destination title : Text) (description : List Element) (behind : List Event)
include opens outermost

private theorem imageTag_prefix_htmlOf :
    htmlOf before ++ (Printer.initial.after before).imageTag destination title description <+:
      htmlOf (before ++
        ((Element.node (.image destination title) description).events ++ behind)) := by
  have noImage : ∀ tag ∈ openTags before, (Event.enter tag).entersImage = false := by
    intro tag member
    have notWhole := outermost tag member
    cases tag with
    | image => contradiction
    | _ => rfl
  have outside : (Printer.initial.after before).image = none :=
    Printer.image_after_of_opens rfl opens noImage
  rw [htmlOf, htmlOf, Printer.print_append, Printer.print_append, Printer.print_image outside,
    ← List.append_assoc]
  exact List.prefix_append _ _

private theorem imageHtml_prefix_replaceElements (options : RenderOptions) :
    replaceElements options before ++
        [Gathering.htmlEvent (Gathering.imageHtml destination title (spokenIn description))] <+:
      replaceElements options (before ++
        ((Element.node (.image destination title) description).events ++ behind)) := by
  have enters : Gathering.nothing.step options (.enter (.image destination title)) =
      ([], .image destination title 0 []) := rfl
  have leaves : (Gathering.image destination title 0 (spokenIn description)).step options
      (.leave (.image destination title)) =
        ([Gathering.htmlEvent (Gathering.imageHtml destination title (spokenIn description))],
          .nothing) := rfl
  rw [replaceElements, replaceElements,
    (Gathering.leads_of_opens opens outermost).replace_append, Element.events, List.cons_append,
    List.append_assoc, List.singleton_append, Gathering.replace_cons_of_step enters,
    Gathering.replace_image_eventsOf, List.nil_append, List.nil_append,
    Gathering.replace_cons_of_step leaves, ← List.append_assoc]
  exact List.prefix_append _ _

end

/-- Raw HTML in place of elements is printed as it is. -/
private theorem isInfix_htmlOf_replaceElements {options : RenderOptions} {events : List Event}
    {html : Text} (member : Gathering.htmlEvent html ∈ replaceElements options events) :
    html <:+: htmlOf (centerHeadings (replaceElements options events)) := by
  have noImage : ∀ event ∈ centerHeadings (replaceElements options events),
      event.entersImage = false :=
    Centering.forall_mem_go (fun _ => rfl) (fun _ => rfl) none _
      (Gathering.entersImage_replace options .nothing events)
  exact Printer.isInfix_print rfl noImage (Centering.html_mem_go none _ member)

/-- An image that is not within another, nor within a diagram, is printed as one tag, and another
tag stands for it in the place of its events. Both have the same description exactly if texts and
codes are all that is described. -/
theorem image_alt_stays_iff (options : RenderOptions) {before rest : List Event}
    {destination title : Text}
    (nested : IsWellNested (before ++ .enter (.image destination title) :: rest))
    (outermost : ∀ tag ∈ openTags before, isReplacedWhole tag = false) :
    let events := before ++ .enter (.image destination title) :: rest
    ∃ description behind,
      rest = eventsOf description ++ .leave (.image destination title) :: behind ∧
      let printer := Printer.initial.after before
      let plainTag := printer.imageTag destination title description
      let tag := Gathering.imageHtml destination title (spokenIn description)
      htmlOf before ++ plainTag <+: htmlOf events ∧
      replaceElements options before ++ [Gathering.htmlEvent tag] <+:
        replaceElements options events ∧
      tag <:+: htmlOf (centerHeadings (replaceElements options events)) ∧
      altOf? plainTag = some (printer.descriptionOf destination title description) ∧
      altOf? tag = some (spokenIn description) ∧
      (altOf? tag = altOf? plainTag ↔ ∀ event ∈ eventsOf description, event.isSpoken = true) := by
  obtain ⟨opens, description, behind, rfl⟩ := split_of_isWellNested nested
  have isImage : .enter (.image destination title) :: (eventsOf description ++
      .leave (.image destination title) :: behind) =
        (Element.node (.image destination title) description).events ++ behind := by
    rw [Element.events, List.cons_append, List.append_assoc, List.singleton_append]
  refine ⟨description, behind, rfl, ?_⟩
  dsimp only
  rw [isImage]
  have replaced := imageHtml_prefix_replaceElements opens outermost destination title description
    behind options
  refine ⟨imageTag_prefix_htmlOf opens outermost destination title description behind, replaced,
    isInfix_htmlOf_replaceElements (replaced.subset (by simp)), altOf?_imageTag _ _ _ _,
    altOf?_imageHtml _ _ _, ?_⟩
  rw [altOf?_imageTag, altOf?_imageHtml, Option.some_inj, spokenIn_eq_flatMap,
    Printer.descriptionOf, Printer.flatMap_spoken_eq_describe_iff]

/-- The events in front of an image in a link, and those behind its beginning: its description
holds another image. -/
def sampleBefore : List Event :=
  [.enter .paragraph, .enter (.link .ordinary "a".toList [])]

def sampleRest : List Event :=
  [.leaf (.text "b".toList), .enter (.image "c".toList []), .leaf (.code "d".toList),
    .leave (.image "c".toList []), .leave (.image "e".toList []),
    .leave (.link .ordinary "a".toList []), .leave .paragraph]

theorem image_alt_stays_in_link :
    IsWellNested (sampleBefore ++ .enter (.image "e".toList []) :: sampleRest) ∧
      (∀ tag ∈ openTags sampleBefore, isReplacedWhole tag = false) ∧
      ∃ description behind,
        sampleRest = eventsOf description ++ .leave (.image "e".toList []) :: behind ∧
        altOf? (Gathering.imageHtml "e".toList [] (spokenIn description)) =
          altOf? ((Printer.initial.after sampleBefore).imageTag "e".toList [] description) := by
  have nested : IsWellNested (sampleBefore ++ .enter (.image "e".toList []) :: sampleRest) := by
    decide
  have outermost : ∀ tag ∈ openTags sampleBefore, isReplacedWhole tag = false := by
    decide
  have allSpoken : ∀ event ∈ sampleRest, event.isSpoken = true := by
    decide
  obtain ⟨description, behind, isRest, _, _, _, _, _, sameIff⟩ :=
    image_alt_stays_iff {} nested outermost
  refine ⟨nested, outermost, description, behind, isRest, sameIff.mpr fun event member => ?_⟩
  rw [isRest] at allSpoken
  exact allSpoken event (List.mem_append_left _ member)

theorem image_alt_loses_line_break :
    let events := eventsOf (elementsOf "![a\nb](c)".toList)
    htmlOf events = "<p><img src=\"c\" alt=\"a b\" /></p>\n".toList ∧
      htmlOf (centerHeadings (replaceElements {} events)) =
        "<p><img src=\"c\" alt=\"ab\" /></p>\n".toList := by
  decide +kernel

end MarkdownDialect
