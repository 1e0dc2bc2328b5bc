import MarkdownDialect.CommonMark.Element

/-!
# Forests and their events

The events of a forest are well nested: every element that is entered is left again, and before
the element around it. The other way round, every well-nested sequence is that of a forest.
-/

namespace MarkdownDialect.CommonMark

/-- A forest is empty, or it begins with a leaf, or it begins with an element over a forest. -/
@[elab_as_elim]
theorem forest_induction {motive : List Element → Prop} (nil : motive [])
    (leaf : ∀ inner rest, motive rest → motive (.leaf inner :: rest))
    (node : ∀ tag children rest, motive children → motive rest →
      motive (.node tag children :: rest)) : ∀ forest, motive forest
  | [] => nil
  | .leaf inner :: rest => leaf inner rest (forest_induction nil leaf node rest)
  | .node tag children :: rest =>
      node tag children rest (forest_induction nil leaf node children)
        (forest_induction nil leaf node rest)

/-! ## Events -/

@[simp]
theorem eventsOf_nil : eventsOf [] = [] := rfl

@[simp]
theorem eventsOf_leaf_cons (inner : Leaf) (rest : List Element) :
    eventsOf (.leaf inner :: rest) = .leaf inner :: eventsOf rest := rfl

@[simp]
theorem eventsOf_node_cons (tag : Tag) (children rest : List Element) :
    eventsOf (.node tag children :: rest) =
      .enter tag :: (eventsOf children ++ .leave tag :: eventsOf rest) := by
  rw [eventsOf, Element.events, List.cons_append, List.append_assoc, List.singleton_append]

@[simp]
theorem eventsOf_append (first second : List Element) :
    eventsOf (first ++ second) = eventsOf first ++ eventsOf second := by
  induction first with
  | nil => rfl
  | cons element rest inductionHypothesis =>
      rw [List.cons_append, eventsOf, eventsOf, inductionHypothesis, List.append_assoc]

/-! ## Nesting -/

/-- The tags that are open behind some events, the innermost first, given those that are open
before them. There are none if an event leaves an element other than the innermost. -/
def openAfter? : List Tag → List Event → Option (List Tag)
  | opened, [] => some opened
  | opened, .leaf _ :: rest => openAfter? opened rest
  | opened, .enter tag :: rest => openAfter? (tag :: opened) rest
  | [], .leave _ :: _ => none
  | tag :: opened, .leave left :: rest => if tag = left then openAfter? opened rest else none

/-- Whether every element is left before the one around it, and all are left in the end. -/
def IsWellNested (events : List Event) : Prop :=
  openAfter? [] events = some []

instance (events : List Event) : Decidable (IsWellNested events) :=
  inferInstanceAs (Decidable (_ = _))

/-- The tags that are open behind some events. -/
def openTags (events : List Event) : List Tag :=
  (openAfter? [] events).getD []

theorem openAfter?_append (opened : List Tag) (first second : List Event) :
    openAfter? opened (first ++ second) =
      (openAfter? opened first).bind fun tags => openAfter? tags second := by
  fun_induction openAfter? opened first with
  | case1 => rfl
  | case2 opened inner rest inductionHypothesis => exact inductionHypothesis
  | case3 opened tag rest inductionHypothesis => exact inductionHypothesis
  | case4 => rfl
  | case5 opened tag rest inductionHypothesis =>
      rw [List.cons_append, openAfter?, if_pos rfl, inductionHypothesis]
  | case6 tag opened left rest different =>
      rw [List.cons_append, openAfter?, if_neg different]
      rfl

@[simp]
theorem openAfter?_eventsOf_append (opened : List Tag) (forest : List Element)
    (rest : List Event) :
    openAfter? opened (eventsOf forest ++ rest) = openAfter? opened rest := by
  induction forest using forest_induction generalizing opened rest with
  | nil => rfl
  | leaf inner others inductionHypothesis => exact inductionHypothesis opened rest
  | node tag children others childrenHypothesis othersHypothesis =>
      rw [eventsOf_node_cons, List.cons_append, List.append_assoc, List.cons_append, openAfter?,
        childrenHypothesis, openAfter?, if_pos rfl, othersHypothesis]

/-- Whether events close the open elements one after the other, each behind a forest. -/
def Closes : List Tag → List Event → Prop
  | [], events => ∃ forest, events = eventsOf forest
  | tag :: opened, events =>
    ∃ forest rest, events = eventsOf forest ++ .leave tag :: rest ∧ Closes opened rest

private theorem Closes.prepend {opened : List Tag} {events : List Event}
    (closes : Closes opened events)
    (element : Element) : Closes opened (element.events ++ events) := by
  cases opened with
  | nil =>
      obtain ⟨forest, rfl⟩ := closes
      exact ⟨element :: forest, rfl⟩
  | cons tag opened =>
      obtain ⟨forest, rest, rfl, closesRest⟩ := closes
      refine ⟨element :: forest, rest, ?_, closesRest⟩
      rw [eventsOf, List.append_assoc]

theorem closes_of_openAfter? {opened : List Tag} {events : List Event}
    (closed : openAfter? opened events = some []) : Closes opened events := by
  fun_induction openAfter? opened events with
  | case1 opened =>
      obtain rfl := Option.some.inj closed
      exact ⟨[], rfl⟩
  | case2 opened inner rest inductionHypothesis =>
      exact (inductionHypothesis closed).prepend (.leaf inner)
  | case3 opened tag rest inductionHypothesis =>
      obtain ⟨children, others, rfl, closesOthers⟩ := inductionHypothesis closed
      have prepended := closesOthers.prepend (.node tag children)
      rwa [Element.events, List.cons_append, List.append_assoc, List.singleton_append] at prepended
  | case4 => contradiction
  | case5 opened tag rest inductionHypothesis =>
      exact ⟨[], rest, rfl, inductionHypothesis closed⟩
  | case6 => contradiction

/-- Whether events open elements one after the other, each behind a forest. -/
def Opens : List Tag → List Event → Prop
  | [], events => ∃ forest, events = eventsOf forest
  | tag :: opened, events =>
    ∃ front forest, events = front ++ .enter tag :: eventsOf forest ∧ Opens opened front

private theorem Opens.append {opened : List Tag} {events : List Event} (opens : Opens opened events)
    (element : Element) : Opens opened (events ++ element.events) := by
  have atEnd (forest : List Element) :
      eventsOf forest ++ element.events = eventsOf (forest ++ [element]) := by
    rw [eventsOf_append, eventsOf, eventsOf_nil, List.append_nil]
  cases opened with
  | nil =>
      obtain ⟨forest, rfl⟩ := opens
      exact ⟨forest ++ [element], atEnd forest⟩
  | cons tag opened =>
      obtain ⟨front, forest, rfl, opensFront⟩ := opens
      refine ⟨front, forest ++ [element], ?_, opensFront⟩
      rw [List.append_assoc, List.cons_append, atEnd]

private theorem opens_of_openAfter? {opened tags : List Tag} {front events : List Event}
    (opens : Opens opened front) (left : openAfter? opened events = some tags) :
    Opens tags (front ++ events) := by
  fun_induction openAfter? opened events generalizing front with
  | case1 opened =>
      obtain rfl := Option.some.inj left
      rwa [List.append_nil]
  | case2 opened inner rest inductionHypothesis =>
      rw [← List.singleton_append, ← List.append_assoc]
      exact inductionHypothesis (opens.append (.leaf inner)) left
  | case3 opened tag rest inductionHypothesis =>
      rw [← List.singleton_append, ← List.append_assoc]
      exact inductionHypothesis ⟨front, [], rfl, opens⟩ left
  | case4 => contradiction
  | case5 opened tag rest inductionHypothesis =>
      obtain ⟨front, children, rfl, opensFront⟩ := opens
      have regrouped : front ++ .enter tag :: eventsOf children ++ .leave tag :: rest =
          front ++ (Element.node tag children).events ++ rest := by
        rw [Element.events, List.append_assoc, List.append_assoc, List.cons_append,
          List.cons_append, List.append_assoc, List.singleton_append]
      rw [regrouped]
      exact inductionHypothesis (opensFront.append (.node tag children)) left
  | case6 => contradiction

/-- The well-nested sequences are those of forests. -/
theorem isWellNested_iff {events : List Event} :
    IsWellNested events ↔ ∃ forest, events = eventsOf forest := by
  constructor
  · exact closes_of_openAfter?
  · rintro ⟨forest, rfl⟩
    have closed := openAfter?_eventsOf_append [] forest []
    rwa [List.append_nil] at closed

/-- Where an element is entered in a well-nested sequence, the elements around it are open, and it
is left again behind a forest. -/
theorem split_of_isWellNested {before rest : List Event} {tag : Tag}
    (nested : IsWellNested (before ++ .enter tag :: rest)) :
    Opens (openTags before) before ∧
      ∃ children after, rest = eventsOf children ++ .leave tag :: after := by
  rw [IsWellNested, openAfter?_append, Option.bind_eq_some_iff] at nested
  obtain ⟨tags, opened, closed⟩ := nested
  obtain ⟨children, after, isRest, _⟩ : Closes (tag :: tags) rest := closes_of_openAfter? closed
  have nothingOpen : Opens [] [] := ⟨[], rfl⟩
  rw [openTags, opened, Option.getD_some]
  exact ⟨opens_of_openAfter? nothingOpen opened, children, after, isRest⟩

end MarkdownDialect.CommonMark
