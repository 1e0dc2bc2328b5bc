import MarkdownDialect.Proofs.Heading.ListReading
import MarkdownDialect.Proofs.Text.Unescape
import Mathlib.Data.Nat.SuccPred

/-!
# The nesting of a table of contents

The levels of the headings in a table of contents are found in the depths of its items, whatever
levels are skipped: after an item as many lists are open as the level of its heading lies below the
first level, and one more.
-/

namespace MarkdownDialect.Toc

open Text HtmlToken

/-! ## The tags between two items -/

@[simp]
theorem htmlTokens_openList : htmlTokens openList = [tag "ul".toList, char '\n'] := by
  decide

@[simp]
theorem htmlTokens_closeList : htmlTokens closeList = [tag "/ul".toList, char '\n'] := by
  decide

theorem leavesNoTagOpen_openList : LeavesNoTagOpen openList :=
  (@leavesNoTagOpen_tag "ul".toList (by decide)).append
    (@leavesNoTagOpen_of_not_mem ['\n'] (by decide))

theorem leavesNoTagOpen_closeList : LeavesNoTagOpen closeList :=
  (@leavesNoTagOpen_tag "/ul".toList (by decide)).append
    (@leavesNoTagOpen_of_not_mem ['\n'] (by decide))

/-- Lists are opened or closed between two items, but not both. -/
theorem climb_cases (current next : Nat) :
    (∃ count, next = current + count ∧
        climb current next = (List.replicate count openList).flatten) ∨
      ∃ count, current = next + count ∧
        climb current next = (List.replicate count closeList).flatten := by
  rcases Nat.le_total current next with deeper | higher
  · left
    refine ⟨next - current, by omega, ?_⟩
    have noneClosed : current - next = 0 := by omega
    rw [climb, noneClosed]
    simp
  · right
    refine ⟨current - next, by omega, ?_⟩
    have noneOpened : next - current = 0 := by omega
    rw [climb, noneOpened]
    simp

theorem leavesNoTagOpen_climb (current next : Nat) : LeavesNoTagOpen (climb current next) := by
  rcases climb_cases current next with ⟨count, _, isClimb⟩ | ⟨count, _, isClimb⟩
  · rw [isClimb]
    exact leavesNoTagOpen_openList.replicate count
  · rw [isClimb]
    exact leavesNoTagOpen_closeList.replicate count

private theorem depthChanges_climb (current next : Nat) :
    (depthChanges (climb current next)).sum = next - current ∧
      ∀ low : Int, low ≤ 0 → low ≤ next - current →
        StaysAbove low (depthChanges (climb current next)) := by
  have opening : depthChanges openList = [1] := by decide
  have closing : depthChanges closeList = [-1] := by decide
  rcases climb_cases current next with ⟨count, rfl, isClimb⟩ | ⟨count, rfl, isClimb⟩
  · rw [isClimb, depthChanges_replicate leavesNoTagOpen_openList opening]
    constructor
    · simp
    · intro low notAbove _
      exact StaysAbove.replicate notAbove (by omega)
  · rw [isClimb, depthChanges_replicate leavesNoTagOpen_closeList closing]
    constructor
    · simp
    · intro low notAbove bound
      exact StaysAbove.replicate notAbove (by omega)

section Reading

variable {reader : ListReader}

private theorem read_openList (noLink : reader.link = none) :
    reader.read openList = { reader with depth := reader.depth.succ } := by
  obtain ⟨depth, itemDepth, link, entries⟩ := reader
  subst noLink
  rw [ListReader.read, htmlTokens_openList]
  rfl

private theorem read_closeList (noLink : reader.link = none) :
    reader.read closeList = { reader with depth := reader.depth.pred } := by
  obtain ⟨depth, itemDepth, link, entries⟩ := reader
  subst noLink
  rw [ListReader.read, htmlTokens_closeList]
  rfl

/-- The number of open lists follows the level. -/
private theorem read_climb {start current next : Nat} (notAbove : start ≤ current)
    (nextNotAbove : start ≤ next) (noLink : reader.link = none)
    (isDepth : reader.depth = current - start + 1) :
    reader.read (climb current next) = { reader with depth := next - start + 1 } := by
  rcases climb_cases current next with ⟨count, isNext, isClimb⟩ | ⟨count, isCurrent, isClimb⟩
  · have follows : reader.depth + count = next - start + 1 := by omega
    rw [isClimb, ListReader.read_replicate leavesNoTagOpen_openList read_openList noLink,
      Nat.succ_iterate, follows]
  · have follows : reader.depth - count = next - start + 1 := by omega
    rw [isClimb, ListReader.read_replicate leavesNoTagOpen_closeList read_closeList noLink,
      Nat.pred_iterate, follows]

end Reading

/-! ## An item -/

/-- What stands between the brackets of the tag that opens the link of an item. -/
def linkTag (heading : Heading) : Text :=
  "a href=\"#".toList ++ heading.id ++ ['\x22']

private theorem targets_linkTag {heading : Heading} (noQuote : '\x22' ∉ heading.id) :
    targets (linkTag heading) = [heading.id] := by
  have beforeLink : Inert readTarget? "a ".toList := inert_of_not_mem_h (by decide)
  have shape : linkTag heading = "a ".toList ++ (linkOpening ++ heading.id ++ '\x22' :: []) := by
    have front : "a href=\"#".toList = "a ".toList ++ linkOpening := rfl
    unfold linkTag
    rw [front]
    simp only [List.append_assoc]
  have reading := readTarget?_eq_some_iff.mpr
    ⟨(rfl : linkOpening ++ heading.id ++ '\x22' :: [] = _), noQuote⟩
  rw [targets, shape, findMatches_inert_append beforeLink,
    findMatches_of_some advances_target reading]
  rfl

theorem entry_eq (heading : Heading) :
    entry heading = '<' :: ("li".toList ++ '>' :: '<' :: (linkTag heading ++ '>' ::
      (escape heading.text ++ '<' :: ("/a".toList ++ '>' :: '<' :: ("/li".toList ++
        '>' :: ['\n']))))) := by
  have front : "<li><a href=\"#".toList =
      '<' :: ("li".toList ++ '>' :: '<' :: "a href=\"#".toList) := by
    decide
  have middle : "\">".toList = ['\x22', '>'] := by
    decide
  have back : "</a></li>\n".toList =
      '<' :: ("/a".toList ++ '>' :: '<' :: ("/li".toList ++ '>' :: ['\n'])) := by
    decide
  unfold entry linkTag
  rw [front, middle, back]
  simp only [List.append_assoc, List.cons_append, List.nil_append]

theorem htmlTokens_entry_append {heading : Heading} (isSlug : heading.id = slug heading.text)
    (rest : Text) :
    htmlTokens (entry heading ++ rest) =
      [tag "li".toList, tag (linkTag heading)] ++ ((escape heading.text).map char ++
        [tag "/a".toList, tag "/li".toList, char '\n']) ++ htmlTokens rest := by
  have noEnd : '>' ∉ linkTag heading := by
    have noEndInId : '>' ∉ heading.id := by
      rw [isSlug]
      exact not_mem_slug (by decide) heading.text
    unfold linkTag
    exact List.not_mem_append (List.not_mem_append (by decide) noEndInId) (by decide)
  have noTag : '<' ∉ escape heading.text := not_mem_escape (by decide) heading.text
  have shape : entry heading ++ rest =
      '<' :: ("li".toList ++ '>' :: '<' :: (linkTag heading ++ '>' ::
        (escape heading.text ++ '<' :: ("/a".toList ++ '>' :: '<' :: ("/li".toList ++
          '>' :: '\n' :: rest))))) := by
    rw [entry_eq]
    simp only [List.append_assoc, List.cons_append, List.nil_append]
  rw [shape, htmlTokens_tag (by decide), htmlTokens_tag noEnd, htmlTokens_append_of_not_mem noTag,
    htmlTokens_tag (by decide), htmlTokens_tag (by decide), htmlTokens_char (by decide)]
  simp only [List.append_assoc, List.cons_append, List.nil_append]

theorem htmlTokens_entry {heading : Heading} (isSlug : heading.id = slug heading.text) :
    htmlTokens (entry heading) =
      [tag "li".toList, tag (linkTag heading)] ++ ((escape heading.text).map char ++
        [tag "/a".toList, tag "/li".toList, char '\n']) := by
  simpa using htmlTokens_entry_append isSlug []

theorem leavesNoTagOpen_entry {heading : Heading} (isSlug : heading.id = slug heading.text) :
    LeavesNoTagOpen (entry heading) := by
  intro rest
  rw [htmlTokens_entry_append isSlug, htmlTokens_entry isSlug]

@[simp]
theorem tagName_linkTag (heading : Heading) : tagName (linkTag heading) = "a".toList := by
  unfold linkTag
  rfl

/-- An item opens and closes no list. -/
private theorem depthChanges_entry {heading : Heading} (isSlug : heading.id = slug heading.text) :
    depthChanges (entry heading) = [] := by
  have linkOpens : depthChange? (tag (linkTag heading)) = none := by
    rw [depthChange?, tagName_linkTag]
    rfl
  have itemBegins : depthChange? (tag "li".toList) = none := by rfl
  have itemEnds : ([tag "/a".toList, tag "/li".toList, char '\n'] : List HtmlToken).filterMap
      depthChange? = [] := by
    rfl
  have inText : ((escape heading.text).map char).filterMap depthChange? = [] := by
    rw [List.filterMap_map]
    exact List.filterMap_eq_nil_iff.mpr fun _ _ => rfl
  rw [depthChanges, htmlTokens_entry isSlug, List.filterMap_append, List.filterMap_append, inText,
    itemEnds, List.filterMap_cons_none itemBegins, List.filterMap_cons_none linkOpens]
  rfl

/-- An item is read with its id and its text as they were before they were escaped. -/
private theorem read_entry {reader : ListReader} {heading : Heading}
    (isSlug : heading.id = slug heading.text) (noLink : reader.link = none) :
    reader.read (entry heading) =
      { reader with
        itemDepth := reader.depth
        entries := reader.entries ++ [⟨reader.depth, heading.id, heading.text⟩] } := by
  obtain ⟨depth, itemDepth, link, entries⟩ := reader
  subst noLink
  have noQuote : '\x22' ∉ heading.id := by
    rw [isSlug]
    exact not_mem_slug (by decide) heading.text
  have opened : ([tag "li".toList, tag (linkTag heading)] : List HtmlToken).foldl ListReader.step
      ⟨depth, itemDepth, none, entries⟩ = ⟨depth, depth, some (heading.id, []), entries⟩ := by
    have itemBegins : ListReader.step ⟨depth, itemDepth, none, entries⟩ (tag "li".toList) =
        ⟨depth, depth, none, entries⟩ := rfl
    have linkOpens : ListReader.step ⟨depth, depth, none, entries⟩ (tag (linkTag heading)) =
        ⟨depth, depth, some (heading.id, []), entries⟩ := by
      rw [ListReader.step, tagName_linkTag, targets_linkTag noQuote]
      rfl
    rw [List.foldl_cons, itemBegins, List.foldl_cons, linkOpens]
    rfl
  rw [ListReader.read, htmlTokens_entry isSlug, List.foldl_append, opened, List.foldl_append,
    ListReader.foldl_step_char rfl, List.nil_append]
  have closed : ([tag "/a".toList, tag "/li".toList, char '\n'] : List HtmlToken).foldl
      ListReader.step ⟨depth, depth, some (heading.id, escape heading.text), entries⟩ =
        ⟨depth, depth, none, entries ++ [⟨depth, heading.id, unescape (escape heading.text)⟩]⟩ :=
    rfl
  rw [closed, unescape_escape]

/-! ## All items -/

section Items

variable {start current : Nat} {listed : List Heading}

theorem leavesNoTagOpen_entries (slugs : ∀ heading ∈ listed, heading.id = slug heading.text) :
    LeavesNoTagOpen (entries start current listed) := by
  induction listed generalizing current with
  | nil => exact leavesNoTagOpen_climb current start
  | cons heading others inductionHypothesis =>
      rw [List.forall_mem_cons] at slugs
      rw [entries]
      exact ((leavesNoTagOpen_climb current heading.level).append
        (leavesNoTagOpen_entry slugs.1)).append (inductionHypothesis slugs.2)

/-- The lists below the first are all closed in the end, and none that was not opened. -/
private theorem depthChanges_entries (slugs : ∀ heading ∈ listed, heading.id = slug heading.text)
    (deeper : ∀ heading ∈ listed, start ≤ heading.level) (notAbove : start ≤ current) :
    (depthChanges (entries start current listed)).sum = start - current ∧
      StaysAbove (start - current) (depthChanges (entries start current listed)) := by
  induction listed generalizing current with
  | nil =>
      obtain ⟨total, stays⟩ := depthChanges_climb current start
      exact ⟨total, stays _ (by omega) (by omega)⟩
  | cons heading others inductionHypothesis =>
      rw [List.forall_mem_cons] at slugs deeper
      obtain ⟨total, stays⟩ := depthChanges_climb current heading.level
      obtain ⟨restTotal, restStays⟩ := inductionHypothesis slugs.2 deeper.2 deeper.1
      have split : depthChanges (entries start current (heading :: others)) =
          depthChanges (climb current heading.level) ++
            depthChanges (entries start heading.level others) := by
        rw [entries, List.append_assoc, depthChanges_append (leavesNoTagOpen_climb _ _),
          depthChanges_append (leavesNoTagOpen_entry slugs.1), depthChanges_entry slugs.1,
          List.nil_append]
      have levelDeeper := deeper.1
      rw [split]
      constructor
      · rw [List.sum_append, total, restTotal]
        omega
      · apply (stays (start - current) (by omega) (by omega)).append
        have sameBound : (start : Int) - current - (heading.level - current) =
            start - heading.level := by
          omega
        rwa [total, sameBound]

/-- The items are read with the depths that their levels call for. -/
private theorem read_entries {reader : ListReader}
    (slugs : ∀ heading ∈ listed, heading.id = slug heading.text)
    (deeper : ∀ heading ∈ listed, start ≤ heading.level) (notAbove : start ≤ current)
    (noLink : reader.link = none) (isDepth : reader.depth = current - start + 1) :
    (reader.read (entries start current listed)).link = none ∧
      (reader.read (entries start current listed)).entries = reader.entries ++
        listed.map fun heading => ⟨heading.level - start + 1, heading.id, heading.text⟩ := by
  induction listed generalizing current reader with
  | nil =>
      rw [entries, read_climb notAbove (Nat.le_refl start) noLink isDepth]
      exact ⟨noLink, (List.append_nil _).symm⟩
  | cons heading others inductionHypothesis =>
      rw [List.forall_mem_cons] at slugs deeper
      have noLinkBefore : { reader with depth := heading.level - start + 1 }.link = none := noLink
      have restReading := @inductionHypothesis heading.level
        { reader with
          depth := heading.level - start + 1
          itemDepth := heading.level - start + 1
          entries := reader.entries ++ [⟨heading.level - start + 1, heading.id, heading.text⟩] }
        slugs.2 deeper.2 deeper.1 noLink rfl
      rw [List.append_assoc, List.singleton_append] at restReading
      rw [entries, List.append_assoc, ListReader.read_append (leavesNoTagOpen_climb _ _),
        read_climb notAbove deeper.1 noLink isDepth,
        ListReader.read_append (leavesNoTagOpen_entry slugs.1), read_entry slugs.1 noLinkBefore]
      exact restReading

end Items

/-! ## The whole table -/

theorem build_eq_nil_iff {headings : List Heading} {start : Nat} :
    build headings start = [] ↔ ∀ heading ∈ headings, ¬start ≤ heading.level := by
  have noneListed : listed headings start = [] ↔ ∀ heading ∈ headings, ¬start ≤ heading.level := by
    simp [listed]
  have listOpening : "<ul class=\"toc-list\">\n".toList ≠ [] := by
    decide
  rw [← noneListed]
  rcases build_cases headings start with ⟨isNone, isEmpty⟩ | ⟨isSome, isBuilt⟩
  · simp [isNone, isEmpty]
  · have nonempty : build headings start ≠ [] := by
      rw [isBuilt]
      exact List.append_ne_nil_of_left_ne_nil listOpening _
    simp [isSome, nonempty]

theorem leavesNoTagOpen_listOpening : LeavesNoTagOpen "<ul class=\"toc-list\">\n".toList :=
  (@leavesNoTagOpen_tag "ul class=\"toc-list\"".toList (by decide)).append
    (@leavesNoTagOpen_of_not_mem ['\n'] (by decide))

section Built

variable {headings : List Heading} (slugs : ∀ heading ∈ headings, heading.id = slug heading.text)
  (start : Nat)

include slugs

theorem slugs_listed : ∀ heading ∈ listed headings start, heading.id = slug heading.text :=
  fun heading member => slugs heading (List.mem_of_mem_filter member)

private theorem isNested_build : IsNested (depthChanges (build headings start)) := by
  rcases build_cases headings start with ⟨_, isEmpty⟩ | ⟨_, isBuilt⟩
  · rw [isEmpty]
    exact IsNested.nil
  · have listedSlugs := slugs_listed slugs start
    obtain ⟨total, stays⟩ :=
      depthChanges_entries listedSlugs level_of_mem_listed (Nat.le_refl start)
    have opening : depthChanges "<ul class=\"toc-list\">\n".toList = [1] := by
      decide
    have closing : depthChanges "</ul>".toList = [-1] := by
      decide
    rw [isBuilt, depthChanges_append leavesNoTagOpen_listOpening, opening,
      depthChanges_append (leavesNoTagOpen_entries listedSlugs), closing]
    rw [Int.sub_self] at total stays
    exact IsNested.of_staysAbove total stays

/-- The items of a table of contents are those of the listed headings, each as deep as its level
lies below the first level. -/
private theorem listEntries_build :
    listEntries (build headings start) = (listed headings start).map fun heading =>
      ⟨heading.level - start + 1, heading.id, heading.text⟩ := by
  rcases build_cases headings start with ⟨noneListed, isEmpty⟩ | ⟨_, isBuilt⟩
  · rw [isEmpty, noneListed]
    rfl
  · have listedSlugs := slugs_listed slugs start
    have opening : ({} : ListReader).read "<ul class=\"toc-list\">\n".toList =
        { depth := 1 } := by
      rfl
    obtain ⟨noLink, isRead⟩ := @read_entries start start (listed headings start) { depth := 1 }
      listedSlugs level_of_mem_listed (Nat.le_refl start) rfl (by simp)
    rw [listEntries, isBuilt, ListReader.read_append leavesNoTagOpen_listOpening, opening,
      ListReader.read_append (leavesNoTagOpen_entries listedSlugs)]
    rw [List.nil_append] at isRead
    rw [← isRead]
    rfl

end Built

/-- For headings whose ids are the slugs of their texts, a table of contents is empty exactly if
none of them is listed. Otherwise its first list is open until the last tag, and its items are the
listed headings in their order: the level of each is found in the depth of its item, and its text in
the text of the link. -/
theorem headings_read_back_from_build (titles : List (Nat × Text)) (start : Nat) :
    let headings := titles.map fun (level, text) => Heading.ofText level text
    let toc := build headings start
    (toc = [] ↔ ∀ heading ∈ headings, ¬start ≤ heading.level) ∧
      IsNested (depthChanges toc) ∧
      (∀ item ∈ listEntries toc, 1 ≤ item.depth) ∧
      (listEntries toc).map (fun item => (start + item.depth - 1, item.target, item.text)) =
        (headings.filter fun heading => start ≤ heading.level).map
          fun heading => (heading.level, heading.id, heading.text) := by
  intro headings toc
  have slugs : ∀ heading ∈ headings, heading.id = slug heading.text := by
    intro heading member
    obtain ⟨⟨level, text⟩, _, rfl⟩ := List.mem_map.mp member
    rfl
  refine ⟨build_eq_nil_iff, isNested_build slugs start, ?_, ?_⟩
  · rw [listEntries_build slugs start, List.forall_mem_map]
    intro heading _
    exact Nat.le_add_left 1 _
  · rw [listEntries_build slugs start, List.map_map]
    apply List.map_congr_left
    intro heading member
    have deeper := level_of_mem_listed heading member
    have sameLevel : start + (heading.level - start + 1) - 1 = heading.level := by
      omega
    simp only [Function.comp_apply, sameLevel]

end MarkdownDialect.Toc
