import MarkdownDialect.Proofs.Heading.Extraction
import MarkdownDialect.Proofs.Heading.Slug
import MarkdownDialect.Proofs.Text.Escape
import MarkdownDialect.Rendering

/-!
# What a table of contents links to

The targets of the links are read from the printed text, at every place where a link to the same
page is written. They are the ids of the listed headings in their order: no text of a heading and
no caption can bring in a link of its own.
-/

namespace MarkdownDialect.Toc

open Text

/-! ## Reading the targets -/

def linkOpening : Text :=
  "href=\"#".toList

/-- A link to the same page, at the front of a text: the id that it names. -/
def readTarget? (text : Text) : Option (Text × Text) :=
  (linkOpening.isPrefixOf? text).bind (breakOn ['\x22'])

/-- The ids that the links of a text name, in their order. -/
def targets (html : Text) : List Text :=
  findMatches readTarget? html

theorem readTarget?_eq_some_iff {text id after : Text} :
    readTarget? text = some (id, after) ↔
      text = linkOpening ++ id ++ '\x22' :: after ∧ '\x22' ∉ id := by
  simp only [readTarget?, Option.bind_eq_some_iff, isPrefixOf?_eq_some_iff,
    breakOn_singleton_eq_some_iff]
  constructor
  · intro ⟨rest, isText, isRest, noQuote⟩
    rw [isRest] at isText
    exact ⟨by rw [isText, List.append_assoc], noQuote⟩
  · intro ⟨isText, noQuote⟩
    exact ⟨id ++ '\x22' :: after, by rw [isText, List.append_assoc], rfl, noQuote⟩

theorem advances_target : Advances readTarget? := by
  intro text id after reading
  obtain ⟨rfl, _⟩ := readTarget?_eq_some_iff.mp reading
  exact ⟨linkOpening ++ id ++ ['\x22'], by simp, by simp⟩

theorem inert_of_not_mem_h {piece : Text} (absent : 'h' ∉ piece) : Inert readTarget? piece := by
  apply inert_of_not_mem _ absent
  intro c rest different
  rw [Option.eq_none_iff_forall_ne_some]
  intro ⟨id, after⟩ reading
  obtain ⟨split, _⟩ := readTarget?_eq_some_iff.mp reading
  exact different (List.cons.inj split).1

/-- A link does not reach over the end of a line, and it needs a quotation mark. -/
theorem inert_line {piece : Text} (noQuote : '\x22' ∉ piece) :
    Inert readTarget? (piece ++ ['\n']) := by
  intro back suffix nonempty rest
  rcases List.eq_nil_or_concat back with empty | ⟨front, last, isBack⟩
  · exact absurd empty nonempty
  · obtain ⟨before, split⟩ := suffix
    rw [isBack, List.concat_eq_append, ← List.append_assoc] at split
    obtain ⟨isPiece, isLast⟩ := List.append_inj' split rfl
    have noQuoteInFront : '\x22' ∉ front := by
      intro member
      apply noQuote
      rw [← isPiece]
      exact List.mem_append_right before member
    have noOpening : linkOpening.isPrefixOf? front = none := by
      rw [isPrefixOf?_eq_none_iff]
      rintro after rfl
      exact noQuoteInFront (List.mem_append_left after (by decide))
    have noFeed : '\n' ∉ linkOpening := by decide
    rw [List.cons.injEq] at isLast
    rw [readTarget?, isBack, isLast.1, List.concat_eq_append, List.append_assoc,
      List.singleton_append, isPrefixOf?_append_cons rest front noFeed, noOpening]
    rfl

/-! ## The pieces of a table of contents -/

private theorem inert_climb (current next : Nat) : Inert readTarget? (climb current next) := by
  apply inert_of_not_mem_h
  intro member
  have noneHolds : 'h' ∉ openList ∧ 'h' ∉ closeList := by decide
  simp only [climb, List.mem_append, List.mem_flatten, List.mem_replicate] at member
  rcases member with ⟨piece, ⟨_, rfl⟩, inPiece⟩ | ⟨piece, ⟨_, rfl⟩, inPiece⟩
  · exact noneHolds.1 inPiece
  · exact noneHolds.2 inPiece

private theorem findMatches_entry {heading : Heading} (noQuote : '\x22' ∉ heading.id)
    (rest : Text) :
    findMatches readTarget? (entry heading ++ rest) =
      heading.id :: findMatches readTarget? rest := by
  have beforeLink : Inert readTarget? "<li><a ".toList := inert_of_not_mem_h (by decide)
  have behindLink : Inert readTarget? (['>'] ++ (escape heading.text ++ "</a></li>".toList ++
      ['\n'])) := by
    apply Inert.append (inert_of_not_mem_h (by decide))
    apply inert_line
    exact List.not_mem_append (not_mem_escape (by decide) heading.text) (by decide)
  have shape : entry heading ++ rest = "<li><a ".toList ++ (linkOpening ++ heading.id ++ '\x22' ::
      ((['>'] ++ (escape heading.text ++ "</a></li>".toList ++ ['\n'])) ++ rest)) := by
    have front : "<li><a href=\"#".toList = "<li><a ".toList ++ linkOpening := rfl
    have middle : "\">".toList = ['\x22', '>'] := rfl
    have back : "</a></li>\n".toList = "</a></li>".toList ++ ['\n'] := rfl
    unfold entry
    rw [front, middle, back]
    simp only [List.append_assoc, List.cons_append, List.nil_append]
  have reading := readTarget?_eq_some_iff.mpr
    ⟨(rfl : linkOpening ++ heading.id ++ '\x22' ::
      ((['>'] ++ (escape heading.text ++ "</a></li>".toList ++ ['\n'])) ++ rest) = _), noQuote⟩
  rw [shape, findMatches_inert_append beforeLink, findMatches_of_some advances_target reading,
    findMatches_inert_append behindLink]

private theorem findMatches_entries (start : Nat) {current : Nat} {headings : List Heading}
    (noQuote : ∀ heading ∈ headings, '\x22' ∉ heading.id) (rest : Text) :
    findMatches readTarget? (entries start current headings ++ rest) =
      headings.map Heading.id ++ findMatches readTarget? rest := by
  induction headings generalizing current with
  | nil => exact findMatches_inert_append (inert_climb current start) rest
  | cons heading others inductionHypothesis =>
      have firstNoQuote := noQuote heading List.mem_cons_self
      have othersNoQuote : ∀ other ∈ others, '\x22' ∉ other.id := by
        intro other member
        exact noQuote other (List.mem_cons_of_mem heading member)
      rw [entries, List.append_assoc, List.append_assoc,
        findMatches_inert_append (inert_climb current heading.level),
        findMatches_entry firstNoQuote, inductionHypothesis othersNoQuote]
      rfl

private theorem inert_caption (title : Option Text) : Inert readTarget? (caption title) := by
  cases title with
  | none =>
      intro back suffix nonempty
      exact absurd (List.suffix_nil.mp suffix) nonempty
  | some title =>
      have shape : caption (some title) = "<div class=\"toc-title\">".toList ++
          (escape title ++ "</div>".toList ++ ['\n']) := by
        have closing : "</div>\n".toList = "</div>".toList ++ ['\n'] := rfl
        unfold caption
        dsimp only
        rw [closing, List.append_assoc, List.append_assoc]
      rw [shape]
      apply Inert.append (inert_of_not_mem_h (by decide))
      apply inert_line
      exact List.not_mem_append (not_mem_escape (by decide) title) (by decide)

/-! ## The whole table -/

/-- The headings that a table of contents lists. -/
def listed (headings : List Heading) (start : Nat) : List Heading :=
  headings.filter fun heading => start ≤ heading.level

theorem level_of_mem_listed {headings : List Heading} {start : Nat} :
    ∀ heading ∈ listed headings start, start ≤ heading.level :=
  fun _ member => of_decide_eq_true (List.mem_filter.mp member).2

theorem build_cases (headings : List Heading) (start : Nat) :
    listed headings start = [] ∧ build headings start = [] ∨
      listed headings start ≠ [] ∧ build headings start = "<ul class=\"toc-list\">\n".toList ++
        (entries start start (listed headings start) ++ "</ul>".toList) := by
  unfold build listed
  cases headings.filter fun heading => start ≤ heading.level with
  | nil => exact Or.inl ⟨rfl, rfl⟩
  | cons heading others => exact Or.inr ⟨by simp, List.append_assoc _ _ _⟩

/-- The list of headings links to the headings in it, in their order, and to nothing else. -/
theorem findMatches_build {headings : List Heading} (start : Nat)
    (noQuote : ∀ heading ∈ headings, '\x22' ∉ heading.id) (rest : Text) :
    findMatches readTarget? (build headings start ++ rest) =
      (headings.filter fun heading => start ≤ heading.level).map Heading.id ++
        findMatches readTarget? rest := by
  rcases build_cases headings start with ⟨noneListed, isEmpty⟩ | ⟨_, isBuilt⟩
  · rw [← listed, noneListed, isEmpty]
    rfl
  · have listedNoQuote : ∀ heading ∈ listed headings start, '\x22' ∉ heading.id :=
      fun heading member => noQuote heading (List.mem_of_mem_filter member)
    have isFront : Inert readTarget? "<ul class=\"toc-list\">\n".toList :=
      inert_of_not_mem_h (by decide)
    have isBack : Inert readTarget? "</ul>".toList := inert_of_not_mem_h (by decide)
    rw [isBuilt, List.append_assoc, List.append_assoc, findMatches_inert_append isFront,
      findMatches_entries start listedNoQuote, findMatches_inert_append isBack]
    rfl

theorem targets_build {headings : List Heading} (start : Nat)
    (noQuote : ∀ heading ∈ headings, '\x22' ∉ heading.id) :
    targets (build headings start) =
      (headings.filter fun heading => start ≤ heading.level).map Heading.id := by
  simpa [targets] using findMatches_build start noQuote []

private theorem navigation_of_build {title : Option Text} {headings : List Heading} {start : Nat}
    (nonempty : build headings start ≠ []) :
    navigation title headings start = "<nav class=\"toc\">\n".toList ++ caption title ++
      build headings start ++ "\n</nav>".toList := by
  unfold navigation
  split
  · next empty => exact absurd empty nonempty
  · rfl

/-- A table of contents links to the headings it lists, in their order, and to nothing else. -/
private theorem targets_navigation (title : Option Text) {headings : List Heading} (start : Nat)
    (noQuote : ∀ heading ∈ headings, '\x22' ∉ heading.id) :
    targets (navigation title headings start) =
      (headings.filter fun heading => start ≤ heading.level).map Heading.id := by
  by_cases empty : build headings start = []
  · have noNavigation : navigation title headings start = build headings start := by
      unfold navigation
      rw [empty]
    rw [noNavigation, targets_build start noQuote]
  · have isFront : Inert readTarget? ("<nav class=\"toc\">\n".toList ++ caption title) :=
      (inert_of_not_mem_h (by decide)).append (inert_caption title)
    have isBack : findMatches readTarget? "\n</nav>".toList = [] := by
      decide
    rw [targets, navigation_of_build empty, List.append_assoc, findMatches_inert_append isFront,
      findMatches_build start noQuote, isBack, List.append_nil]

theorem noQuote_of_mem_extract {source : Text} :
    ∀ heading ∈ Heading.extract source, '\x22' ∉ heading.id := by
  intro heading member
  rw [(Heading.isExtracted_of_mem_extract member).id_eq]
  exact not_mem_slug (by decide) heading.text

/-- All headings of a source are at the first level or deeper. -/
theorem filter_extract (source : Text) :
    ((Heading.extract source).filter fun heading => 1 ≤ heading.level) =
      Heading.extract source := by
  rw [List.filter_eq_self]
  intro heading member
  exact decide_eq_true (Heading.isExtracted_of_mem_extract member).level_pos

/-- The table of all headings of a source names every id that they have. -/
theorem targets_tableOfContents (options : RenderOptions) (source : Text) :
    targets (tableOfContents options source 1) = (Heading.extract source).map Heading.id := by
  have level : TocMarker.clampLevel 1 = 1 := rfl
  rw [tableOfContents, level, targets_navigation options.tocTitle 1 noQuote_of_mem_extract,
    filter_extract]

theorem targets_build_extract (source : Text) :
    targets (build (Heading.extract source) 1) = (Heading.extract source).map Heading.id := by
  rw [targets_build 1 noQuote_of_mem_extract, filter_extract]

end MarkdownDialect.Toc
