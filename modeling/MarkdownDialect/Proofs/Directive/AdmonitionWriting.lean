import MarkdownDialect.Proofs.Directive.AdmonitionEnding
import MarkdownDialect.Proofs.Text.LetterCase

/-!
# Documents with admonitions

A document is written as a row of items: lines that are no header, and blocks, which are a header
and the body lines below it. Expansion gives every line that is no header back as it is and makes
one line of every block, as long as no body line follows a block that does not belong to it.
-/

namespace MarkdownDialect

open Text

/-! ## Keywords -/

private theorem Text.isAsciiLetter_of_toLower {c : Char} (letter : isAsciiLetter c.toLower = true) :
    isAsciiLetter c = true := by
  by_cases capital : c.val ≥ 'A'.val ∧ c.val ≤ 'Z'.val
  · have inRanges : (decide ('A'.val ≤ c.val ∧ c.val ≤ 'Z'.val) ||
        ('a'.val ≤ c.val && c.val ≤ 'z'.val)) = true := by
      rw [decide_eq_true capital, Bool.true_or]
    exact inRanges
  · have same : c.toLower = c := by
      unfold Char.toLower
      rw [dif_neg capital]
    rwa [same] at letter

namespace AdmonitionKind

private theorem ofText?_of_toLowerAscii {keyword : Text} {kind : AdmonitionKind}
    (isKeyword : toLowerAscii keyword = kind.name) : ofText? keyword = some kind := by
  have lowered : toLower keyword = kind.name := by
    apply toLower_of_toLowerAscii _ isKeyword
    cases kind <;> decide
  unfold ofText?
  rw [lowered]
  cases kind <;> decide

private theorem toLowerAscii_of_ofText? {keyword : Text} {kind : AdmonitionKind}
    (areLetters : ∀ c ∈ keyword, isAsciiLetter c = true) (isKind : ofText? keyword = some kind) :
    toLowerAscii keyword = kind.name := by
  have isName : kind.name = toLower keyword := by
    simpa using List.find?_some isKind
  have ascii : ∀ c ∈ keyword, c.toNat < 128 := by
    intro c member
    have bounds := isAsciiLetter_bounds (areLetters c member)
    omega
  rw [isName, toLower_of_ascii ascii]

theorem isAsciiLetter_of_mem_keyword {keyword : Text} {kind : AdmonitionKind}
    (isKeyword : toLowerAscii keyword = kind.name) : ∀ c ∈ keyword, isAsciiLetter c = true := by
  have nameLetters : kind.name.all isAsciiLetter = true := by
    cases kind <;> decide
  rw [List.all_eq_true] at nameLetters
  intro c member
  apply isAsciiLetter_of_toLower
  apply nameLetters
  rw [← isKeyword]
  exact List.mem_map_of_mem member

end AdmonitionKind

namespace Admonition

/-! ## How headers and body lines are written -/

/-- A header: the marks, blanks, a keyword in any letter case and what follows it. -/
structure Header where
  blanks : Text
  kind : AdmonitionKind
  keyword : Text
  titlePart : Text
  hadReturn : Bool

namespace Header

/-- The header without the carriage return that may end it. -/
def marked (header : Header) : Text :=
  '!' :: '!' :: '!' :: (header.blanks ++ (header.keyword ++ header.titlePart))

def written (header : Header) : Text :=
  header.marked ++ returnIf header.hadReturn

/-- A keyword is followed by nothing, or by a blank and anything that stays in the line. A carriage
return at the end belongs to the line ending. -/
structure IsWellFormed (header : Header) : Prop where
  areBlank : ∀ c ∈ header.blanks, isBlank c = true
  isKeyword : toLowerAscii header.keyword = header.kind.name
  isTitle : header.titlePart = [] ∨
    ∃ c rest, header.titlePart = c :: rest ∧ isBlank c = true ∧ '\n' ∉ rest
  noReturn : header.hadReturn = false → header.titlePart.getLast? ≠ some '\r'

end Header

/-- A line is a header if it is written as one. -/
def IsWrittenHeader (line : Text) : Prop :=
  ∃ header : Header, header.IsWellFormed ∧ header.written = line

/-- A body line: its content behind the indentation. -/
structure BodyLine where
  content : Text
  hadReturn : Bool

namespace BodyLine

def written (line : BodyLine) : Text :=
  indentation ++ (line.content ++ returnIf line.hadReturn)

structure IsWellFormed (line : BodyLine) : Prop where
  nonempty : line.content ≠ []
  single : '\n' ∉ line.content
  noReturn : line.hadReturn = false → line.content.getLast? ≠ some '\r'

end BodyLine

/-! ## Documents -/

inductive Item where
  | plain (line : Text)
  | block (header : Header) (body : List BodyLine)

namespace Item

/-- The lines of an item. -/
def written : Item → List Text
  | plain line => [line]
  | block header body => header.written :: body.map BodyLine.written

/-- The line that is made of an item. -/
def rendered : Item → Text
  | plain line => line
  | block header body =>
      html {
        kind := header.kind
        title := titleOf header.kind header.titlePart
        body := body.map BodyLine.content } ++ returnIf header.hadReturn

def IsWellFormed : Item → Prop
  | plain line => '\n' ∉ line ∧ ¬ IsWrittenHeader line
  | block header body => header.IsWellFormed ∧ ∀ line ∈ body, line.IsWellFormed

/-- A line that follows a block is no body line, or else it would belong to the block. -/
def MayPrecede : Item → Item → Prop
  | block _ _, plain line => ¬ IsBodyLine line
  | _, _ => True

end Item

/-! ## Reading headers -/

private theorem getLast?_append_ne_return {front text : Text} (noReturnBefore : '\r' ∉ front)
    (noReturn : text.getLast? ≠ some '\r') : (front ++ text).getLast? ≠ some '\r' := by
  intro ends
  rw [List.getLast?_append, Option.or_eq_some_iff] at ends
  rcases ends with inText | ⟨_, inFront⟩
  · exact noReturn inText
  · exact noReturnBefore (List.mem_of_getLast? inFront)

theorem stripReturn_append {text : Text} {hadReturn : Bool}
    (noReturn : hadReturn = false → text.getLast? ≠ some '\r') :
    stripReturn (text ++ returnIf hadReturn) = (text, hadReturn) := by
  cases hadReturn with
  | false =>
      apply stripReturn_append_returnIf
      rintro front rfl
      exact noReturn rfl List.getLast?_concat
  | true => exact stripReturn_append_return text

/-- What is left of a line that loses no carriage return does not end in one. -/
theorem getLast?_ne_return {line : Text} (bare : (stripReturn line).2 = false) :
    line.getLast? ≠ some '\r' := by
  intro ends
  obtain ⟨front, rfl⟩ := List.getLast?_eq_some_iff.mp ends
  rw [stripReturn_append_return] at bare
  contradiction

namespace Header

variable {header : Header}

private theorem IsWellFormed.isHeaderOf (wellFormed : header.IsWellFormed) :
    IsHeaderOf header.keyword header.titlePart header.marked := by
  refine ⟨AdmonitionKind.isAsciiLetter_of_mem_keyword wellFormed.isKeyword, ?_,
    header.blanks, wellFormed.areBlank, rfl⟩
  rcases wellFormed.isTitle with empty | ⟨c, rest, shape, blank, single⟩
  · rw [empty]
    rfl
  · simp [shape, isTitlePart, blank, single]

theorem IsWellFormed.stripReturn_written (wellFormed : header.IsWellFormed) :
    stripReturn header.written = (header.marked, header.hadReturn) := by
  apply stripReturn_append
  intro bare
  have noReturnBefore : '\r' ∉ '!' :: '!' :: '!' :: (header.blanks ++ header.keyword) := by
    have noBlank : '\r' ∉ header.blanks :=
      fun member => absurd (wellFormed.areBlank '\r' member) (by decide)
    have noLetter : '\r' ∉ header.keyword := fun member =>
      absurd (AdmonitionKind.isAsciiLetter_of_mem_keyword wellFormed.isKeyword '\r' member)
        (by decide)
    simp [noBlank, noLetter]
  have ends := getLast?_append_ne_return noReturnBefore (wellFormed.noReturn bare)
  simpa [marked] using ends

theorem IsWellFormed.ofHeader?_written (wellFormed : header.IsWellFormed) :
    ofHeader? (stripReturn header.written).1 =
      some { kind := header.kind, title := titleOf header.kind header.titlePart, body := [] } := by
  rw [wellFormed.stripReturn_written]
  exact ofHeader?_eq_some wellFormed.isHeaderOf
    (AdmonitionKind.ofText?_of_toLowerAscii wellFormed.isKeyword)

end Header

/-- The headers that are written are the ones that are read. -/
theorem isWrittenHeader_iff (line : Text) : IsWrittenHeader line ↔ IsHeaderLine line := by
  constructor
  · rintro ⟨header, wellFormed, rfl⟩
    exact isHeaderLine_iff.mpr ⟨_, wellFormed.ofHeader?_written⟩
  · intro isHeader
    obtain ⟨admonition, reading⟩ := isHeaderLine_iff.mp isHeader
    obtain ⟨keyword, titlePart, ⟨areLetters, isTitle, blanks, areBlank, shape⟩, isKind, _⟩ :=
      ofHeader?_sound reading
    let header : Header :=
      { blanks, kind := admonition.kind, keyword, titlePart, hadReturn := (stripReturn line).2 }
    have isWritten : header.written = line := by
      rw [Header.written, Header.marked, ← shape, ← stripReturn_split]
    refine ⟨header, ⟨areBlank, AdmonitionKind.toLowerAscii_of_ofText? areLetters isKind, ?_, ?_⟩,
      isWritten⟩
    · cases titlePart with
      | nil => exact Or.inl rfl
      | cons c rest => exact Or.inr ⟨c, rest, rfl, by simpa [isTitlePart] using isTitle⟩
    · intro bare titleEnds
      apply getLast?_ne_return (show (stripReturn line).2 = false from bare)
      rw [← isWritten, Header.written, bare, Header.marked]
      obtain ⟨front, split⟩ := List.getLast?_eq_some_iff.mp titleEnds
      rw [split, List.getLast?_eq_some_iff]
      exact ⟨'!' :: '!' :: '!' :: (header.blanks ++ (header.keyword ++ front)), by simp [returnIf]⟩

/-! ## Reading bodies -/

private theorem BodyLine.IsWellFormed.bodyLine?_written {line : BodyLine}
    (wellFormed : line.IsWellFormed) : bodyLine? line.written = some line.content := by
  have stripped := stripReturn_append wellFormed.noReturn
  simp [bodyLine?, BodyLine.written, stripped, wellFormed.nonempty]

private theorem takeBody_written {body : List BodyLine}
    (wellFormed : ∀ line ∈ body, line.IsWellFormed)
    {rest : List Text} (stops : takeBody rest = ([], rest)) :
    takeBody (body.map BodyLine.written ++ rest) = (body.map BodyLine.content, rest) := by
  induction body with
  | nil => exact stops
  | cons line others inductionHypothesis =>
      obtain ⟨lineWellFormed, othersWellFormed⟩ := List.forall_mem_cons.mp wellFormed
      rw [List.map_cons, List.cons_append, takeBody_of_bodyLine lineWellFormed.bodyLine?_written,
        inductionHypothesis othersWellFormed]
      rfl

/-- The lines of the items behind a block are not taken into it. -/
private theorem takeBody_items {header : Header} {body : List BodyLine} {items : List Item}
    (wellFormed : ∀ item ∈ items, item.IsWellFormed)
    (separated : (Item.block header body :: items).IsChain Item.MayPrecede) :
    takeBody (items.flatMap Item.written) = ([], items.flatMap Item.written) := by
  cases items with
  | nil => rfl
  | cons next others =>
      have mayPrecede := (List.isChain_cons_cons.mp separated).1
      have noBody : ∀ line rest, next.written = line :: rest → ¬ IsBodyLine line := by
        intro line rest shape
        cases next with
        | plain first =>
            rw [Item.written, List.cons.injEq] at shape
            rw [← shape.1]
            exact mayPrecede
        | block nextHeader nextBody =>
            rw [Item.written, List.cons.injEq] at shape
            rw [← shape.1]
            apply not_isBodyLine_of_isHeaderLine
            exact (isWrittenHeader_iff _).mp
              ⟨nextHeader, (wellFormed _ List.mem_cons_self).1, rfl⟩
      cases shape : next.written with
      | nil => cases next <;> simp [Item.written] at shape
      | cons line rest =>
          rw [List.flatMap_cons, shape, List.cons_append]
          exact takeBody_of_not_bodyLine (bodyLine?_eq_none (noBody line rest shape)) _

/-! ## Expanding documents -/

private theorem expandLines_items {items : List Item}
    (wellFormed : ∀ item ∈ items, item.IsWellFormed) (separated : items.IsChain Item.MayPrecede) :
    expandLines (items.flatMap Item.written) = items.map Item.rendered := by
  induction items with
  | nil => exact expandLines_nil
  | cons item others inductionHypothesis =>
      obtain ⟨itemWellFormed, othersWellFormed⟩ := List.forall_mem_cons.mp wellFormed
      have othersExpanded := inductionHypothesis othersWellFormed separated.of_cons
      cases item with
      | plain line =>
          have noHeader : ofHeader? (stripReturn line).1 = none := by
            rw [← Option.not_isSome_iff_eq_none]
            exact fun isHeader => itemWellFormed.2 ((isWrittenHeader_iff line).mpr isHeader)
          rw [List.flatMap_cons, Item.written, List.singleton_append,
            expandLines_of_not_header noHeader, othersExpanded]
          rfl
      | block header body =>
          obtain ⟨headerWellFormed, bodyWellFormed⟩ := itemWellFormed
          have stops := takeBody_items othersWellFormed separated
          rw [List.flatMap_cons, Item.written, List.cons_append,
            expandLines_of_header headerWellFormed.ofHeader?_written,
            takeBody_written bodyWellFormed stops, headerWellFormed.stripReturn_written,
            othersExpanded]
          rfl

private theorem Header.IsWellFormed.lineFeed_not_mem_written {header : Header}
    (wellFormed : header.IsWellFormed) : '\n' ∉ header.written := by
  have noBlank : '\n' ∉ header.blanks :=
    fun member => absurd (wellFormed.areBlank '\n' member) (by decide)
  have noLetter : '\n' ∉ header.keyword := fun member =>
    absurd (AdmonitionKind.isAsciiLetter_of_mem_keyword wellFormed.isKeyword '\n' member)
      (by decide)
  have noTitle : '\n' ∉ header.titlePart := by
    rcases wellFormed.isTitle with empty | ⟨c, rest, shape, blank, single⟩
    · simp [empty]
    · rw [shape, List.mem_cons, not_or]
      refine ⟨?_, single⟩
      rintro rfl
      exact absurd blank (by decide)
  simp [written, marked, noBlank, noLetter, noTitle]

private theorem BodyLine.IsWellFormed.lineFeed_not_mem_written {line : BodyLine}
    (wellFormed : line.IsWellFormed) : '\n' ∉ line.written := by
  have noIndent : '\n' ∉ indentation := by decide
  simp [written, noIndent, wellFormed.single]

private theorem Item.lineFeed_not_mem_written {item : Item} (wellFormed : item.IsWellFormed) :
    ∀ line ∈ item.written, '\n' ∉ line := by
  intro line member
  cases item with
  | plain only =>
      rw [Item.written, List.mem_singleton] at member
      rw [member]
      exact wellFormed.1
  | block header body =>
      rw [Item.written, List.mem_cons, List.mem_map] at member
      rcases member with rfl | ⟨bodyLine, inBody, rfl⟩
      · exact wellFormed.1.lineFeed_not_mem_written
      · exact (wellFormed.2 bodyLine inBody).lineFeed_not_mem_written

theorem Item.written_ne_nil (item : Item) : item.written ≠ [] := by
  cases item <;> simp [Item.written]

/-- A document is expanded item by item: lines that are no header stay, and a block becomes one
line of HTML with the line ending of its header. -/
theorem expand_document {items : List Item} (wellFormed : ∀ item ∈ items, item.IsWellFormed)
    (separated : items.IsChain Item.MayPrecede) :
    expand (unlines (items.flatMap Item.written)) = unlines (items.map Item.rendered) := by
  cases items with
  | nil => exact expand_eq_self (by decide)
  | cons item others =>
      have single : ∀ line ∈ (item :: others).flatMap Item.written, '\n' ∉ line := by
        intro line member
        obtain ⟨found, isItem, inItem⟩ := List.mem_flatMap.mp member
        exact found.lineFeed_not_mem_written (wellFormed found isItem) line inItem
      have nonempty : (item :: others).flatMap Item.written ≠ [] := by
        simp [item.written_ne_nil]
      rw [expand, lines_unlines single nonempty, expandLines_items wellFormed separated]

/-- Two blocks, one right behind the other, and lines that look like parts of a block and are
none. -/
def sampleItems : List Item :=
  [.plain "intro".toList,
    .block ⟨"\t".toList, .warning, "WaRNing".toList, "  ".toList, true⟩
      [⟨"first".toList, true⟩, ⟨"  !!! note".toList, false⟩],
    .block ⟨[], .note, "note".toList, " Heads Up".toList, false⟩ [],
    .plain "!!! tip".toList,
    .plain "    code".toList]

/-- The lines that the items give way to. -/
def sampleHtml : List Text :=
  ["intro".toList,
    ("<div class=\"admonition admonition-warning\"><div class=\"admonition-title\">Warning</div>" ++
      "<div class=\"admonition-content\">first<br/>  !!! note</div></div>\r").toList,
    ("<div class=\"admonition admonition-note\"><div class=\"admonition-title\">Heads Up</div>" ++
      "<div class=\"admonition-content\"></div></div>").toList,
    "!!! tip".toList,
    "    code".toList]

theorem expand_sampleItems :
    (∀ item ∈ sampleItems, item.IsWellFormed) ∧ sampleItems.IsChain Item.MayPrecede ∧
      unlines (sampleItems.flatMap Item.written) =
        ("intro\n!!!\tWaRNing  \r\n    first\r\n      !!! note\n" ++
          "!!!note Heads Up\n!!! tip\n    code").toList ∧
      expand (unlines (sampleItems.flatMap Item.written)) = unlines sampleHtml := by
  have warning : Header.IsWellFormed ⟨"\t".toList, .warning, "WaRNing".toList, "  ".toList, true⟩ :=
    ⟨List.forall_mem_singleton.mpr rfl, by decide,
      Or.inr ⟨' ', [' '], rfl, by decide, by decide⟩, by decide⟩
  have note : Header.IsWellFormed ⟨[], .note, "note".toList, " Heads Up".toList, false⟩ :=
    ⟨List.forall_mem_nil _, by decide,
      Or.inr ⟨' ', "Heads Up".toList, rfl, by decide, by decide⟩, by decide⟩
  have noHeader : ∀ line ∈ ["intro".toList, "!!! tip".toList, "    code".toList],
      '\n' ∉ line ∧ ¬ IsWrittenHeader line := by
    simp only [isWrittenHeader_iff]
    decide
  have wellFormed : ∀ item ∈ sampleItems, item.IsWellFormed := by
    simp only [sampleItems, List.forall_mem_cons, Item.IsWellFormed]
    refine ⟨noHeader _ (by simp), ⟨warning, ?_⟩, ⟨note, by simp⟩, noHeader _ (by simp),
      noHeader _ (by simp), by simp⟩
    exact ⟨⟨by decide, by decide, by decide⟩, ⟨by decide, by decide, by decide⟩, by simp⟩
  have separated : sampleItems.IsChain Item.MayPrecede := by
    have noBody : ¬ IsBodyLine "!!! tip".toList := by
      decide
    exact .cons_cons trivial (.cons_cons trivial (.cons_cons noBody (.cons_cons trivial
      (.singleton _))))
  have isRendered : sampleItems.map Item.rendered = sampleHtml := by
    decide +kernel
  refine ⟨wellFormed, separated, by decide, ?_⟩
  rw [← isRendered]
  exact expand_document wellFormed separated

/-! ## Every text is a document -/

private theorem exists_bodyLine {line content : Text} (single : '\n' ∉ line)
    (reading : bodyLine? line = some content) :
    ∃ bodyLine : BodyLine, bodyLine.IsWellFormed ∧ bodyLine.content = content ∧
      bodyLine.written = line := by
  simp only [bodyLine?, Option.bind_eq_bind, Option.bind_eq_some_iff,
    isPrefixOf?_eq_some_iff] at reading
  obtain ⟨rest, rfl, reading⟩ := reading
  split at reading
  · simp at reading
  · next nonempty =>
      rw [Option.pure_def, Option.some.injEq] at reading
      have split := stripReturn_split rest
      refine ⟨{ content, hadReturn := (stripReturn rest).2 }, ⟨?_, ?_, ?_⟩, rfl, ?_⟩
      · rintro rfl
        simp [reading] at nonempty
      · intro member
        apply single
        rw [split, reading]
        simp [show '\n' ∈ content from member]
      · intro bare
        have noReturnTaken : (stripReturn rest).2 = false := bare
        have same : rest = content := by
          rw [split, noReturnTaken, reading]
          exact List.append_nil content
        rw [← same]
        exact getLast?_ne_return noReturnTaken
      · rw [BodyLine.written, ← reading, ← split]

/-- What is taken into a body is written as body lines, and no body line follows. -/
private theorem exists_body (rest : List Text) (single : ∀ line ∈ rest, '\n' ∉ line) :
    ∃ body : List BodyLine, (∀ line ∈ body, line.IsWellFormed) ∧
      rest = body.map BodyLine.written ++ (takeBody rest).2 ∧
      ∀ line others, (takeBody rest).2 = line :: others → ¬ IsBodyLine line := by
  induction rest with
  | nil => exact ⟨[], by simp, rfl, by simp [takeBody]⟩
  | cons line below inductionHypothesis =>
      obtain ⟨singleHere, singleBelow⟩ := List.forall_mem_cons.mp single
      cases reading : bodyLine? line with
      | none =>
          rw [takeBody_of_not_bodyLine reading]
          refine ⟨[], by simp, rfl, ?_⟩
          intro first others split
          rw [← (List.cons.inj split).1, ← bodyLine?_isSome_iff, reading]
          simp
      | some content =>
          obtain ⟨body, wellFormed, split, stops⟩ := inductionHypothesis singleBelow
          obtain ⟨bodyLine, lineWellFormed, _, isWritten⟩ := exists_bodyLine singleHere reading
          rw [takeBody_of_bodyLine reading]
          refine ⟨bodyLine :: body, ?_, ?_, stops⟩
          · exact List.forall_mem_cons.mpr ⟨lineWellFormed, wellFormed⟩
          · rw [List.map_cons, List.cons_append, isWritten, ← split]

private theorem exists_items (lines : List Text) (single : ∀ line ∈ lines, '\n' ∉ line) :
    ∃ items : List Item, (∀ item ∈ items, item.IsWellFormed) ∧ items.IsChain Item.MayPrecede ∧
      items.flatMap Item.written = lines := by
  induction lines using blocks_induction with
  | nil => exact ⟨[], by simp, .nil, rfl⟩
  | plain line rest noHeader inductionHypothesis =>
      obtain ⟨singleHere, singleBelow⟩ := List.forall_mem_cons.mp single
      obtain ⟨items, wellFormed, separated, areLines⟩ := inductionHypothesis singleBelow
      have lineWellFormed : (Item.plain line).IsWellFormed := by
        refine ⟨singleHere, fun isWritten => ?_⟩
        have isHeader := (isWrittenHeader_iff line).mp isWritten
        simp [IsHeaderLine, noHeader] at isHeader
      refine ⟨.plain line :: items, List.forall_mem_cons.mpr ⟨lineWellFormed, wellFormed⟩, ?_, ?_⟩
      · cases items with
        | nil => exact .singleton _
        | cons next others => exact .cons_cons trivial separated
      · rw [List.flatMap_cons, areLines]
        rfl
  | block line rest admonition isHeader inductionHypothesis =>
      obtain ⟨singleHere, singleBelow⟩ := List.forall_mem_cons.mp single
      obtain ⟨header, headerWellFormed, isWritten⟩ :=
        (isWrittenHeader_iff line).mpr (isHeaderLine_iff.mpr ⟨admonition, isHeader⟩)
      obtain ⟨body, bodyWellFormed, split, stops⟩ := exists_body rest singleBelow
      obtain ⟨items, wellFormed, separated, areLines⟩ := inductionHypothesis fun other member =>
        singleBelow other (mem_of_mem_takeBody_rest member)
      refine ⟨.block header body :: items,
        List.forall_mem_cons.mpr ⟨⟨headerWellFormed, bodyWellFormed⟩, wellFormed⟩, ?_, ?_⟩
      · cases items with
        | nil => exact .singleton _
        | cons next others =>
            refine .cons_cons ?_ separated
            cases next with
            | plain first => exact stops first _ areLines.symm
            | block => trivial
      · rw [List.flatMap_cons, areLines, Item.written, isWritten, List.cons_append, ← split]

/-- Every text is written as a document. -/
theorem exists_document (text : Text) :
    ∃ items : List Item, (∀ item ∈ items, item.IsWellFormed) ∧ items.IsChain Item.MayPrecede ∧
      unlines (items.flatMap Item.written) = text := by
  obtain ⟨items, wellFormed, separated, areLines⟩ :=
    exists_items (lines text) fun _ => lineFeed_not_mem_of_mem_lines
  exact ⟨items, wellFormed, separated, by rw [areLines, unlines_lines]⟩

end Admonition

end MarkdownDialect
