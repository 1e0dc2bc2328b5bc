import MarkdownDialect.Directive.Underline
import MarkdownDialect.Proofs.Palette
import MarkdownDialect.Proofs.Text.LineChange
import MarkdownDialect.Proofs.Text.Markup
import MarkdownDialect.Proofs.Text.Number

/-!
# Reading underlines

An underline `!~body~!` is read whole before its body is looked at. A body that is malformed
stays with its delimiters.
-/

namespace MarkdownDialect.Underline

open Text

def isBodyChar (c : Char) : Bool :=
  c != '~' && c != '\r'

/-- The body of an underline at the front of a line, well-formed or not. -/
def readBody? (line : Text) : Option (Text × Text) := do
  let rest ← "!~".toList.isPrefixOf? line
  let body := rest.takeWhile isBodyChar
  let after ← "~!".toList.isPrefixOf? (rest.dropWhile isBodyChar)
  if body.isEmpty then none else return (body, after)

/-- What an underline with the given body gives way to. -/
def replacement (palette : Palette) (body : Text) : Text :=
  match ofBody? body with
  | some underline => underline.html palette
  | none => "!~".toList ++ body ++ "~!".toList

/-- A directive at the front of a line, with what takes its place. A malformed one is passed over
whole. -/
def find? (palette : Palette) (line : Text) : Option (Text × Text) :=
  (readBody? line).map fun (body, after) => (replacement palette body, after)

def expandLine (palette : Palette) (line : Text) : Text :=
  replaceMatches (find? palette) line

theorem readBody?_eq_some_iff {text body after : Text} :
    readBody? text = some (body, after) ↔
      text = '!' :: '~' :: (body ++ '~' :: '!' :: after) ∧ body ≠ [] ∧
        ∀ c ∈ body, isBodyChar c = true := by
  have closing : "~!".toList = ['~', '!'] := rfl
  simp only [readBody?, Option.bind_eq_bind, Option.bind_eq_some_iff, isPrefixOf?_eq_some_iff]
  constructor
  · rintro ⟨rest, rfl, following, closed, reading⟩
    split at reading
    · simp at reading
    · next nonempty =>
        simp only [Option.pure_def, Option.some.injEq, Prod.mk.injEq] at reading
        obtain ⟨rfl, rfl⟩ := reading
        refine ⟨?_, by simpa using nonempty, fun c member => List.mem_takeWhile_imp member⟩
        have split : rest = rest.takeWhile isBodyChar ++ rest.dropWhile isBodyChar :=
          List.takeWhile_append_dropWhile.symm
        rw [closed, closing] at split
        exact congrArg (fun tail => '!' :: '~' :: tail) split
  · rintro ⟨rfl, nonempty, inside⟩
    have taken : (body ++ '~' :: '!' :: after).takeWhile isBodyChar = body := by
      rw [List.takeWhile_append_of_pos inside]
      simp [isBodyChar]
    have dropped : (body ++ '~' :: '!' :: after).dropWhile isBodyChar = '~' :: '!' :: after := by
      rw [List.dropWhile_append_of_pos inside]
      simp [isBodyChar]
    refine ⟨body ++ '~' :: '!' :: after, rfl, after, ?_, ?_⟩
    · rw [dropped, closing]
      rfl
    · simp [taken, nonempty]

theorem find?_sound {palette : Palette} {text replaced after : Text}
    (reading : find? palette text = some (replaced, after)) :
    ∃ body, body ≠ [] ∧ (∀ c ∈ body, isBodyChar c = true) ∧
      text = '!' :: '~' :: (body ++ '~' :: '!' :: after) ∧
      replaced = replacement palette body := by
  simp only [find?, Option.map_eq_some_iff, Prod.mk.injEq,
    Prod.exists] at reading
  obtain ⟨body, following, bodyReading, rfl, rfl⟩ := reading
  obtain ⟨rfl, nonempty, inside⟩ := readBody?_eq_some_iff.mp bodyReading
  exact ⟨body, nonempty, inside, rfl, rfl⟩

/-- An underline whose body is well-formed. -/
theorem find?_eq_some (palette : Palette) {body : Text} {underline : Underline} (after : Text)
    (inside : ∀ c ∈ body, isBodyChar c = true) (wellFormed : ofBody? body = some underline) :
    find? palette ('!' :: '~' :: (body ++ '~' :: '!' :: after)) =
      some (underline.html palette, after) := by
  have nonempty : body ≠ [] := by
    intro empty
    have noText : ofBody? [] = none := by decide
    rw [empty, noText] at wellFormed
    exact absurd wellFormed (by simp)
  have reading := readBody?_eq_some_iff.mpr
    ⟨(rfl : '!' :: '~' :: (body ++ '~' :: '!' :: after) = _), nonempty, inside⟩
  simp only [find?, reading, Option.map_some, replacement, wellFormed]

/-- An underline begins with an exclamation mark and a tilde. -/
theorem find?_eq_none (palette : Palette) {text : Text}
    (opens : ∀ rest, text ≠ '!' :: '~' :: rest) : find? palette text = none := by
  rw [Option.eq_none_iff_forall_ne_some]
  intro ⟨replaced, after⟩ reading
  obtain ⟨body, _, _, shape, _⟩ := find?_sound reading
  exact opens _ shape

theorem find?_eq_none_of_ne (palette : Palette) {c : Char} (rest : Text) (different : c ≠ '!') :
    find? palette (c :: rest) = none :=
  find?_eq_none palette fun _ shape => different (List.cons.inj shape).1

theorem inert_of_not_mem (palette : Palette) {piece : Text} (noMark : '!' ∉ piece) :
    Inert (find? palette) piece :=
  Text.inert_of_not_mem (fun _ rest => find?_eq_none_of_ne palette rest) noMark

private theorem readBody?_advances : Advances readBody? := by
  intro text body after reading
  obtain ⟨rfl, _, _⟩ := readBody?_eq_some_iff.mp reading
  exact ⟨'!' :: '~' :: (body ++ ['~', '!']), by simp, by simp⟩

theorem advances (palette : Palette) : Advances (find? palette) := by
  intro text replaced after reading
  obtain ⟨body, _, _, rfl, _⟩ := find?_sound reading
  exact ⟨'!' :: '~' :: (body ++ ['~', '!']), by simp, by simp⟩

private theorem return_not_mem_of_isBodyChar {body : Text}
    (inside : ∀ c ∈ body, isBodyChar c = true) :
    '\r' ∉ body :=
  fun member => absurd (inside '\r' member) (by decide)

theorem isHtml_html (palette : Palette) (underline : Underline) :
    IsHtml (underline.html palette) := by
  refine ⟨"span style=\"text-decoration: ".toList ++ (underline.decorationCss palette
    ++ ("; text-decoration-thickness: ".toList ++ (ofNat (underline.thickness.getD 1)
    ++ ("px;\">".toList ++ (underline.text ++ "</spa".toList))))), 'n', ?_, by decide⟩
  unfold html
  simp only [List.append_assoc]
  rfl

/-- Underlining marks up a line. -/
theorem marksUp_expandLine (palette : Palette) (line : Text) :
    MarksUp line (expandLine palette line) := by
  apply MarksUp.replaceMatches (advances palette)
  intro text replaced after reading
  obtain ⟨body, nonempty, inside, rfl, rfl⟩ := find?_sound reading
  refine ⟨'!' :: '~' :: (body ++ ['~', '!']), by simp, ?_⟩
  unfold replacement
  cases wellFormed : ofBody? body with
  | some underline =>
      refine Or.inr ⟨by simp, ?_, isHtml_html palette underline⟩
      simpa using return_not_mem_of_isBodyChar inside
  | none => exact Or.inl rfl

/-! ## The slots of a body -/

/-- The last part of a body is its text, and the slots stand before it. -/
theorem exists_splitOn_eq_concat (body : Text) :
    ∃ slots text, splitOn ';' body = slots ++ [text] := by
  rcases List.eq_nil_or_concat (splitOn ';' body) with empty | ⟨slots, text, split⟩
  · exact absurd empty (splitOn_ne_nil ';' body)
  · exact ⟨slots, text, by simpa using split⟩

theorem ofBody?_eq_some_iff {body text : Text} {slots : List Text} {underline : Underline}
    (split : splitOn ';' body = slots ++ [text]) :
    ofBody? body = some underline ↔
      slots.length ≤ slotCount ∧ trim text ≠ [] ∧ underline.text = trim text ∧
        underline.color = (slot? (slots.map trim) 0).map Color.ofText ∧
        readSlot? LineStyle.ofText? (slot? (slots.map trim) 1) = some underline.style ∧
        readSlot? Decoration.ofText? (slot? (slots.map trim) 2) = some underline.decoration ∧
        readSlot? readThickness? (slot? (slots.map trim) 3) = some underline.thickness := by
  have lastPart : ((splitOn ';' body).map trim).getLast? = some (trim text) := by
    rw [split, List.map_append]
    simp
  have firstParts : ((splitOn ';' body).map trim).dropLast = slots.map trim := by
    rw [split, List.map_append]
    simp
  simp only [ofBody?, lastPart, firstParts, Option.bind_eq_bind, Option.bind_some,
    List.length_map]
  by_cases rejected : (trim text).isEmpty || slotCount < slots.length
  · rw [if_pos (by simpa using rejected)]
    simp only [Bool.or_eq_true, List.isEmpty_iff, decide_eq_true_eq] at rejected
    constructor
    · intro absurdity
      exact absurd absurdity (by simp)
    · rintro ⟨fewSlots, nonempty, _⟩
      rcases rejected with empty | tooMany
      · exact absurd empty nonempty
      · omega
  · rw [if_neg (by simpa using rejected)]
    simp only [Bool.or_eq_true, List.isEmpty_iff, decide_eq_true_eq, not_or, not_lt] at rejected
    simp only [Option.bind_eq_some_iff, Option.pure_def, Option.some.injEq]
    constructor
    · rintro ⟨style, styleReading, decoration, decorationReading, thickness, thicknessReading, rfl⟩
      exact ⟨rejected.2, rejected.1, rfl, rfl, styleReading, decorationReading, thicknessReading⟩
    · obtain ⟨color, style, decoration, thickness, shown⟩ := underline
      rintro ⟨_, _, rfl, rfl, styleReading, decorationReading, thicknessReading⟩
      exact ⟨style, styleReading, decoration, decorationReading, thickness, thicknessReading, rfl⟩

/-! ## What a slot may hold -/

private theorem not_mem_of_styleReading {raw : Text} {style : LineStyle}
    (reading : LineStyle.ofText? raw = some style) : '<' ∉ raw := by
  intro member
  have lowered : '<' ∈ toLower raw := mem_toLower (by decide) (by decide) member
  have keyword := List.find?_some reading
  rw [decide_eq_true_eq] at keyword
  rw [← keyword] at lowered
  cases style <;> exact absurd lowered (by decide)

private theorem not_mem_of_decorationReading {raw : Text} {decoration : Decoration}
    (reading : Decoration.ofText? raw = some decoration) : '<' ∉ raw := by
  intro member
  have lowered : '<' ∈ toLower raw := mem_toLower (by decide) (by decide) member
  have keyword := List.find?_some reading
  rw [decide_eq_true_eq] at keyword
  rw [← keyword] at lowered
  cases decoration <;> exact absurd lowered (by decide)

private theorem not_mem_of_readThickness? {raw : Text} {thickness : Nat}
    (reading : readThickness? raw = some thickness) : '<' ∉ raw := by
  unfold readThickness? at reading
  rw [Option.filter_eq_some_iff] at reading
  exact not_mem_of_readSignedDecimal (by decide) (by decide) reading.1

theorem mem_of_slot? {slots : List Text} {position : Nat} {content : Text}
    (reading : slot? slots position = some content) : content ∈ slots := by
  simp only [slot?, Option.bind_eq_bind, Option.bind_eq_some_iff] at reading
  obtain ⟨slot, present, reading⟩ := reading
  split at reading
  · simp at reading
  · rw [Option.pure_def, Option.some.injEq] at reading
    exact reading ▸ List.mem_of_getElem? present

theorem slot?_cases {slots : List Text} {position : Nat} {slot : Text}
    (present : slots[position]? = some slot) :
    slot? (slots.map trim) position = some (trim slot) ∨
      slot? (slots.map trim) position = none ∧ '<' ∉ slot := by
  have presentTrimmed : (slots.map trim)[position]? = some (trim slot) := by
    simp [present]
  simp only [slot?, presentTrimmed, Option.bind_eq_bind, Option.bind_some]
  split
  · next leftOut =>
      refine Or.inr ⟨rfl, ?_⟩
      intro member
      have inTrimmed : '<' ∈ trim slot := by
        rw [← List.count_pos_iff, count_trim (by decide), List.count_pos_iff]
        exact member
      simp only [Bool.or_eq_true, List.isEmpty_iff, decide_eq_true_eq] at leftOut
      rcases leftOut with empty | isDefault
      · rw [empty] at inTrimmed
        exact absurd inTrimmed (by simp)
      · have lowered := mem_toLowerAscii (by decide) inTrimmed
        rw [isDefault] at lowered
        exact absurd lowered (by decide)
  · exact Or.inl rfl

/-- A slot that is read by its keywords or digits holds no angle bracket. -/
private theorem not_mem_of_readSlot? {α : Type} {read : Text → Option α}
    (clean : ∀ raw value, read raw = some value → '<' ∉ raw)
    {slots : List Text} {position : Nat} {slot : Text} {result : Option α}
    (reading : readSlot? read (slot? (slots.map trim) position) = some result)
    (present : slots[position]? = some slot) : '<' ∉ slot := by
  rcases slot?_cases present with kept | ⟨_, absent⟩
  · rw [kept, readSlot?, Option.map_eq_some_iff] at reading
    obtain ⟨value, valueReading, _⟩ := reading
    have absentTrimmed := clean (trim slot) value valueReading
    rw [← List.count_eq_zero, ← count_trim (by decide), List.count_eq_zero]
    exact absentTrimmed
  · exact absent

/-- Only the colour and the text of a body can hold an angle bracket. -/
private theorem not_mem_of_later_slot {body text first : Text} {others : List Text}
    {underline : Underline} (split : splitOn ';' body = (first :: others) ++ [text])
    (wellFormed : ofBody? body = some underline) : ∀ slot ∈ others, '<' ∉ slot := by
  obtain ⟨fewSlots, _, _, _, styleReading, decorationReading, thicknessReading⟩ :=
    (ofBody?_eq_some_iff split).mp wellFormed
  intro slot member
  obtain ⟨index, inRange, found⟩ := List.mem_iff_getElem.mp member
  have present : (first :: others)[index + 1]? = some slot := by
    simp [inRange, found]
  simp only [List.length_cons, slotCount] at fewSlots
  have position : index = 0 ∨ index = 1 ∨ index = 2 := by omega
  rcases position with rfl | rfl | rfl
  · exact not_mem_of_readSlot? (fun _ _ => not_mem_of_styleReading) styleReading present
  · exact not_mem_of_readSlot? (fun _ _ => not_mem_of_decorationReading) decorationReading present
  · exact not_mem_of_readSlot? (fun _ _ => not_mem_of_readThickness?) thicknessReading present

/-! ## What the HTML of an underline holds -/

/-- The text and the colour of an underline are those of its body, between two tags. -/
theorem count_lt_count_html {palette : Palette} (plainNames : palette.HasPlainNames)
    {body : Text} {underline : Underline} (wellFormed : ofBody? body = some underline) :
    body.count '<' < (underline.html palette).count '<' := by
  obtain ⟨slots, text, split⟩ := exists_splitOn_eq_concat body
  obtain ⟨_, _, textEqual, colorEqual, _⟩ := (ofBody?_eq_some_iff split).mp wellFormed
  have textCount : underline.text.count '<' = text.count '<' := by
    rw [textEqual, count_trim (by decide)]
  have bodyCount : body.count '<' = slots.flatten.count '<' + text.count '<' := by
    rw [← joinWith_splitOn ';' body, split, count_joinWith]
    simp
  have slotsCount : slots.flatten.count '<' ≤ (underline.decorationCss palette).count '<' := by
    cases slots with
    | nil => exact Nat.zero_le _
    | cons first others =>
        have othersCount : others.flatten.count '<' = 0 := by
          rw [List.count_eq_zero, List.mem_flatten]
          intro ⟨slot, slotMember, inSlot⟩
          exact not_mem_of_later_slot split wellFormed slot slotMember inSlot
        rw [List.flatten_cons, List.count_append, othersCount]
        rcases @slot?_cases (first :: others) 0 first rfl with kept | ⟨_, absent⟩
        · have colorCount := Color.count_le_count_css plainNames (trim first)
          rw [count_trim (by decide)] at colorCount
          rw [kept] at colorEqual
          unfold decorationCss
          simp only [colorEqual, Option.map_some, Option.getD_some, List.count_append]
          omega
        · rw [List.count_eq_zero.mpr absent]
          exact Nat.zero_le _
  have opening : "<span style=\"text-decoration: ".toList.count '<' = 1 := by decide
  unfold html
  simp only [List.count_append, opening]
  omega

@[simp]
theorem mem_decorationCss {c : Char} (foreign : isMarkupChar c = false) {palette : Palette}
    {underline : Underline} :
    c ∈ underline.decorationCss palette ↔
      ∃ color, underline.color = some color ∧ c ∈ color.css palette := by
  have blank : [' '].all isMarkupChar = true := by decide
  have decoration : (underline.decoration.getD .underline).css.all isMarkupChar = true := by
    cases underline.decoration with
    | none => decide
    | some decoration => cases decoration <;> decide
  have style : (underline.style.getD .solid).css.all isMarkupChar = true := by
    cases underline.style with
    | none => decide
    | some style => cases style <;> decide
  have current : "currentColor".toList.all isMarkupChar = true := by decide
  unfold decorationCss
  rw [List.mem_append, mem_append_markup foreign blank,
    mem_append_markup foreign style, mem_append_markup foreign blank,
    or_iff_right (not_mem_of_isMarkupChar foreign decoration)]
  cases underline.color with
  | none =>
      have absent := not_mem_of_isMarkupChar foreign current
      rw [Option.map_none, Option.getD_none]
      exact iff_of_false absent (by simp)
  | some color => simp

@[simp]
theorem mem_html {c : Char} (foreign : isMarkupChar c = false) {palette : Palette}
    {underline : Underline} :
    c ∈ underline.html palette ↔
      (∃ color, underline.color = some color ∧ c ∈ color.css palette) ∨ c ∈ underline.text := by
  have noDigit := isDigit_eq_false_of_isMarkupChar foreign
  have opening : "<span style=\"text-decoration: ".toList.all isMarkupChar = true := by decide
  have property : "; text-decoration-thickness: ".toList.all isMarkupChar = true := by decide
  have middle : "px;\">".toList.all isMarkupChar = true := by decide
  have closing : "</span>".toList.all isMarkupChar = true := by decide
  unfold html
  rw [mem_append_markup foreign closing, List.mem_append, mem_append_markup foreign middle,
    List.mem_append, or_iff_left (not_mem_ofNat noDigit _), mem_append_markup foreign property,
    mem_markup_append foreign opening, mem_decorationCss foreign]

theorem not_mem_html {c : Char} (foreign : isMarkupChar c = false) {palette : Palette}
    (absentInValues : ∀ entry ∈ palette.entries, c ∉ entry.2) {body : Text} (absent : c ∉ body)
    {underline : Underline} (wellFormed : ofBody? body = some underline) :
    c ∉ underline.html palette := by
  obtain ⟨slots, text, split⟩ := exists_splitOn_eq_concat body
  obtain ⟨_, _, textEqual, colorEqual, _⟩ := (ofBody?_eq_some_iff split).mp wellFormed
  have absentInPart : ∀ part ∈ slots ++ [text], c ∉ part := by
    rw [← split]
    exact fun part member inPart => absent (mem_of_mem_splitOn member inPart)
  have absentInText : c ∉ underline.text := by
    rw [textEqual]
    exact fun member => absentInPart text (by simp) (mem_of_mem_trim member)
  have absentInColor : ∀ color, underline.color = some color → c ∉ color.css palette := by
    intro color shown
    rw [colorEqual, Option.map_eq_some_iff] at shown
    obtain ⟨raw, content, rfl⟩ := shown
    obtain ⟨slot, slotMember, rfl⟩ := List.mem_map.mp (mem_of_slot? content)
    apply Color.not_mem_css absentInValues
    exact fun member => absentInPart slot (by simp [slotMember]) (mem_of_mem_trim member)
  rw [mem_html foreign]
  rintro (⟨color, shown, inColor⟩ | inText)
  · exact absentInColor color shown inColor
  · exact absentInText inText

private theorem eq_self_or_count_lt_of_find? {palette : Palette}
    (plainNames : palette.HasPlainNames)
    {text replaced after : Text} (reading : find? palette text = some (replaced, after)) :
    replaced ++ after = text ∨ text.count '<' < (replaced ++ after).count '<' := by
  obtain ⟨body, _, _, rfl, rfl⟩ := find?_sound reading
  unfold replacement
  cases wellFormed : ofBody? body with
  | none =>
      left
      have delimiters : "!~".toList = ['!', '~'] ∧ "~!".toList = ['~', '!'] := ⟨rfl, rfl⟩
      simp [delimiters.1, delimiters.2]
  | some underline =>
      right
      have more := count_lt_count_html plainNames wellFormed
      simp only [List.count_append, List.count_cons]
      simp only [beq_iff_eq, Char.reduceEq, if_false]
      omega

theorem addsTags_expandLine {palette : Palette} (plainNames : palette.HasPlainNames) :
    AddsTags (expandLine palette) :=
  replaceMatches_eq_self_or_count_lt (advances palette) '<'
    fun _ _ _ reading => eq_self_or_count_lt_of_find? plainNames reading

theorem keepsOut_expandLine {c : Char} (foreign : isMarkupChar c = false) {palette : Palette}
    (absentInValues : ∀ entry ∈ palette.entries, c ∉ entry.2) :
    KeepsOut c (expandLine palette) := by
  intro line
  apply not_mem_replaceMatches (advances palette)
  intro text replaced after reading absent
  obtain ⟨body, _, _, rfl, rfl⟩ := find?_sound reading
  simp only [List.mem_cons, List.mem_append, not_or] at absent
  unfold replacement
  cases wellFormed : ofBody? body with
  | none => simp [absent]
  | some underline => exact not_mem_html foreign absentInValues absent.2.2.1 wellFormed

theorem staysInLine_expandLine {palette : Palette} (singleLine : palette.IsSingleLine) :
    StaysInLine (expandLine palette) :=
  keepsOut_expandLine (by decide) singleLine

/-- Whether one of the underlines that are read in a line, one after the other, is well-formed. -/
def OccursIn (line : Text) : Prop :=
  ∃ body ∈ findMatches readBody? line, (ofBody? body).isSome = true

/-- Underlining leaves a line as it is exactly if it reads no well-formed underline. -/
theorem expandLine_eq_self_iff {palette : Palette} (plainNames : palette.HasPlainNames)
    (line : Text) : expandLine palette line = line ↔ ¬ OccursIn line := by
  unfold OccursIn expandLine
  induction line using match_induction readBody?_advances with
  | nil => simp
  | pass c rest missing inductionHypothesis =>
      have noMatch : find? palette (c :: rest) = none := by
        rw [find?, missing, Option.map_none]
      rw [replaceMatches_of_none noMatch, findMatches_of_none missing, ← inductionHypothesis]
      simp
  | found text body after reading inductionHypothesis =>
      have replaced : find? palette text = some (replacement palette body, after) := by
        rw [find?, reading, Option.map_some]
      rw [replaceMatches_of_some (advances palette) replaced,
        findMatches_of_some readBody?_advances reading]
      obtain ⟨rfl, _, _⟩ := readBody?_eq_some_iff.mp reading
      cases wellFormed : ofBody? body with
      | none =>
          have kept : replacement palette body = '!' :: '~' :: (body ++ ['~', '!']) := by
            rw [replacement, wellFormed]
            exact List.append_assoc ['!', '~'] body ['~', '!']
          have whole : '!' :: '~' :: (body ++ '~' :: '!' :: after) =
              '!' :: '~' :: (body ++ ['~', '!']) ++ after := by simp
          rw [kept, whole, List.append_right_inj, inductionHypothesis]
          simp [wellFormed]
      | some underline =>
          have gained : replacement palette body = underline.html palette := by
            rw [replacement, wellFormed]
          have more := count_lt_count_html plainNames wellFormed
          have notFewer := (addsTags_expandLine plainNames).count_le after
          constructor
          · intro unchanged
            have counts := congrArg (List.count '<') unchanged
            rw [gained] at counts
            simp only [expandLine, List.count_append, List.count_cons] at counts notFewer
            simp only [beq_iff_eq, Char.reduceEq, if_false] at counts
            omega
          · intro noUnderline
            exact absurd ⟨body, List.mem_cons_self, by simp [wellFormed]⟩ noUnderline

end MarkdownDialect.Underline
