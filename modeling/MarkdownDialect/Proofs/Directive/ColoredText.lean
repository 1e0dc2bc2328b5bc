import MarkdownDialect.Directive.Color
import MarkdownDialect.Proofs.Directive.BetweenBlanks
import MarkdownDialect.Proofs.Palette
import MarkdownDialect.Proofs.Text.LineChange
import MarkdownDialect.Proofs.Text.Markup

/-!
# Reading coloured text

A coloured text begins with its slot, `%slot%`, and ends at the first `%%` that leaves something
between the two. What stands there is printed without the white space around it.
-/

namespace MarkdownDialect.ColoredText

open Text

/-- What a slot may hold at the front of a text, and what follows it. -/
def readSlotContent? (text : Text) : Option (Text × Text) :=
  match "#".toList.isPrefixOf? text with
  | some rest =>
    if Color.isHexLiteral ('#' :: rest.take 6) then
      some ('#' :: rest.take 6, rest.drop 6)
    else
      none
  | none =>
    if text.takeWhile isAsciiLetter = [] then
      none
    else
      some (text.takeWhile isAsciiLetter, text.dropWhile isAsciiLetter)

/-- A colour slot at the front of a text, between percent signs: a word of ASCII letters or a
hexadecimal literal. Gives the slot's content and what follows the second percent sign. -/
def readSlot? (text : Text) : Option (Text × Text) := do
  let rest ← "%".toList.isPrefixOf? text
  let (slot, behind) ← readSlotContent? rest
  let after ← "%".toList.isPrefixOf? behind
  return (slot, after)

/-- What follows the closing `%%` and the blanks before it, if these stand at the front. -/
def readClosing? (text : Text) : Option Text :=
  "%%".toList.isPrefixOf? (text.dropWhile isBlank)

/-- The shortest non-empty beginning of a line after which the directive closes. -/
def readBody? : Text → Option (Text × Text) :=
  shortestBefore? readClosing?

/-- The text of a directive whose colour slot is read. -/
def readText? : Text → Option (Text × Text) :=
  textBefore? readClosing?

theorem readBody?_cons (c : Char) (rest : Text) :
    readBody? (c :: rest) =
      if c = '\r' then
        none
      else
        match readClosing? rest with
        | some after => some ([c], after)
        | none => (readBody? rest).map fun (body, after) => (c :: body, after) := by
  rw [readBody?, shortestBefore?]
  cases readClosing? rest <;> rfl

theorem readText?_eq (afterSlot : Text) :
    readText? afterSlot =
      match readBody? (afterSlot.dropWhile isBlank), (afterSlot.takeWhile isBlank).getLast? with
      | some found, _ => some found
      | none, some blank =>
        (readClosing? (afterSlot.dropWhile isBlank)).map fun after => ([blank], after)
      | none, none => none := by
  rw [readText?, textBefore?, readBody?]
  cases shortestBefore? readClosing? (afterSlot.dropWhile isBlank) with
  | some found => rfl
  | none => cases (afterSlot.takeWhile isBlank).getLast? <;> rfl

/-- A coloured text at the front of a line, as its HTML. -/
def find? (palette : Palette) (line : Text) : Option (Text × Text) := do
  let (slot, afterSlot) ← readSlot? line
  let (text, after) ← readText? afterSlot
  return (html ((Color.ofText slot).css palette) (trim text), after)

def expandLine (palette : Palette) (line : Text) : Text :=
  replaceMatches (find? palette) line

/-! ## The slot -/

/-- What may stand in the slot: a hexadecimal literal or a word of ASCII letters. -/
def IsSlot (slot : Text) : Prop :=
  Color.isHexLiteral slot = true ∨ slot ≠ [] ∧ ∀ c ∈ slot, isAsciiLetter c = true

theorem takeWhile_append_percent {inClass : Char → Bool} {word : Text} (after : Text)
    (inside : ∀ c ∈ word, inClass c = true) (outside : inClass '%' = false) :
    (word ++ '%' :: after).takeWhile inClass = word ∧
      (word ++ '%' :: after).dropWhile inClass = '%' :: after := by
  constructor
  · rw [List.takeWhile_append_of_pos inside]
    simp [outside]
  · rw [List.dropWhile_append_of_pos inside]
    simp [outside]

theorem readSlotContent?_sound {text slot behind : Text}
    (reading : readSlotContent? text = some (slot, behind)) :
    text = slot ++ behind ∧ IsSlot slot := by
  unfold readSlotContent? at reading
  cases opening : "#".toList.isPrefixOf? text with
  | some rest =>
      simp only [opening, Option.ite_none_right_eq_some, Option.some.injEq,
        Prod.mk.injEq] at reading
      obtain ⟨isHex, rfl, rfl⟩ := reading
      refine ⟨?_, Or.inl isHex⟩
      rw [List.cons_append, List.take_append_drop]
      exact isPrefixOf?_eq_some_iff.mp opening
  | none =>
      simp only [opening, Option.ite_none_left_eq_some, Option.some.injEq, Prod.mk.injEq] at reading
      obtain ⟨nonempty, rfl, rfl⟩ := reading
      exact ⟨List.takeWhile_append_dropWhile.symm, Or.inr ⟨nonempty, fun c member =>
        List.mem_takeWhile_imp member⟩⟩

theorem readSlotContent?_complete {slot : Text} (after : Text) (isSlot : IsSlot slot) :
    readSlotContent? (slot ++ '%' :: after) = some (slot, '%' :: after) := by
  unfold readSlotContent?
  rcases isSlot with isHex | ⟨nonempty, letters⟩
  · cases slot with
    | nil => exact absurd isHex (by decide)
    | cons c digits =>
        by_cases hash : c = '#'
        · subst hash
          have six : digits.length = 6 := by
            simp only [Color.isHexLiteral, Bool.and_eq_true, decide_eq_true_eq] at isHex
            exact isHex.1
          have opening : "#".toList.isPrefixOf? ('#' :: digits ++ '%' :: after) =
              some (digits ++ '%' :: after) := rfl
          have taken : (digits ++ '%' :: after).take 6 = digits := by
            rw [← six, List.take_left]
          have dropped : (digits ++ '%' :: after).drop 6 = '%' :: after := by
            rw [← six, List.drop_left]
          simp only [opening, taken, dropped, isHex, if_true]
        · simp [Color.isHexLiteral, hash] at isHex
  · obtain ⟨taken, dropped⟩ := takeWhile_append_percent after letters (by decide)
    have opening : "#".toList.isPrefixOf? (slot ++ '%' :: after) = none := by
      rw [isPrefixOf?_eq_none_iff]
      intro rest equal
      cases slot with
      | nil => exact nonempty rfl
      | cons c others =>
          have hash : c = '#' := (List.cons.inj equal).1
          rw [hash] at letters
          exact absurd (letters '#' List.mem_cons_self) (by decide)
    simp only [opening, taken, dropped, if_neg nonempty]

/-- The slot is read exactly where one is written. -/
theorem readSlot?_eq_some_iff {text slot after : Text} :
    readSlot? text = some (slot, after) ↔
      text = '%' :: (slot ++ '%' :: after) ∧ IsSlot slot := by
  simp only [readSlot?, Option.bind_eq_bind, Option.bind_eq_some_iff, Option.pure_def,
    Option.some.injEq, Prod.mk.injEq, Prod.exists, isPrefixOf?_eq_some_iff]
  constructor
  · rintro ⟨rest, rfl, content, behind, reading, _, rfl, rfl, rfl⟩
    obtain ⟨rfl, isSlot⟩ := readSlotContent?_sound reading
    exact ⟨rfl, isSlot⟩
  · rintro ⟨rfl, isSlot⟩
    exact ⟨_, rfl, slot, '%' :: after, readSlotContent?_complete after isSlot, after, rfl, rfl, rfl⟩

theorem IsSlot.not_mem {slot : Text} (isSlot : IsSlot slot) {c : Char}
    (noDigit : isHexDigit c = false) (noLetter : isAsciiLetter c = false) (noHash : c ≠ '#') :
    c ∉ slot := by
  intro member
  rcases isSlot with isHex | ⟨_, letters⟩
  · unfold Color.isHexLiteral at isHex
    split at isHex
    · next digits =>
        simp only [Bool.and_eq_true, List.all_eq_true] at isHex
        rcases List.mem_cons.mp member with equal | inDigits
        · exact noHash equal
        · simp [isHex.2 c inDigits] at noDigit
    · simp at isHex
  · simp [letters c member] at noLetter

/-! ## What is coloured -/

theorem readClosing?_eq_some_iff {text after : Text} :
    readClosing? text = some after ↔
      ∃ blanks, (∀ c ∈ blanks, isBlank c = true) ∧ text = blanks ++ '%' :: '%' :: after := by
  have delimiter : "%%".toList = ['%', '%'] := rfl
  unfold readClosing?
  rw [delimiter, isPrefixOf?_eq_some_iff]
  constructor
  · intro following
    refine ⟨text.takeWhile isBlank, fun c member => List.mem_takeWhile_imp member, ?_⟩
    calc
      text = text.takeWhile isBlank ++ text.dropWhile isBlank :=
        List.takeWhile_append_dropWhile.symm
      _ = text.takeWhile isBlank ++ '%' :: '%' :: after := by rw [following]; rfl
  · rintro ⟨blanks, areBlank, rfl⟩
    exact (takeWhile_append_percent ('%' :: after) areBlank (by decide)).2

theorem readBody?_sound {text body after : Text} (reading : readBody? text = some (body, after)) :
    ∃ blanks, (∀ c ∈ blanks, isBlank c = true) ∧
      text = body ++ (blanks ++ '%' :: '%' :: after) ∧ body ≠ [] ∧ '\r' ∉ body := by
  obtain ⟨back, rfl, nonempty, noReturn, closing⟩ := shortestBefore?_sound reading
  obtain ⟨blanks, areBlank, rfl⟩ := readClosing?_eq_some_iff.mp closing
  exact ⟨blanks, areBlank, rfl, nonempty, noReturn⟩

theorem readBody?_complete {body : Text} (after : Text) (nonempty : body ≠ [])
    (noReturn : '\r' ∉ body) :
    (readBody? (body ++ '%' :: '%' :: after)).isSome = true := by
  induction body with
  | nil => exact absurd rfl nonempty
  | cons c rest inductionHypothesis =>
      replace noReturn := List.ne_and_not_mem_of_not_mem_cons noReturn
      rw [List.cons_append, readBody?_cons, if_neg (Ne.symm noReturn.1)]
      cases closing : readClosing? (rest ++ '%' :: '%' :: after) with
      | some following => rfl
      | none =>
          have restNonempty : rest ≠ [] := by
            rintro rfl
            exact absurd (readClosing?_eq_some_iff.mpr ⟨[], by simp, rfl⟩)
              (by rw [closing]; simp)
          simpa using inductionHypothesis restNonempty noReturn.2

private theorem getLast?_isBlank {blanks : Text} {last : Char}
    (areBlank : ∀ c ∈ blanks, isBlank c = true) (ends : blanks.getLast? = some last) :
    isBlank last = true :=
  areBlank last (List.mem_of_getLast? ends)

/-- What is coloured, without the white space around it, is all that stands between the slot and
the closing delimiter. -/
theorem readText?_sound {text body after : Text}
    (reading : readText? text = some (body, after)) :
    ∃ inner, text = inner ++ '%' :: '%' :: after ∧ inner ≠ [] ∧ '\r' ∉ inner ∧
      trim body = trim inner := by
  have split : text = text.takeWhile isBlank ++ text.dropWhile isBlank :=
    List.takeWhile_append_dropWhile.symm
  have areBlank : ∀ c ∈ text.takeWhile isBlank, isBlank c = true :=
    fun c member => List.mem_takeWhile_imp member
  have areSpaces : ∀ c ∈ text.takeWhile isBlank, isSpace c = true :=
    fun c member => isSpace_of_isBlank (areBlank c member)
  have noReturnBefore : '\r' ∉ text.takeWhile isBlank :=
    fun member => absurd (areBlank '\r' member) (by decide)
  simp only [readText?_eq] at reading
  generalize text.takeWhile isBlank = before at *
  generalize text.dropWhile isBlank = rest at *
  subst split
  cases found : readBody? rest with
  | some result =>
      simp only [found, Option.some.injEq] at reading
      subst reading
      obtain ⟨blanks, followBlank, rfl, nonempty, noReturn⟩ := readBody?_sound found
      refine ⟨before ++ (body ++ blanks), by simp, by simp [nonempty], ?_, ?_⟩
      · have noReturnBehind : '\r' ∉ blanks :=
          fun member => absurd (followBlank '\r' member) (by decide)
        simp [noReturnBefore, noReturn, noReturnBehind]
      · rw [trim_append_left areSpaces,
          trim_append_right fun c member => isSpace_of_isBlank (followBlank c member)]
  | none =>
      cases ends : before.getLast? with
      | none => simp [found, ends] at reading
      | some blank =>
          simp only [found, ends, Option.map_eq_some_iff, Prod.mk.injEq] at reading
          obtain ⟨following, closing, rfl, rfl⟩ := reading
          obtain ⟨blanks, followBlank, rfl⟩ := readClosing?_eq_some_iff.mp closing
          have followSpaces : ∀ c ∈ blanks, isSpace c = true :=
            fun c member => isSpace_of_isBlank (followBlank c member)
          have blankIsSpace : isSpace blank = true :=
            isSpace_of_isBlank (getLast?_isBlank areBlank ends)
          refine ⟨before ++ blanks, by simp, ?_, ?_, ?_⟩
          · rintro empty
            simp [List.append_eq_nil_iff.mp empty] at ends
          · have noReturnBehind : '\r' ∉ blanks :=
              fun member => absurd (followBlank '\r' member) (by decide)
            simp [noReturnBefore, noReturnBehind]
          · rw [trim_append_left areSpaces, trim_eq_nil_iff.mpr followSpaces,
              trim_eq_nil_iff.mpr (by simpa using blankIsSpace)]

theorem readText?_complete {inner : Text} (after : Text) (nonempty : inner ≠ [])
    (noReturn : '\r' ∉ inner) :
    (readText? (inner ++ '%' :: '%' :: after)).isSome = true := by
  by_cases allBlank : ∀ c ∈ inner, isBlank c = true
  · obtain ⟨taken, dropped⟩ :=
      takeWhile_append_percent ('%' :: after) allBlank (by decide)
    have closing : readClosing? ('%' :: '%' :: after) = some after :=
      readClosing?_eq_some_iff.mpr ⟨[], by simp, rfl⟩
    simp only [readText?_eq, taken, dropped]
    cases readBody? ('%' :: '%' :: after) with
    | some found => simp
    | none =>
        cases ends : inner.getLast? with
        | none => exact absurd (List.getLast?_eq_none_iff.mp ends) nonempty
        | some blank => simp [closing]
  · have bodyNonempty : inner.dropWhile isBlank ≠ [] := by
      rwa [Ne, List.dropWhile_eq_nil_iff]
    have dropped : (inner ++ '%' :: '%' :: after).dropWhile isBlank =
        inner.dropWhile isBlank ++ '%' :: '%' :: after := by
      rw [List.dropWhile_append, if_neg (by simpa using bodyNonempty)]
    have found := readBody?_complete after bodyNonempty
      fun member => noReturn ((List.dropWhile_sublist isBlank).mem member)
    obtain ⟨result, reading⟩ := Option.isSome_iff_exists.mp found
    simp [readText?_eq, dropped, reading]

/-! ## A coloured text at the front of a line -/

theorem find?_sound {palette : Palette} {text replacement after : Text}
    (reading : find? palette text = some (replacement, after)) :
    ∃ slot inner, IsSlot slot ∧ inner ≠ [] ∧ '\r' ∉ inner ∧
      text = '%' :: (slot ++ '%' :: (inner ++ '%' :: '%' :: after)) ∧
      replacement = html ((Color.ofText slot).css palette) (trim inner) := by
  simp only [find?, Option.bind_eq_bind, Option.bind_eq_some_iff, Option.pure_def,
    Option.some.injEq, Prod.mk.injEq, Prod.exists] at reading
  obtain ⟨slot, afterSlot, slotReading, body, following, textReading, rfl, rfl⟩ := reading
  obtain ⟨rfl, isSlot⟩ := readSlot?_eq_some_iff.mp slotReading
  obtain ⟨inner, rfl, nonempty, noReturn, sameTrim⟩ := readText?_sound textReading
  exact ⟨slot, inner, isSlot, nonempty, noReturn, rfl, by rw [sameTrim]⟩

theorem find?_complete (palette : Palette) {slot inner : Text} (after : Text)
    (isSlot : IsSlot slot) (nonempty : inner ≠ []) (noReturn : '\r' ∉ inner) :
    (find? palette ('%' :: (slot ++ '%' :: (inner ++ '%' :: '%' :: after)))).isSome = true := by
  have slotReading := readSlot?_eq_some_iff.mpr
    ⟨(rfl : '%' :: (slot ++ '%' :: (inner ++ '%' :: '%' :: after)) = _), isSlot⟩
  obtain ⟨result, textReading⟩ :=
    Option.isSome_iff_exists.mp (readText?_complete after nonempty noReturn)
  simp [find?, slotReading, textReading]

/-- A text that does not end in a blank has no closing delimiter before its end. -/
private theorem readClosing?_of_not_mem {text : Text} (rest : Text) (nonempty : text ≠ [])
    (noPercent : '%' ∉ text) (endsVisible : ∀ c, text.getLast? = some c → isBlank c = false) :
    readClosing? (text ++ rest) = none := by
  have notBlank : ¬ ∀ c ∈ text, isBlank c = true := by
    intro allBlank
    obtain ⟨last, isLast⟩ := Option.isSome_iff_exists.mp (List.getLast?_isSome.mpr nonempty)
    have blank := allBlank last (List.mem_of_getLast? isLast)
    rw [endsVisible last isLast] at blank
    exact absurd blank (by decide)
  rw [Option.eq_none_iff_forall_ne_some]
  intro following closing
  obtain ⟨blanks, areBlank, split⟩ := readClosing?_eq_some_iff.mp closing
  rcases List.append_eq_append_iff.mp split with ⟨more, rfl, _⟩ | ⟨middle, rfl, tail⟩
  · exact notBlank fun c member => areBlank c (List.mem_append_left more member)
  · cases middle with
    | nil => exact notBlank (by simpa using areBlank)
    | cons c others =>
        rw [List.cons_append, List.cons.injEq] at tail
        exact noPercent (List.mem_append_right blanks (by simp [← tail.1]))

/-- Up to the closing delimiter, a body that holds no percent sign and does not end in a blank is
read whole. -/
private theorem readBody?_of_not_mem {body blanks : Text} (after : Text) (nonempty : body ≠ [])
    (noReturn : '\r' ∉ body) (noPercent : '%' ∉ body)
    (endsVisible : ∀ c, body.getLast? = some c → isBlank c = false)
    (areBlank : ∀ c ∈ blanks, isBlank c = true) :
    readBody? (body ++ (blanks ++ '%' :: '%' :: after)) = some (body, after) := by
  induction body with
  | nil => exact absurd rfl nonempty
  | cons c rest inductionHypothesis =>
      simp only [List.mem_cons, not_or] at noReturn noPercent
      rw [List.cons_append, readBody?_cons, if_neg (Ne.symm noReturn.1)]
      cases rest with
      | nil =>
          have closing : readClosing? (blanks ++ '%' :: '%' :: after) = some after :=
            readClosing?_eq_some_iff.mpr ⟨blanks, areBlank, rfl⟩
          simp [closing]
      | cons d others =>
          have tailEnds : ∀ last, (d :: others).getLast? = some last → isBlank last = false := by
            intro last isLast
            exact endsVisible last (by simpa using isLast)
          have notClosed : readClosing? (d :: others ++ (blanks ++ '%' :: '%' :: after)) = none :=
            readClosing?_of_not_mem _ (by simp) noPercent.2 tailEnds
          rw [notClosed, inductionHypothesis (by simp) noReturn.2 noPercent.2 tailEnds]
          rfl

theorem advances (palette : Palette) : Advances (find? palette) := by
  intro text replacement after reading
  obtain ⟨slot, inner, _, _, _, rfl, _⟩ := find?_sound reading
  exact ⟨'%' :: (slot ++ '%' :: (inner ++ ['%', '%'])), by simp, by simp⟩

/-- A coloured text whose text is trimmed and holds no percent sign. -/
theorem find?_eq_some (palette : Palette) {slot before text blanks : Text} (after : Text)
    (isSlot : IsSlot slot) (nonempty : text ≠ []) (noReturn : '\r' ∉ text) (noPercent : '%' ∉ text)
    (trimmed : trim text = text) (beforeBlank : ∀ c ∈ before, isBlank c = true)
    (areBlank : ∀ c ∈ blanks, isBlank c = true) :
    find? palette
        ('%' :: (slot ++ '%' :: (before ++ (text ++ (blanks ++ '%' :: '%' :: after))))) =
      some (html ((Color.ofText slot).css palette) text, after) := by
  have slotReading := readSlot?_eq_some_iff.mpr
    ⟨(rfl : '%' :: (slot ++ '%' :: (before ++ (text ++ (blanks ++ '%' :: '%' :: after)))) = _),
      isSlot⟩
  have bodyReading := readBody?_of_not_mem after nonempty noReturn noPercent
    (fun c isLast => isBlank_eq_false_of_isSpace_eq_false (isSpace_getLast? trimmed isLast))
    areBlank
  have dropped : (before ++ (text ++ (blanks ++ '%' :: '%' :: after))).dropWhile isBlank =
      text ++ (blanks ++ '%' :: '%' :: after) := by
    rw [List.dropWhile_append_of_pos beforeBlank]
    cases text with
    | nil => exact absurd rfl nonempty
    | cons c rest =>
        have visible : isBlank c = false :=
          isBlank_eq_false_of_isSpace_eq_false (isSpace_head? trimmed rfl)
        simp [visible]
  have textReading : readText? (before ++ (text ++ (blanks ++ '%' :: '%' :: after))) =
      some (text, after) := by
    simp only [readText?_eq, dropped, bodyReading]
  simp only [find?, slotReading, textReading, Option.bind_eq_bind, Option.bind_some, trimmed,
    Option.pure_def]

/-- A coloured text begins with a percent sign. -/
theorem find?_eq_none_of_ne (palette : Palette) {c : Char} (rest : Text) (different : c ≠ '%') :
    find? palette (c :: rest) = none := by
  rw [Option.eq_none_iff_forall_ne_some]
  intro ⟨replacement, after⟩ reading
  obtain ⟨slot, inner, _, _, _, shape, _⟩ := find?_sound reading
  exact different (List.cons.inj shape).1

theorem inert_of_not_mem (palette : Palette) {piece : Text} (noPercent : '%' ∉ piece) :
    Inert (find? palette) piece :=
  Text.inert_of_not_mem (fun _ rest => find?_eq_none_of_ne palette rest) noPercent

theorem isHtml_html (color text : Text) : IsHtml (html color text) := by
  refine ⟨"span style=\"color: ".toList ++ (color ++ ("\">".toList ++ (text ++ "</spa".toList))),
    'n', ?_, by decide⟩
  unfold html
  simp only [List.append_assoc]
  rfl

/-- Colouring marks up a line. -/
theorem marksUp_expandLine (palette : Palette) (line : Text) :
    MarksUp line (expandLine palette line) := by
  apply MarksUp.replaceMatches (advances palette)
  intro text replacement after reading
  obtain ⟨slot, inner, isSlot, nonempty, noReturn, rfl, rfl⟩ := find?_sound reading
  refine ⟨'%' :: (slot ++ '%' :: (inner ++ ['%', '%'])), by simp, Or.inr ⟨by simp, ?_, ?_⟩⟩
  · have noReturnInSlot : '\r' ∉ slot :=
      isSlot.not_mem (by decide) (by decide) (by decide)
    simp [noReturn, noReturnInSlot]
  · exact isHtml_html _ _

/-! ## What colouring brings in -/

theorem count_lt_of_find? {palette : Palette} {text replacement after : Text}
    (reading : find? palette text = some (replacement, after)) :
    text.count '<' < (replacement ++ after).count '<' := by
  obtain ⟨slot, inner, isSlot, _, _, rfl, rfl⟩ := find?_sound reading
  have slotCount : slot.count '<' = 0 :=
    List.count_eq_zero.mpr (isSlot.not_mem (by decide) (by decide) (by decide))
  have innerCount := count_trim (by decide : isSpace '<' = false) inner
  have opening : "<span style=\"color: ".toList.count '<' = 1 := by decide
  unfold html
  simp only [List.count_append, List.count_cons, opening, slotCount, innerCount]
  simp only [beq_iff_eq, Char.reduceEq, if_false]
  omega

theorem addsTags_expandLine (palette : Palette) : AddsTags (expandLine palette) :=
  replaceMatches_eq_self_or_count_lt (advances palette) '<'
    fun _ _ _ reading => Or.inr (count_lt_of_find? reading)

@[simp]
theorem mem_html {c : Char} (foreign : isMarkupChar c = false) {color text : Text} :
    c ∈ html color text ↔ c ∈ color ∨ c ∈ text := by
  have opening : "<span style=\"color: ".toList.all isMarkupChar = true := by decide
  have middle : "\">".toList.all isMarkupChar = true := by decide
  have closing : "</span>".toList.all isMarkupChar = true := by decide
  unfold html
  rw [mem_append_markup foreign closing, List.mem_append, mem_append_markup foreign middle,
    mem_markup_append foreign opening]

theorem keepsOut_expandLine {c : Char} (foreign : isMarkupChar c = false) {palette : Palette}
    (absentInValues : ∀ entry ∈ palette.entries, c ∉ entry.2) :
    KeepsOut c (expandLine palette) := by
  intro line
  apply not_mem_replaceMatches (advances palette)
  intro text replacement after reading absent
  obtain ⟨slot, inner, _, _, _, rfl, rfl⟩ := find?_sound reading
  simp only [List.mem_cons, List.mem_append, not_or] at absent
  have absentInColor := Color.not_mem_css absentInValues absent.2.1
  have absentInText : c ∉ trim inner := fun member => absent.2.2.2.1 (mem_of_mem_trim member)
  simp [foreign, absentInColor, absentInText]

theorem staysInLine_expandLine {palette : Palette} (singleLine : palette.IsSingleLine) :
    StaysInLine (expandLine palette) :=
  keepsOut_expandLine (by decide) singleLine

/-- Whether a coloured text is written somewhere in a line. -/
def OccursIn (line : Text) : Prop :=
  ∃ before slot inner after, IsSlot slot ∧ inner ≠ [] ∧ '\r' ∉ inner ∧
    line = before ++ '%' :: (slot ++ '%' :: (inner ++ '%' :: '%' :: after))

/-- Colouring leaves a line as it is exactly if no coloured text is written in it. -/
theorem expandLine_eq_self_iff (palette : Palette) (line : Text) :
    expandLine palette line = line ↔ ¬ OccursIn line := by
  have noMatch : expandLine palette line = line ↔
      ∀ back, back <:+ line → find? palette back = none :=
    replaceMatches_eq_self_iff (advances palette) '<'
      (fun _ _ _ reading => count_lt_of_find? reading) line
  rw [noMatch]
  constructor
  · rintro missing ⟨before, slot, inner, after, isSlot, nonempty, noReturn, rfl⟩
    have found := find?_complete palette after isSlot nonempty noReturn
    rw [missing _ (List.suffix_append before _)] at found
    exact absurd found (by simp)
  · rintro noText back ⟨before, rfl⟩
    rw [Option.eq_none_iff_forall_ne_some]
    rintro ⟨replacement, after⟩ reading
    obtain ⟨slot, inner, isSlot, nonempty, noReturn, rfl, _⟩ := find?_sound reading
    exact noText ⟨before, slot, inner, after, isSlot, nonempty, noReturn, rfl⟩

end MarkdownDialect.ColoredText
