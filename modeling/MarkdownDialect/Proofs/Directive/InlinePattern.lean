import MarkdownDialect.Proofs.Directive.ColoredText
import MarkdownDialect.Proofs.Directive.Highlight
import MarkdownDialect.Proofs.Directive.Underline

/-!
# The patterns of directives within a line

Within a line, the patterns of coloured texts, highlights and underlines match what the readers of
these directives read. So a stage that replaces the matches of its pattern in a whole text expands
every line on its own.
-/

namespace MarkdownDialect

open Text Pattern

/-! ## Coloured texts -/

namespace ColoredText

private theorem skips_readClosing? (c : Char) (rest : Text) (blank : isBlank c = true) :
    readClosing? (c :: rest) = readClosing? rest := by
  rw [readClosing?, List.dropWhile_cons_of_pos blank, readClosing?]

/-- What follows the text of a directive. -/
private theorem run_closing (trace : Trace) (text : Text) :
    (Pattern.sequence [.many isBlank, .literal "%%".toList]).run
        (fun trace rest => some (trace.captures, rest)) trace text =
      (readClosing? text).map fun after => (trace.captures, after) := by
  have stops : ∀ (trace : Trace) (c : Char) (rest : Text), isBlank c = true →
      (Pattern.sequence [.literal "%%".toList]).run
        (fun trace rest => some (trace.captures, rest)) trace (c :: rest) = none := by
    intro trace c rest blank
    have different : '%' ≠ c := by
      rintro rfl
      exact absurd blank (by decide)
    simp [List.isPrefixOf?, different]
  rw [run_sequence_cons, run, runMany_of_stops stops, run_literal_last, readClosing?,
    Trace.captures_pushAll]

/-- What follows the slot of a directive. -/
private theorem run_text (trace : Trace) {text : Text} (single : '\n' ∉ text) :
    (Pattern.sequence [.many isBlank, .group 2 (.oneOrFew isInLine), .many isBlank,
        .literal "%%".toList]).run (fun trace rest => some (trace.captures, rest)) trace text =
      (readText? text).map fun (text, after) => ((2, text) :: trace.captures, after) :=
  runMany_of_closes (fun trace rest _ => run_closing trace rest) skips_readClosing? 2 trace single

/-- A word gives no letter back to the percent sign that has to follow it. -/
private theorem run_slotContent {α : Type} {close : Trace → Text → Option α}
    (stops : ∀ trace c rest, isAsciiLetter c = true → close trace (c :: rest) = none)
    (trace : Trace) (text : Text) :
    (either (.oneOrMany isAsciiLetter)
        (.seq (.literal "#".toList) (.exactly 6 isHexDigit))).run close trace text =
      (readSlotContent? text).bind fun content => close (trace.pushAll content.1) content.2 := by
  rw [run_either, run_oneOrMany_of_stops stops, run, run_literal]
  unfold readSlotContent?
  cases opening : "#".toList.isPrefixOf? text with
  | some digits =>
      obtain rfl : text = '#' :: digits := isPrefixOf?_eq_some_iff.mp opening
      have noWord : ('#' :: digits).takeWhile isAsciiLetter = [] :=
        List.takeWhile_cons_of_neg (by decide)
      have isHex : Color.isHexLiteral ('#' :: digits.take 6) = true ↔
          (digits.take 6).length = 6 ∧ (digits.take 6).all isHexDigit = true := by
        simp [Color.isHexLiteral]
      rw [if_pos noWord, Option.none_or, Option.bind_some, run_exactly]
      by_cases hex : Color.isHexLiteral ('#' :: digits.take 6) = true
      · simp only [hex, if_true, if_pos (isHex.mp hex), Option.bind_some]
        rfl
      · simp only [if_neg hex, if_neg (isHex.not.mp hex), Option.bind_none]
  | none =>
      rw [Option.bind_none, Option.or_none]
      by_cases empty : text.takeWhile isAsciiLetter = []
      · simp only [if_pos empty, Option.bind_none]
      · simp only [if_neg empty, Option.bind_some]

private theorem run_slotPattern {α : Type} {next : Trace → Text → Option α}
    {result : Captures → Text → Option α}
    (agree : ∀ trace rest, '\n' ∉ rest → next trace rest = result trace.captures rest)
    (trace : Trace) {text : Text} (single : '\n' ∉ text) :
    slotPattern.run next trace text =
      (readSlot? text).bind fun found => result ((1, found.1) :: trace.captures) found.2 := by
  have stops : ∀ (inside : Trace) (c : Char) (behind : Text), isAsciiLetter c = true →
      (Pattern.sequence [.literal "%".toList]).run next
        ((trace.pushAll "%".toList).closeGroup inside 1) (c :: behind) = none := by
    intro inside c behind letter
    have noPrefix : "%".toList.isPrefixOf? (c :: behind) = none := by
      rw [isPrefixOf?_eq_none_iff]
      intro after equal
      rw [(List.cons.inj equal).1] at letter
      exact absurd letter (by decide)
    rw [run_sequence_cons, run_literal, noPrefix, Option.bind_none]
  rw [slotPattern, run_sequence_cons, run_literal, readSlot?]
  cases opening : "%".toList.isPrefixOf? text with
  | none => rfl
  | some rest =>
      obtain rfl : text = '%' :: rest := isPrefixOf?_eq_some_iff.mp opening
      rw [Option.bind_some, run_sequence_cons, run_group, run_slotContent stops]
      simp only [Option.bind_eq_bind, Option.bind_some]
      cases reading : readSlotContent? rest with
      | none => rfl
      | some content =>
          simp only [Option.bind_some, run_sequence_cons, run_sequence_nil, run_literal]
          cases closing : "%".toList.isPrefixOf? content.2 with
          | none => rfl
          | some after =>
              obtain ⟨rfl, _⟩ := readSlotContent?_sound reading
              have behind : content.2 = '%' :: after := isPrefixOf?_eq_some_iff.mp closing
              have singleAfter : '\n' ∉ after := by
                intro member
                exact single (by simp [behind, member])
              simp only [Option.bind_some, Option.pure_def, agree _ _ singleAfter]
              simp

theorem front?_eq_bind (atLineStart : Bool) {text : Text} (single : '\n' ∉ text) :
    pattern.front? atLineStart text =
      (readSlot? text).bind fun (slot, afterSlot) =>
        (readText? afterSlot).map fun (text, after) => ([(2, text), (1, slot)], after) := by
  rw [front?, pattern, run_sequence_cons]
  exact @run_slotPattern _ _ (fun captures rest =>
    (readText? rest).map fun body => ((2, body.1) :: captures, body.2))
    (fun trace _ => run_text trace) { atLineStart } _ single

private theorem map_front? (palette : Palette) (atLineStart : Bool) {text : Text}
    (single : '\n' ∉ text) :
    (pattern.front? atLineStart text).map
        (fun found => (expansion palette (withWhole text found), found.2)) =
      find? palette text := by
  rw [front?_eq_bind atLineStart single, find?]
  cases readSlot? text with
  | none => rfl
  | some slotFound =>
      cases textReading : readText? slotFound.2 with
      | none => simp [textReading]
      | some textFound => simp [textReading, expansion, withWhole]

theorem expand_eq_onLines (palette : Palette) : expand palette = onLines (expandLine palette) :=
  replaceAll_eq_onLines (by decide) (advances palette)
    fun atLineStart _ single => map_front? palette atLineStart single

end ColoredText

/-! ## Highlights -/

namespace Highlight

theorem readRest?_cons (c : Char) (rest : Text) :
    readRest? (c :: rest) =
      match delimiter.isPrefixOf? (c :: rest) with
      | some after => some ([], after)
      | none =>
        if c = '\r' then none
        else (readRest? rest).map fun (body, after) => (c :: body, after) := by
  unfold readRest?
  rw [breakOn]
  cases delimiter.isPrefixOf? (c :: rest) with
  | some after => simp
  | none =>
      by_cases isReturn : c = '\r'
      · cases breakOn delimiter rest <;> simp [isReturn]
      · cases breakOn delimiter rest with
        | none => simp
        | some split =>
            have different : '\r' ≠ c := Ne.symm isReturn
            by_cases member : '\r' ∈ split.1 <;> simp [isReturn, different, member]

/-- What is read behind the first character may be empty, unlike a shortest text. -/
private theorem readRest?_eq_match (text : Text) :
    readRest? text =
      match delimiter.isPrefixOf? text with
      | some after => some ([], after)
      | none => shortestBefore? delimiter.isPrefixOf? text := by
  induction text with
  | nil => rfl
  | cons c rest inductionHypothesis =>
      rw [readRest?_cons, shortestBefore?, inductionHypothesis]
      cases delimiter.isPrefixOf? rest with
      | some after => rfl
      | none => rfl

private theorem map_front? (atLineStart : Bool) {text : Text} (single : '\n' ∉ text) :
    (pattern.front? atLineStart text).map
        (fun found => (html ((withWhole text found).text 1), found.2)) = find? text := by
  rw [front?, pattern, run_sequence_cons, run_literal]
  unfold find?
  cases opening : delimiter.isPrefixOf? text with
  | none => rfl
  | some behind =>
      obtain rfl : text = '=' :: '=' :: behind := isPrefixOf?_eq_some_iff.mp opening
      cases behind with
      | nil => rfl
      | cons first rest =>
          simp only [List.mem_cons, not_or] at single
          obtain ⟨_, _, noFeed, singleRest⟩ := single
          rw [Option.bind_some, run_sequence_cons, run_group, run]
          by_cases excluded : first = '=' ∨ first = '\r'
          · rcases excluded with rfl | rfl <;> rfl
          · rw [not_or] at excluded
            have inClass : (isInLine first && first != '=') = true := by
              simp [isInLine, Ne.symm noFeed, excluded]
            simp only [run, inClass, if_true]
            rw [runFew_of_closes
              (fun trace rest _ => run_literal_last delimiter trace rest) 1 _ _ singleRest]
            simp only [Option.bind_eq_bind, Option.bind_some, readRest?_eq_match]
            simp only [excluded, decide_false, Bool.or_false]
            cases delimiter.isPrefixOf? rest with
            | some after => simp [withWhole]
            | none => cases shortestBefore? delimiter.isPrefixOf? rest <;> simp [withWhole]

theorem expand_eq_onLines : expand = onLines expandLine :=
  replaceAll_eq_onLines (by decide) advances fun atLineStart _ single =>
    map_front? atLineStart single

end Highlight

/-! ## Underlines -/

namespace Underline

/-- The delimiter behind a body begins with no character of the body. -/
private theorem run_closing {inClass : Char → Bool} (noTilde : inClass '~' = false) (trace : Trace)
    (text : Text) :
    (Pattern.sequence [.group 1 (.oneOrFew inClass), .literal "~!".toList]).run
        (fun trace rest => some (trace.captures, rest)) trace text =
      if text.takeWhile inClass = [] then
        none
      else
        ("~!".toList.isPrefixOf? (text.dropWhile inClass)).map fun after =>
          ((1, text.takeWhile inClass) :: trace.captures, after) := by
  rw [run_sequence_cons, run_group, run_oneOrFew_of_stops]
  · rw [run_literal_last]
    simp
  · intro inside c rest member
    have different : '~' ≠ c := by
      rintro rfl
      simp [noTilde] at member
    simp [List.isPrefixOf?, different]

private theorem front?_eq_map_readBody? (atLineStart : Bool) {text : Text} (single : '\n' ∉ text) :
    pattern.front? atLineStart text =
      (readBody? text).map fun (body, after) => ([(1, body)], after) := by
  rw [front?, pattern, run_sequence_cons, run_literal]
  unfold readBody?
  cases opening : "!~".toList.isPrefixOf? text with
  | none => rfl
  | some rest =>
      obtain rfl : text = '!' :: '~' :: rest := isPrefixOf?_eq_some_iff.mp opening
      simp only [List.mem_cons, not_or] at single
      have sameClass : ∀ c ∈ rest, (isInLine c && c != '~') = isBodyChar c := by
        intro c member
        rw [isInLine_of_mem single.2.2 member]
        simp [isBodyChar, bne, Bool.and_comm]
      rw [Option.bind_some, run_closing (by decide), takeWhile_congr sameClass,
        dropWhile_congr sameClass]
      simp only [Option.bind_eq_bind, Option.bind_some, Trace.captures_pushAll]
      cases "~!".toList.isPrefixOf? (rest.dropWhile isBodyChar) with
      | none => simp
      | some after => by_cases empty : rest.takeWhile isBodyChar = [] <;> simp [empty]

private theorem map_front? (palette : Palette) (atLineStart : Bool) {text : Text}
    (single : '\n' ∉ text) :
    (pattern.front? atLineStart text).map
        (fun found => (expansion palette (withWhole text found), found.2)) =
      find? palette text := by
  rw [front?_eq_map_readBody? atLineStart single, find?, Option.map_map]
  cases reading : readBody? text with
  | none => rfl
  | some found =>
      obtain ⟨rfl, _, _⟩ := readBody?_eq_some_iff.mp reading
      have whole : '!' :: '~' :: (found.1 ++ '~' :: '!' :: found.2) =
          ("!~".toList ++ found.1 ++ "~!".toList) ++ found.2 := by simp
      have matched := withWhole_append ("!~".toList ++ found.1 ++ "~!".toList)
        ([(1, found.1)], found.2)
      simp only [Option.map_some, Function.comp_apply, whole, matched]
      rfl

theorem expand_eq_onLines (palette : Palette) : expand palette = onLines (expandLine palette) :=
  replaceAll_eq_onLines (by decide) (advances palette)
    fun atLineStart _ single => map_front? palette atLineStart single

end Underline

end MarkdownDialect
