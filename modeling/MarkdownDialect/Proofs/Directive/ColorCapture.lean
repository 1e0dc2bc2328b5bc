import MarkdownDialect.Proofs.Directive.InlinePattern

/-!
# What a coloured text captures

The text of a directive is the shortest one after which the directive closes, but it takes at least
one character. If the delimiter stands where the text should begin, it is taken into the text, and
the directive runs on to the next delimiter of the line.
-/

namespace MarkdownDialect.ColoredText

open Text

/-! ## Captures -/

/-- What a directive captures. -/
structure Capture where
  slot : Text
  /-- What follows the slot in the line. -/
  afterSlot : Text
  text : Text
  deriving DecidableEq, Repr

def Capture.html (palette : Palette) (capture : Capture) : Text :=
  ColoredText.html ((Color.ofText capture.slot).css palette) (trim capture.text)

/-- A directive at the front of a line, and what follows it. -/
def capture? (line : Text) : Option (Capture × Text) := do
  let (slot, afterSlot) ← readSlot? line
  let (text, after) ← readText? afterSlot
  return ({ slot, afterSlot, text }, after)

/-- What the directives of a text capture, line by line. -/
def captures (text : Text) : List Capture :=
  (lines text).flatMap (findMatches capture?)

theorem find?_eq_map_capture? (palette : Palette) (line : Text) :
    find? palette line =
      (capture? line).map fun (capture, after) => (capture.html palette, after) := by
  cases slotReading : readSlot? line with
  | none => simp [find?, capture?, slotReading]
  | some slotFound =>
      cases textReading : readText? slotFound.2 with
      | none => simp [find?, capture?, slotReading, textReading]
      | some textFound => simp [find?, capture?, slotReading, textReading, Capture.html]

theorem capture?_eq_some_iff {line : Text} {capture : Capture} {after : Text} :
    capture? line = some (capture, after) ↔
      readSlot? line = some (capture.slot, capture.afterSlot) ∧
        readText? capture.afterSlot = some (capture.text, after) := by
  simp only [capture?, Option.bind_eq_bind, Option.bind_eq_some_iff, Option.pure_def,
    Option.some.injEq, Prod.mk.injEq, Prod.exists]
  constructor
  · rintro ⟨slot, afterSlot, slotReading, text, following, textReading, rfl, rfl⟩
    exact ⟨slotReading, textReading⟩
  · rintro ⟨slotReading, textReading⟩
    exact ⟨_, _, slotReading, _, _, textReading, rfl, rfl⟩

theorem advances_capture? : Advances capture? := by
  intro line capture after reading
  apply advances Palette.standard line (capture.html Palette.standard) after
  rw [find?_eq_map_capture?, reading, Option.map_some]

/-- These are the captures of the pattern, which is matched in the whole text. -/
private theorem map_allCaptures_pattern (text : Text) :
    (pattern.allCaptures text).map (fun found => (found.text 1, found.text 2)) =
      (captures text).map fun capture => (capture.slot, capture.text) := by
  have inLines :=
    Pattern.allCaptures_eq_flatMap_lines (by decide : pattern.isWithinLine = true) text
  rw [inLines, captures, List.map_flatMap, List.map_flatMap]
  apply List.flatMap_congr
  intro line member
  have single := lineFeed_not_mem_of_mem_lines member
  rw [← findMatches_map advances_capture?]
  apply Pattern.map_allCaptures
    (advances_capture?.map fun capture => (capture.slot, capture.text))
  intro atLineStart back suffix
  rw [front?_eq_bind atLineStart fun feed => single (suffix.subset feed), capture?]
  cases readSlot? back with
  | none => rfl
  | some slotFound =>
      cases textReading : readText? slotFound.2 with
      | none => simp [textReading]
      | some textFound => simp [textReading, Pattern.withWhole]

/-! ## The closing delimiter in the text -/

def delimiter : Text :=
  "%%".toList

def HoldsDelimiter (text : Text) : Prop :=
  delimiter <:+: text

/-- After the slot and blanks comes the delimiter, then a character that is no percent sign, and
the delimiter again later in the line. -/
def ClosesTwice (afterSlot : Text) : Prop :=
  ∃ blanks first inner after, (∀ c ∈ blanks, isBlank c = true) ∧ first ≠ '%' ∧
    '\r' ∉ first :: inner ∧
    afterSlot = blanks ++ '%' :: '%' :: first :: (inner ++ '%' :: '%' :: after)

/-- The text ends as soon as the directive closes, so that only its beginning can be the
delimiter. -/
private theorem readBody?_minimal :
    ∀ {text body after front back : Text}, readBody? text = some (body, after) →
      body = front ++ '%' :: '%' :: back → front = []
  | [], body, after, front, back, reading, _ => by simp [readBody?, shortestBefore?] at reading
  | c :: rest, body, after, front, back, reading, holds => by
      rw [readBody?_cons] at reading
      split at reading
      · simp at reading
      · cases closing : readClosing? rest with
        | some following =>
            simp only [closing, Option.some.injEq, Prod.mk.injEq] at reading
            have lengths := congrArg List.length holds
            rw [← reading.1] at lengths
            simp only [List.length_append, List.length_cons, List.length_nil] at lengths
            omega
        | none =>
            simp only [closing, Option.map_eq_some_iff, Prod.mk.injEq] at reading
            obtain ⟨⟨shorter, following⟩, inRest, rfl, rfl⟩ := reading
            cases front with
            | nil => rfl
            | cons d others =>
                have inShorter : shorter = others ++ '%' :: '%' :: back :=
                  (List.cons.inj holds).2
                have atFront : others = [] := readBody?_minimal inRest inShorter
                obtain ⟨blanks, _, split, _⟩ := readBody?_sound inRest
                rw [inShorter, atFront] at split
                have closes : readClosing? rest ≠ none := by
                  rw [split, Option.ne_none_iff_exists']
                  exact ⟨_, readClosing?_eq_some_iff.mpr ⟨[], by simp, rfl⟩⟩
                exact absurd closing closes

private theorem readClosing?_percent {c : Char} (different : c ≠ '%') (rest : Text) :
    readClosing? ('%' :: c :: rest) = none := by
  rw [Option.eq_none_iff_forall_ne_some]
  intro after closing
  obtain ⟨blanks, areBlank, split⟩ := readClosing?_eq_some_iff.mp closing
  cases blanks with
  | nil =>
      simp only [List.nil_append, List.cons.injEq, true_and] at split
      exact different split.1
  | cons d others =>
      have blank := areBlank d List.mem_cons_self
      rw [List.cons_append, List.cons.injEq] at split
      rw [← split.1] at blank
      exact absurd blank (by decide)

/-- Of three percent signs the first is the text. -/
private theorem readBody?_percents (rest : Text) :
    readBody? ('%' :: '%' :: '%' :: rest) = some (['%'], rest) := by
  have closing : readClosing? ('%' :: '%' :: rest) = some rest :=
    readClosing?_eq_some_iff.mpr ⟨[], by simp, rfl⟩
  rw [readBody?_cons, if_neg (by decide), closing]

/-- A text that is read where the delimiter stands begins with it, unless a third percent sign
follows. -/
private theorem readBody?_of_delimiter {first : Char} {rest body after : Text}
    (different : first ≠ '%')
    (reading : readBody? ('%' :: '%' :: first :: rest) = some (body, after)) :
    ∃ more, body = '%' :: '%' :: more := by
  rw [readBody?_cons, if_neg (by decide), readClosing?_percent different] at reading
  simp only [Option.map_eq_some_iff, Prod.mk.injEq] at reading
  obtain ⟨⟨shorter, following⟩, inRest, rfl, rfl⟩ := reading
  rw [readBody?_cons, if_neg (by decide)] at inRest
  split at inRest
  · simp only [Option.some.injEq, Prod.mk.injEq] at inRest
    exact ⟨[], by rw [← inRest.1]⟩
  · simp only [Option.map_eq_some_iff, Prod.mk.injEq] at inRest
    obtain ⟨⟨more, _⟩, _, rfl, _⟩ := inRest
    exact ⟨more, rfl⟩

/-- The skipped blanks are no part of the text, except for a single one, which is no delimiter. -/
private theorem readText?_holdsDelimiter {afterSlot text after : Text}
    (reading : readText? afterSlot = some (text, after)) (holds : HoldsDelimiter text) :
    readBody? (afterSlot.dropWhile isBlank) = some (text, after) := by
  simp only [readText?_eq] at reading
  cases bodyReading : readBody? (afterSlot.dropWhile isBlank) with
  | some found =>
      rw [bodyReading] at reading
      exact reading
  | none =>
      cases lastBlank : (afterSlot.takeWhile isBlank).getLast? with
      | none => simp [bodyReading, lastBlank] at reading
      | some blank =>
          simp only [bodyReading, lastBlank, Option.map_eq_some_iff, Prod.mk.injEq] at reading
          obtain ⟨_, _, rfl, _⟩ := reading
          have tooLong := holds.length_le
          simp [delimiter] at tooLong

/-- The text of a directive holds the delimiter exactly if the delimiter stands where the text
should begin and the line has another one further on. -/
theorem holdsDelimiter_iff {afterSlot text after : Text}
    (reading : readText? afterSlot = some (text, after)) :
    HoldsDelimiter text ↔ ClosesTwice afterSlot := by
  constructor
  · intro holds
    have bodyReading := readText?_holdsDelimiter reading holds
    obtain ⟨front, back, split⟩ := holds
    have shape : text = front ++ '%' :: '%' :: back := by
      rw [← split, List.append_assoc]
      rfl
    have atFront : front = [] := readBody?_minimal bodyReading shape
    rw [atFront, List.nil_append] at shape
    obtain ⟨blanks, areBlank, following, _, noReturn⟩ := readBody?_sound bodyReading
    have rest : afterSlot.dropWhile isBlank =
        '%' :: '%' :: (back ++ blanks ++ '%' :: '%' :: after) := by
      rw [following, shape]
      simp
    cases inside : back ++ blanks with
    | nil =>
        rw [rest, inside, List.nil_append, readBody?_percents, shape] at bodyReading
        simp at bodyReading
    | cons first inner =>
        have different : first ≠ '%' := by
          rintro rfl
          rw [rest, inside, List.cons_append, readBody?_percents, shape] at bodyReading
          simp at bodyReading
        have noReturnInside : '\r' ∉ first :: inner := by
          have noReturnInBlanks : '\r' ∉ blanks :=
            fun member => absurd (areBlank '\r' member) (by decide)
          rw [← inside, List.mem_append, not_or]
          exact ⟨fun member => noReturn (by simp [shape, member]), noReturnInBlanks⟩
        refine ⟨afterSlot.takeWhile isBlank, first, inner, after,
          fun c member => List.mem_takeWhile_imp member, different, noReturnInside, ?_⟩
        calc
          afterSlot = afterSlot.takeWhile isBlank ++ afterSlot.dropWhile isBlank :=
            List.takeWhile_append_dropWhile.symm
          _ = _ := by rw [rest, inside, List.cons_append]
  · rintro ⟨blanks, first, inner, following, areBlank, different, noReturn, rfl⟩
    have dropped : (blanks ++ '%' :: '%' :: first :: (inner ++ '%' :: '%' :: following)).dropWhile
        isBlank = '%' :: '%' :: first :: (inner ++ '%' :: '%' :: following) :=
      (takeWhile_append_percent _ areBlank (by decide)).2
    have found : (readBody? ('%' :: '%' :: first :: (inner ++ '%' :: '%' :: following))).isSome =
        true := by
      have complete := @readBody?_complete ('%' :: '%' :: first :: inner) following (by simp)
        (by simpa using noReturn)
      simpa using complete
    obtain ⟨⟨body, rest⟩, bodyReading⟩ := Option.isSome_iff_exists.mp found
    obtain ⟨more, rfl⟩ := readBody?_of_delimiter different bodyReading
    simp only [readText?_eq, dropped, bodyReading, Option.some.injEq, Prod.mk.injEq] at reading
    rw [← reading.1]
    exact ⟨[], more, rfl⟩

/-! ## The texts that are coloured -/

/-- The matches in a text capture the slots and the texts of directives within its lines, what is
put in their place is the HTML of these, and a captured text holds the delimiter exactly if the
directive closes where its text should begin, and again later. -/
theorem captured_text_holds_delimiter_iff (palette : Palette) (text : Text) :
    (pattern.allCaptures text).map (fun found => (found.text 1, found.text 2)) =
        (captures text).map (fun capture => (capture.slot, capture.text)) ∧
      (lines text).flatMap (findMatches (find? palette)) =
        (captures text).map (Capture.html palette) ∧
      ∀ capture ∈ captures text,
        HoldsDelimiter capture.text ↔ ClosesTwice capture.afterSlot := by
  refine ⟨map_allCaptures_pattern text, ?_, ?_⟩
  · have sameReader : find? palette = fun line =>
        (capture? line).map fun (capture, after) => (capture.html palette, after) :=
      funext (find?_eq_map_capture? palette)
    rw [captures, List.map_flatMap]
    apply List.flatMap_congr
    intro line _
    rw [sameReader, findMatches_map advances_capture?]
  · intro capture member
    obtain ⟨line, _, inLine⟩ := List.mem_flatMap.mp member
    obtain ⟨_, after, _, reading⟩ := exists_of_mem_findMatches advances_capture? inLine
    exact holdsDelimiter_iff (capture?_eq_some_iff.mp reading).2

/-- The capture of a directive whose text begins with the delimiter and holds the directive that
follows it. -/
def wideCapture : Capture where
  slot := "red".toList
  afterSlot := "%% %blue%b%%".toList
  text := "%% %blue%b".toList

theorem captured_text_takes_in_directive :
    ¬ ∀ text : Text, ∀ capture ∈ captures text, ¬ HoldsDelimiter capture.text := by
  intro minimal
  have isCaptured : wideCapture ∈ captures "%red%%% %blue%b%%".toList := by
    decide
  exact minimal _ wideCapture isCaptured ⟨[], " %blue%b".toList, rfl⟩

theorem captured_text_holds_delimiter_at_wideCapture :
    wideCapture ∈ captures "%red%%% %blue%b%%".toList ∧
      (HoldsDelimiter wideCapture.text ↔ ClosesTwice wideCapture.afterSlot) := by
  have isCaptured : wideCapture ∈ captures "%red%%% %blue%b%%".toList := by
    decide
  exact ⟨isCaptured, (captured_text_holds_delimiter_iff Palette.standard _).2.2 _ isCaptured⟩

end MarkdownDialect.ColoredText
