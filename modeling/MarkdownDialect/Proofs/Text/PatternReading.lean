import MarkdownDialect.Proofs.Text.Pattern

/-!
# Reading the parts of patterns

What the parts of a pattern do with the text before them. A repetition is read to its end at once
where what comes after it cannot match any earlier.
-/

namespace MarkdownDialect.Pattern

open Text

variable {α : Type} {next : Trace → Text → Option α} {trace : Trace} {text : Text}

/-! ## Captures and traces -/

@[simp]
theorem Captures.text_cons_self (number : Nat) (text : Text) (others : Captures) :
    Captures.text ((number, text) :: others) number = text := by
  simp [Captures.text]

@[simp]
theorem Captures.text_cons_of_ne {number other : Nat} (different : number ≠ other) (text : Text)
    (others : Captures) :
    Captures.text ((other, text) :: others) number = Captures.text others number := by
  have noMatch : (number == other) = false := by simpa using different
  simp [Captures.text, List.lookup_cons, noMatch]

namespace Trace

def pushAll (trace : Trace) (piece : Text) : Trace :=
  piece.foldl push trace

@[simp]
theorem pushAll_nil (trace : Trace) : trace.pushAll [] = trace := rfl

@[simp]
theorem pushAll_cons (trace : Trace) (c : Char) (rest : Text) :
    trace.pushAll (c :: rest) = (trace.push c).pushAll rest := rfl

@[simp]
theorem read_pushAll (trace : Trace) (piece : Text) :
    (trace.pushAll piece).read = piece.reverse ++ trace.read := by
  induction piece generalizing trace with
  | nil => rfl
  | cons c rest inductionHypothesis => simp [inductionHypothesis, push]

@[simp]
theorem captures_pushAll (trace : Trace) (piece : Text) :
    (trace.pushAll piece).captures = trace.captures := by
  induction piece generalizing trace with
  | nil => rfl
  | cons c rest inductionHypothesis => exact inductionHypothesis (trace.push c)

@[simp]
theorem captures_push (trace : Trace) (c : Char) : (trace.push c).captures = trace.captures := rfl

@[simp]
theorem read_push (trace : Trace) (c : Char) : (trace.push c).read = c :: trace.read := rfl

@[simp]
theorem captures_openGroup (trace : Trace) : trace.openGroup.captures = trace.captures := rfl

@[simp]
theorem read_openGroup (trace : Trace) : trace.openGroup.read = [] := rfl

@[simp]
theorem captures_closeGroup (trace inside : Trace) (number : Nat) :
    (trace.closeGroup inside number).captures = (number, inside.read.reverse) :: inside.captures :=
  rfl

end Trace

/-! ## Sequences and single characters -/

@[simp]
theorem run_sequence_nil : (sequence []).run next = next := rfl

@[simp]
theorem run_sequence_cons (pattern : Pattern) (patterns : List Pattern) :
    (sequence (pattern :: patterns)).run next = pattern.run ((sequence patterns).run next) := rfl

@[simp]
theorem run_char_cons (inClass : Char → Bool) (c : Char) (rest : Text) :
    (char inClass).run next trace (c :: rest) =
      if inClass c then next (trace.push c) rest else none := rfl

@[simp]
theorem run_group (number : Nat) (inner : Pattern) :
    (group number inner).run next trace text =
      inner.run (fun inside => next (trace.closeGroup inside number)) trace.openGroup text := rfl

@[simp]
theorem run_literal (piece : Text) :
    (literal piece).run next trace text =
      (piece.isPrefixOf? text).bind (next (trace.pushAll piece)) := by
  induction piece generalizing trace text with
  | nil => rfl
  | cons c more inductionHypothesis =>
      cases text with
      | nil => rfl
      | cons d rest =>
          have step : (literal (c :: more)).run next trace (d :: rest) =
              if d = c then (literal more).run next (trace.push d) rest else none := by
            simp [literal, run]
          rw [step, inductionHypothesis]
          by_cases same : d = c
          · simp [same, List.isPrefixOf?]
          · simp [same, Ne.symm same, List.isPrefixOf?]

/-- A literal at the end of a pattern. -/
theorem run_literal_last (piece : Text) (trace : Trace) (text : Text) :
    (sequence [literal piece]).run (fun trace rest => some (trace.captures, rest)) trace text =
      (piece.isPrefixOf? text).map fun after => (trace.captures, after) := by
  rw [run_sequence_cons, run_literal]
  cases piece.isPrefixOf? text with
  | none => rfl
  | some after => simp

theorem run_exactly (count : Nat) (inClass : Char → Bool) :
    (exactly count inClass).run next trace text =
      if (text.take count).length = count ∧ (text.take count).all inClass then
        next (trace.pushAll (text.take count)) (text.drop count)
      else
        none := by
  induction count generalizing trace text with
  | zero => simp [exactly, List.replicate]
  | succ count inductionHypothesis =>
      cases text with
      | nil => simp [exactly, List.replicate, run]
      | cons c rest =>
          have step : (exactly (count + 1) inClass).run next trace (c :: rest) =
              if inClass c then (exactly count inClass).run next (trace.push c) rest else none := by
            simp [exactly, List.replicate, run]
          rw [step, inductionHypothesis]
          by_cases inside : inClass c = true
          · simp [inside]
          · simp [inside]

@[simp]
theorem run_optional (pattern : Pattern) :
    (optional pattern).run next trace text =
      (pattern.run next trace text).or (next trace text) := by
  rw [optional, run_either, run]

/-- Of the characters of a line the class leaves out the carriage return only. -/
theorem isInLine_of_mem {line : Text} (single : '\n' ∉ line) {c : Char} (member : c ∈ line) :
    isInLine c = (c != '\r') := by
  have noFeed : c ≠ '\n' := by
    rintro rfl
    exact single member
  simp [isInLine, noFeed]

/-! ## Repetitions -/

/-- Where nothing matches before a character of the class, all of them are read. -/
theorem runMany_of_stops {inClass : Char → Bool}
    (stops : ∀ trace c rest, inClass c = true → next trace (c :: rest) = none) :
    runMany inClass next trace text =
      next (trace.pushAll (text.takeWhile inClass)) (text.dropWhile inClass) := by
  induction text generalizing trace with
  | nil => rfl
  | cons c rest inductionHypothesis =>
      rw [runMany_cons]
      by_cases inside : inClass c = true
      · rw [if_pos inside, inductionHypothesis, stops trace c rest inside, Option.or_none]
        simp [inside]
      · rw [if_neg inside]
        simp [inside]

private theorem runFew_of_stops {inClass : Char → Bool}
    (stops : ∀ trace c rest, inClass c = true → next trace (c :: rest) = none) :
    runFew inClass next trace text =
      next (trace.pushAll (text.takeWhile inClass)) (text.dropWhile inClass) := by
  induction text generalizing trace with
  | nil => rfl
  | cons c rest inductionHypothesis =>
      rw [runFew_cons]
      by_cases inside : inClass c = true
      · rw [if_pos inside, inductionHypothesis, stops trace c rest inside, Option.none_or]
        simp [inside]
      · rw [if_neg inside, Option.or_none]
        simp [inside]

/-- Before what matches anywhere, as many characters as possible are read. -/
private theorem runMany_of_isSome {inClass : Char → Bool}
    (goesOn : ∀ trace rest, (next trace rest).isSome = true) :
    runMany inClass next trace text =
      next (trace.pushAll (text.takeWhile inClass)) (text.dropWhile inClass) := by
  induction text generalizing trace with
  | nil => rfl
  | cons c rest inductionHypothesis =>
      rw [runMany_cons]
      by_cases inside : inClass c = true
      · rw [if_pos inside, inductionHypothesis, Option.or_of_isSome (goesOn _ _)]
        simp [inside]
      · rw [if_neg inside]
        simp [inside]

/-- A character of a class and a repetition that reads all such characters behind it. -/
private theorem run_char_seq {inClass : Char → Bool} {repetition : Pattern}
    (readsAll : ∀ trace text, repetition.run next trace text =
      next (trace.pushAll (text.takeWhile inClass)) (text.dropWhile inClass)) :
    (seq (char inClass) repetition).run next trace text =
      if text.takeWhile inClass = [] then
        none
      else
        next (trace.pushAll (text.takeWhile inClass)) (text.dropWhile inClass) := by
  cases text with
  | nil => rfl
  | cons c rest =>
      rw [run, run_char_cons]
      by_cases inside : inClass c = true
      · simp [inside, readsAll]
      · simp [inside]

theorem run_oneOrMany_of_stops {inClass : Char → Bool}
    (stops : ∀ trace c rest, inClass c = true → next trace (c :: rest) = none) :
    (oneOrMany inClass).run next trace text =
      if text.takeWhile inClass = [] then
        none
      else
        next (trace.pushAll (text.takeWhile inClass)) (text.dropWhile inClass) :=
  run_char_seq fun _ _ => runMany_of_stops stops

theorem run_oneOrFew_of_stops {inClass : Char → Bool}
    (stops : ∀ trace c rest, inClass c = true → next trace (c :: rest) = none) :
    (oneOrFew inClass).run next trace text =
      if text.takeWhile inClass = [] then
        none
      else
        next (trace.pushAll (text.takeWhile inClass)) (text.dropWhile inClass) :=
  run_char_seq fun _ _ => runFew_of_stops stops

theorem run_oneOrMany_of_isSome {inClass : Char → Bool}
    (goesOn : ∀ trace rest, (next trace rest).isSome = true) :
    (oneOrMany inClass).run next trace text =
      if text.takeWhile inClass = [] then
        none
      else
        next (trace.pushAll (text.takeWhile inClass)) (text.dropWhile inClass) :=
  run_char_seq fun _ _ => runMany_of_isSome goesOn

end MarkdownDialect.Pattern
