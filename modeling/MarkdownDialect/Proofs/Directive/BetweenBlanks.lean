import MarkdownDialect.Proofs.Text.PatternReading
import MarkdownDialect.Text.Space

/-!
# Texts between blanks

In coloured texts and in aligned lines a text stands between blanks and is as short as what closes
it allows. The blanks before it come first, and they give one back to the text only if it would be
empty otherwise.
-/

namespace MarkdownDialect.Text

variable {β : Type}

/-- The shortest non-empty beginning of a line after which the rest closes. -/
def shortestBefore? (closing? : Text → Option β) : Text → Option (Text × β)
  | [] => none
  | c :: rest =>
    if c = '\r' then
      none
    else
      match closing? rest with
      | some found => some ([c], found)
      | none => (shortestBefore? closing? rest).map fun (text, found) => (c :: text, found)

/-- What stands between blanks at the front of a line and the place where the line closes. Blanks
before it are skipped, except that the last of several blanks is the text when the rest closes at
once. -/
def textBefore? (closing? : Text → Option β) (line : Text) : Option (Text × β) :=
  let blanks := line.takeWhile isBlank
  let rest := line.dropWhile isBlank
  match shortestBefore? closing? rest, blanks.getLast? with
  | some found, _ => some found
  | none, some blank => (closing? rest).map fun found => ([blank], found)
  | none, none => none

variable {closing? : Text → Option β}

/-- What stands before the place where the line closes is not empty. -/
theorem shortestBefore?_sound {line text : Text} {found : β}
    (reading : shortestBefore? closing? line = some (text, found)) :
    ∃ back, line = text ++ back ∧ text ≠ [] ∧ '\r' ∉ text ∧ closing? back = some found := by
  induction line generalizing text with
  | nil => simp [shortestBefore?] at reading
  | cons c rest inductionHypothesis =>
      rw [shortestBefore?] at reading
      split at reading
      · simp at reading
      · next noReturn =>
          cases closes : closing? rest with
          | some item =>
              simp only [closes, Option.some.injEq, Prod.mk.injEq] at reading
              obtain ⟨rfl, rfl⟩ := reading
              exact ⟨rest, rfl, by simp, by simpa using Ne.symm noReturn, closes⟩
          | none =>
              simp only [closes, Option.map_eq_some_iff, Prod.mk.injEq] at reading
              obtain ⟨⟨shorter, item⟩, inRest, rfl, rfl⟩ := reading
              obtain ⟨back, rfl, _, noReturnBehind, closesBack⟩ := inductionHypothesis inRest
              refine ⟨back, rfl, by simp, ?_, closesBack⟩
              exact List.not_mem_cons_of_ne_of_not_mem (Ne.symm noReturn) noReturnBehind

/-- A text is read whole if the line closes nowhere within it. -/
theorem shortestBefore?_complete {text back : Text} {found : β} (nonempty : text ≠ [])
    (noReturn : '\r' ∉ text)
    (noneEarlier : ∀ front behind, text = front ++ behind → behind ≠ [] →
      closing? (behind ++ back) = none)
    (closes : closing? back = some found) :
    shortestBefore? closing? (text ++ back) = some (text, found) := by
  induction text with
  | nil => exact absurd rfl nonempty
  | cons c rest inductionHypothesis =>
      replace noReturn := List.ne_and_not_mem_of_not_mem_cons noReturn
      rw [List.cons_append, shortestBefore?, if_neg (Ne.symm noReturn.1)]
      by_cases empty : rest = []
      · subst empty
        rw [List.nil_append, closes]
      · have later := inductionHypothesis empty noReturn.2 fun front behind split =>
          noneEarlier (c :: front) behind (congrArg (c :: ·) split)
        rw [noneEarlier [c] rest rfl empty, later]
        rfl

theorem textBefore?_sound {line text : Text} {found : β}
    (reading : textBefore? closing? line = some (text, found)) :
    ∃ front back, line = front ++ back ∧ front ≠ [] ∧ '\r' ∉ front ∧
      closing? back = some found := by
  have split : line = line.takeWhile isBlank ++ line.dropWhile isBlank :=
    List.takeWhile_append_dropWhile.symm
  have noReturn : '\r' ∉ line.takeWhile isBlank :=
    fun member => absurd (List.mem_takeWhile_imp member) (by decide)
  simp only [textBefore?] at reading
  cases shortest : shortestBefore? closing? (line.dropWhile isBlank) with
  | some item =>
      obtain ⟨back, rest, nonempty, noReturnInText, closes⟩ := shortestBefore?_sound shortest
      simp only [shortest, Option.some.injEq] at reading
      subst reading
      rw [rest] at split
      refine ⟨line.takeWhile isBlank ++ text, back, by simpa using split, by simp [nonempty], ?_,
        closes⟩
      rw [List.mem_append, not_or]
      exact ⟨noReturn, noReturnInText⟩
  | none =>
      cases ends : (line.takeWhile isBlank).getLast? with
      | none => simp [shortest, ends] at reading
      | some blank =>
          simp only [shortest, ends, Option.map_eq_some_iff, Prod.mk.injEq] at reading
          obtain ⟨item, closes, _, rfl⟩ := reading
          refine ⟨_, _, split, ?_, noReturn, closes⟩
          intro empty
          rw [empty] at ends
          simp at ends

section Skipping

variable (skips : ∀ c rest, isBlank c = true → closing? (c :: rest) = closing? rest)
include skips

private theorem closing?_dropWhile (line : Text) :
    closing? (line.dropWhile isBlank) = closing? line := by
  induction line with
  | nil => rfl
  | cons c rest inductionHypothesis =>
      by_cases blank : isBlank c = true
      · rw [List.dropWhile_cons_of_pos blank, skips c rest blank, inductionHypothesis]
      · rw [List.dropWhile_cons_of_neg blank]

/-- Blanks bring in no place where the line closes. -/
theorem shortestBefore?_eq_none {line : Text} (noClosing : closing? line = none)
    (missing : shortestBefore? closing? (line.dropWhile isBlank) = none) :
    shortestBefore? closing? line = none := by
  induction line with
  | nil => rfl
  | cons c rest inductionHypothesis =>
      by_cases blank : isBlank c = true
      · rw [List.dropWhile_cons_of_pos blank] at missing
        rw [skips c rest blank] at noClosing
        rw [shortestBefore?, noClosing, inductionHypothesis noClosing missing]
        simp
      · rwa [List.dropWhile_cons_of_neg blank] at missing

/-- A first blank is the text, or begins it, if nothing is read without it. -/
private theorem textBefore?_cons_blank {c : Char} (blank : isBlank c = true) (rest : Text) :
    textBefore? closing? (c :: rest) =
      (textBefore? closing? rest).or (shortestBefore? closing? (c :: rest)) := by
  have noReturn : c ≠ '\r' := by
    rintro rfl
    exact absurd blank (by decide)
  simp only [textBefore?, List.takeWhile_cons_of_pos blank, List.dropWhile_cons_of_pos blank]
  cases shortest : shortestBefore? closing? (rest.dropWhile isBlank) with
  | some found => simp
  | none =>
      rw [closing?_dropWhile skips, shortestBefore?, if_neg noReturn]
      cases closes : closing? rest with
      | none =>
          have nothing := shortestBefore?_eq_none skips closes shortest
          cases ends : (rest.takeWhile isBlank).getLast? <;>
            simp [nothing, List.getLast?_cons, ends]
      | some found =>
          cases ends : (rest.takeWhile isBlank).getLast? with
          | some last => simp [List.getLast?_cons, ends]
          | none =>
              have noBlank : rest.takeWhile isBlank = [] := List.getLast?_eq_none_iff.mp ends
              simp [noBlank]

end Skipping

private theorem textBefore?_cons_visible {c : Char} (visible : isBlank c = false) (rest : Text) :
    textBefore? closing? (c :: rest) = shortestBefore? closing? (c :: rest) := by
  have noBlank : ¬ isBlank c = true := by simp [visible]
  simp only [textBefore?, List.takeWhile_cons_of_neg noBlank, List.dropWhile_cons_of_neg noBlank]
  cases shortestBefore? closing? (c :: rest) <;> rfl

end MarkdownDialect.Text

namespace MarkdownDialect.Pattern

open Text

variable {α β : Type} {close : Trace → Text → Option α} {closing? : Text → Option β}
  {result : Captures → β → α}
  (closes : ∀ trace rest, '\n' ∉ rest → close trace rest =
    (closing? rest).map (result trace.captures))
include closes

/-- Characters are added to a text until the line closes. -/
theorem runFew_of_closes (number : Nat) (outside trace : Trace) {line : Text}
    (single : '\n' ∉ line) :
    runFew isInLine (fun inside => close (outside.closeGroup inside number)) trace line =
      match closing? line with
      | some found => some (result ((number, trace.read.reverse) :: trace.captures) found)
      | none => (shortestBefore? closing? line).map fun (text, found) =>
          result ((number, trace.read.reverse ++ text) :: trace.captures) found := by
  induction line generalizing trace with
  | nil =>
      rw [runFew, closes _ _ single]
      cases closing? [] with
      | some found => simp
      | none => simp [shortestBefore?]
  | cons c rest inductionHypothesis =>
      rw [runFew_cons, closes _ _ single]
      cases closing? (c :: rest) with
      | some found => simp
      | none =>
          replace single := List.ne_and_not_mem_of_not_mem_cons single
          rw [Option.map_none, Option.none_or, shortestBefore?]
          by_cases isReturn : c = '\r'
          · simp [isReturn, isInLine]
          · have inLine : isInLine c = true := by simp [isInLine, isReturn, Ne.symm single.1]
            rw [if_pos inLine, if_neg isReturn, inductionHypothesis _ single.2]
            cases closing? rest with
            | some found => simp
            | none => simp [Option.map_map, Function.comp_def]

private theorem run_oneOrFew_of_closes (number : Nat) (trace : Trace) {line : Text}
    (single : '\n' ∉ line) :
    (group number (oneOrFew isInLine)).run close trace line =
      (shortestBefore? closing? line).map fun (text, found) =>
        result ((number, text) :: trace.captures) found := by
  cases line with
  | nil => rfl
  | cons c rest =>
      replace single := List.ne_and_not_mem_of_not_mem_cons single
      rw [shortestBefore?]
      by_cases isReturn : c = '\r'
      · simp [isReturn, run, oneOrFew, isInLine]
      · have inLine : isInLine c = true := by simp [isInLine, isReturn, Ne.symm single.1]
        simp only [run, oneOrFew, inLine, if_true, if_neg isReturn]
        rw [runFew_of_closes closes number trace _ single.2]
        cases closing? rest with
        | some found => simp
        | none => simp [Option.map_map, Function.comp_def]

/-- The text between blanks that a pattern captures. -/
theorem runMany_of_closes
    (skips : ∀ c rest, isBlank c = true → closing? (c :: rest) = closing? rest)
    (number : Nat) (trace : Trace) {line : Text} (single : '\n' ∉ line) :
    runMany isBlank ((group number (oneOrFew isInLine)).run close) trace line =
      (textBefore? closing? line).map fun (text, found) =>
        result ((number, text) :: trace.captures) found := by
  induction line generalizing trace with
  | nil => rfl
  | cons c rest inductionHypothesis =>
      have singleRest : '\n' ∉ rest := fun member => single (List.mem_cons_of_mem c member)
      rw [runMany_cons, run_oneOrFew_of_closes closes number trace single]
      by_cases blank : isBlank c = true
      · rw [if_pos blank, inductionHypothesis _ singleRest, textBefore?_cons_blank skips blank,
          Option.map_or]
        simp
      · rw [if_neg blank, textBefore?_cons_visible (by simpa using blank)]

end MarkdownDialect.Pattern
