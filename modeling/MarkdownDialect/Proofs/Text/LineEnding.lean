import MarkdownDialect.Proofs.Text.Escape
import MarkdownDialect.Proofs.Text.LineChange

/-!
# Line endings with a carriage return

A text is written with carriage returns when one stands before every line feed. The last line has
no ending; there a carriage return is a stray one.
-/

namespace MarkdownDialect.Text

/-- A text with a carriage return before every line feed. -/
def withReturns (text : Text) : Text :=
  replaceAll ['\n'] ['\r', '\n'] text

/-- A carriage return that no line feed follows. -/
def HasStrayReturn (text : Text) : Prop :=
  ∃ front back, text = front ++ '\r' :: back ∧ back.head? ≠ some '\n'

/-! ## Lines with a carriage return -/

/-- The lines with a carriage return at the end of each but the last, which has one only if asked
for. -/
def endWithReturns (final : Bool) : List Text → List Text
  | [] => []
  | [last] => [last ++ returnIf final]
  | line :: next :: rest => (line ++ ['\r']) :: endWithReturns final (next :: rest)

@[simp]
theorem endWithReturns_false_singleton (line : Text) : endWithReturns false [line] = [line] :=
  congrArg List.singleton (List.append_nil line)

theorem endWithReturns_cons (final : Bool) (line : Text) {rest : List Text} (more : rest ≠ []) :
    endWithReturns final (line :: rest) = (line ++ ['\r']) :: endWithReturns final rest := by
  cases rest with
  | nil => exact absurd rfl more
  | cons next others => rfl

theorem endWithReturns_ne_nil (final : Bool) {pieces : List Text} (nonempty : pieces ≠ []) :
    endWithReturns final pieces ≠ [] := by
  fun_cases endWithReturns final pieces with
  | case1 => exact nonempty
  | case2 last => exact List.cons_ne_nil _ _
  | case3 line next rest => exact List.cons_ne_nil _ _

theorem withReturns_eq_flatMap (text : Text) :
    withReturns text = text.flatMap fun c => if c = '\n' then ['\r', '\n'] else [c] :=
  replaceAll_singleton '\n' ['\r', '\n'] text

@[simp]
theorem withReturns_append (first second : Text) :
    withReturns (first ++ second) = withReturns first ++ withReturns second := by
  simp only [withReturns_eq_flatMap, List.flatMap_append]

private theorem withReturns_of_not_mem {line : Text} (single : '\n' ∉ line) :
    withReturns line = line := by
  induction line with
  | nil => rfl
  | cons c rest inductionHypothesis =>
      rw [List.mem_cons, not_or] at single
      rw [withReturns_eq_flatMap, List.flatMap_cons, ← withReturns_eq_flatMap,
        inductionHypothesis single.2, if_neg (Ne.symm single.1), List.singleton_append]

private theorem withReturns_append_lineFeed (upper lower : Text) :
    withReturns (upper ++ '\n' :: lower) =
      withReturns upper ++ '\r' :: '\n' :: withReturns lower := by
  have lineFeed : withReturns ['\n'] = ['\r', '\n'] := rfl
  rw [← List.singleton_append, withReturns_append, withReturns_append, lineFeed]
  rfl

theorem unlines_endWithReturns (final : Bool) {pieces : List Text} (nonempty : pieces ≠ [])
    (single : ∀ piece ∈ pieces, '\n' ∉ piece) :
    unlines (endWithReturns final pieces) = withReturns (unlines pieces) ++ returnIf final := by
  fun_induction endWithReturns final pieces with
  | case1 => exact absurd rfl nonempty
  | case2 last =>
      rw [unlines_singleton, unlines_singleton,
        withReturns_of_not_mem (single last List.mem_cons_self)]
  | case3 line next rest inductionHypothesis =>
      obtain ⟨singleLine, singleRest⟩ := List.forall_mem_cons.mp single
      have more : next :: rest ≠ [] := List.cons_ne_nil next rest
      rw [unlines_cons (endWithReturns_ne_nil final more), inductionHypothesis more singleRest,
        unlines_cons more, withReturns_append_lineFeed, withReturns_of_not_mem singleLine,
        List.append_assoc, List.append_assoc]
      rfl

private theorem lineFeed_not_mem_endWithReturns (final : Bool) {pieces : List Text}
    (single : ∀ piece ∈ pieces, '\n' ∉ piece) :
    ∀ piece ∈ endWithReturns final pieces, '\n' ∉ piece := by
  fun_induction endWithReturns final pieces with
  | case1 => exact single
  | case2 last =>
      rw [List.forall_mem_singleton] at single ⊢
      simp [single]
  | case3 line next rest inductionHypothesis =>
      obtain ⟨singleLine, singleRest⟩ := List.forall_mem_cons.mp single
      have singleEnded : '\n' ∉ line ++ ['\r'] := by
        simpa using singleLine
      exact List.forall_mem_cons.mpr ⟨singleEnded, inductionHypothesis singleRest⟩

/-- Writing a text with carriage returns puts them at the ends of its lines. -/
theorem lines_withReturns (final : Bool) (text : Text) :
    lines (withReturns text ++ returnIf final) = endWithReturns final (lines text) := by
  have single : ∀ piece ∈ lines text, '\n' ∉ piece := fun _ => lineFeed_not_mem_of_mem_lines
  have joined := unlines_endWithReturns final (lines_ne_nil text) single
  rw [unlines_lines] at joined
  rw [← joined]
  exact lines_unlines (lineFeed_not_mem_endWithReturns final single)
    (endWithReturns_ne_nil final (lines_ne_nil text))

/-! ## Stray carriage returns -/

theorem hasStrayReturn_append_return (text : Text) : HasStrayReturn (text ++ ['\r']) :=
  ⟨text, [], rfl, by simp⟩

theorem hasStrayReturn_cons {c : Char} {rest : Text} (isStray : HasStrayReturn (c :: rest)) :
    c = '\r' ∧ rest.head? ≠ some '\n' ∨ HasStrayReturn rest := by
  obtain ⟨front, back, split, noLineFeed⟩ := isStray
  cases front with
  | nil =>
      obtain ⟨isReturn, sameRest⟩ := List.cons.inj split
      rw [sameRest]
      exact Or.inl ⟨isReturn, noLineFeed⟩
  | cons d others =>
      obtain ⟨_, sameRest⟩ := List.cons.inj split
      exact Or.inr ⟨others, back, sameRest, noLineFeed⟩

theorem not_hasStrayReturn_withReturns {text : Text} (noReturn : '\r' ∉ text) :
    ¬ HasStrayReturn (withReturns text) := by
  induction text with
  | nil => exact fun ⟨front, back, split, _⟩ => absurd split (by simp [withReturns_eq_flatMap])
  | cons c rest inductionHypothesis =>
      rw [List.mem_cons, not_or] at noReturn
      intro isStray
      rw [withReturns_eq_flatMap, List.flatMap_cons, ← withReturns_eq_flatMap] at isStray
      apply inductionHypothesis noReturn.2
      by_cases isLineFeed : c = '\n'
      · rw [if_pos isLineFeed] at isStray
        have behindReturn := (hasStrayReturn_cons isStray).resolve_left fun ⟨_, noLineFeed⟩ =>
          noLineFeed rfl
        exact (hasStrayReturn_cons behindReturn).resolve_left fun ⟨isReturn, _⟩ =>
          absurd isReturn (by decide)
      · rw [if_neg isLineFeed] at isStray
        exact (hasStrayReturn_cons isStray).resolve_left fun ⟨isReturn, _⟩ =>
          noReturn.1 isReturn.symm

/-! ## Changes that leave the endings alone -/

/-- A change of lines that brings in no line ending and keeps the one of its line. -/
structure KeepsEndings (changeLine : Text → Text) : Prop where
  staysInLine : StaysInLine changeLine
  keepsOutReturn : KeepsOut '\r' changeLine
  append_return : ∀ line, '\r' ∉ line → changeLine (line ++ ['\r']) = changeLine line ++ ['\r']

theorem return_not_mem_of_mem_lines {text line : Text} (noReturn : '\r' ∉ text)
    (member : line ∈ lines text) : '\r' ∉ line :=
  fun inLine => noReturn (mem_of_mem_splitOn member inLine)

theorem return_not_mem_unlines {pieces : List Text} (noReturn : ∀ piece ∈ pieces, '\r' ∉ piece) :
    '\r' ∉ unlines pieces :=
  not_mem_joinWith (by decide) noReturn

section

variable {changeLine : Text → Text} (keeps : KeepsEndings changeLine)
include keeps

private theorem KeepsEndings.map_endWithReturns (final : Bool) {pieces : List Text}
    (noReturn : ∀ piece ∈ pieces, '\r' ∉ piece) :
    (endWithReturns final pieces).map changeLine =
      endWithReturns final (pieces.map changeLine) := by
  fun_induction endWithReturns final pieces with
  | case1 => rfl
  | case2 last =>
      have noReturnInLast := noReturn last List.mem_cons_self
      cases final with
      | false => simp [returnIf]
      | true => simp [endWithReturns, returnIf, keeps.append_return last noReturnInLast]
  | case3 line next rest inductionHypothesis =>
      obtain ⟨noReturnInLine, noReturnInRest⟩ := List.forall_mem_cons.mp noReturn
      rw [List.map_cons, keeps.append_return line noReturnInLine,
        inductionHypothesis noReturnInRest]
      rfl

private theorem KeepsEndings.onLines_withReturns (final : Bool) {text : Text}
    (noReturn : '\r' ∉ text) :
    onLines changeLine (withReturns text ++ returnIf final) =
      withReturns (onLines changeLine text) ++ returnIf final := by
  have noReturnInLines : ∀ line ∈ lines text, '\r' ∉ line :=
    fun _ => return_not_mem_of_mem_lines noReturn
  have nonempty : (lines text).map changeLine ≠ [] := by
    simpa using lines_ne_nil text
  have single : ∀ line ∈ (lines text).map changeLine, '\n' ∉ line := by
    rw [← keeps.staysInLine.lines_onLines]
    exact fun _ => lineFeed_not_mem_of_mem_lines
  unfold onLines
  rw [lines_withReturns, keeps.map_endWithReturns final noReturnInLines,
    unlines_endWithReturns final nonempty single]

end

/-- A change of texts that is the same for either line ending. -/
structure KeepsLineEndings (change : Text → Text) : Prop where
  keepsOutReturn : KeepsOut '\r' change
  withReturns : ∀ final text, '\r' ∉ text →
    change (Text.withReturns text ++ returnIf final) =
      Text.withReturns (change text) ++ returnIf final

theorem KeepsEndings.keepsLineEndings {changeLine : Text → Text}
    (keeps : KeepsEndings changeLine) : KeepsLineEndings (onLines changeLine) where
  keepsOutReturn text noReturn := by
    apply return_not_mem_unlines
    rw [List.forall_mem_map]
    intro line member
    exact keeps.keepsOutReturn line (return_not_mem_of_mem_lines noReturn member)
  withReturns final _ := keeps.onLines_withReturns final

theorem KeepsLineEndings.comp {first second : Text → Text} (secondKeeps : KeepsLineEndings second)
    (firstKeeps : KeepsLineEndings first) :
    KeepsLineEndings fun text => second (first text) where
  keepsOutReturn text noReturn :=
    secondKeeps.keepsOutReturn _ (firstKeeps.keepsOutReturn text noReturn)
  withReturns final text noReturn := by
    rw [firstKeeps.withReturns final text noReturn,
      secondKeeps.withReturns final _ (firstKeeps.keepsOutReturn text noReturn)]

/-! ## Reading up to a carriage return -/

section

variable {inClass : Char → Bool} (outside : inClass '\r' = false)
include outside

theorem takeWhile_append_return (text : Text) :
    (text ++ ['\r']).takeWhile inClass = text.takeWhile inClass := by
  induction text with
  | nil => exact List.takeWhile_cons_of_neg (by simp [outside])
  | cons c rest inductionHypothesis =>
      rw [List.cons_append, List.takeWhile_cons, List.takeWhile_cons, inductionHypothesis]

theorem dropWhile_append_return (text : Text) :
    (text ++ ['\r']).dropWhile inClass = text.dropWhile inClass ++ ['\r'] := by
  induction text with
  | nil => exact List.dropWhile_cons_of_neg (by simp [outside])
  | cons c rest inductionHypothesis =>
      rw [List.cons_append, List.dropWhile_cons, List.dropWhile_cons, inductionHypothesis]
      split
      · rfl
      · rfl

end

/-- A match with the carriage return at the end of the text behind it. -/
def beforeReturn {α : Type} (found : α × Text) : α × Text :=
  (found.1, found.2 ++ ['\r'])

theorem isPrefixOf?_append_return {needle : Text} (absent : '\r' ∉ needle) (text : Text) :
    needle.isPrefixOf? (text ++ ['\r']) =
      (needle.isPrefixOf? text).map fun after => after ++ ['\r'] :=
  isPrefixOf?_append_cons [] text absent

theorem breakOn_append_return {needle : Text} (nonempty : needle ≠ []) (absent : '\r' ∉ needle)
    (text : Text) : breakOn needle (text ++ ['\r']) = (breakOn needle text).map beforeReturn := by
  induction text with
  | nil =>
      have noFront : needle.isPrefixOf? [] = none :=
        isPrefixOf?_eq_none_iff.mpr fun after split =>
          nonempty (List.append_eq_nil_iff.mp split.symm).1
      have atFront := isPrefixOf?_append_return absent []
      rw [noFront] at atFront
      simp only [List.nil_append, Option.map_none] at atFront ⊢
      simp [breakOn, atFront, nonempty]
  | cons c rest inductionHypothesis =>
      have atFront := isPrefixOf?_append_return absent (c :: rest)
      rw [List.cons_append] at atFront ⊢
      rw [breakOn, breakOn, atFront, inductionHypothesis]
      cases needle.isPrefixOf? (c :: rest) with
      | some after => rfl
      | none =>
          cases breakOn needle rest with
          | some found => rfl
          | none => rfl

/-- Whether a match is found does not depend on a carriage return at the end. -/
def StopsAtReturn {α : Type} (find : Text → Option (α × Text)) : Prop :=
  ∀ text, find (text ++ ['\r']) = (find text).map beforeReturn

/-- What is read is told by a piece at the front that holds no carriage return. -/
theorem stopsAtReturn_of_pieces {α : Type} {find : Text → Option (α × Text)}
    (Spells : α → Text → Prop)
    (reads : ∀ {text found after}, find text = some (found, after) ↔
      ∃ piece, Spells found piece ∧ text = piece ++ after)
    (noReturn : ∀ {found piece}, Spells found piece → '\r' ∉ piece) : StopsAtReturn find := by
  intro text
  cases reading : find text with
  | some result =>
      obtain ⟨found, after⟩ := result
      obtain ⟨piece, spells, rfl⟩ := reads.mp reading
      exact reads.mpr ⟨piece, spells, List.append_assoc piece after ['\r']⟩
  | none =>
      rw [Option.map_none, Option.eq_none_iff_forall_ne_some]
      intro ⟨found, after⟩ other
      obtain ⟨piece, spells, split⟩ := reads.mp other
      have notWithin : ∀ rest, text ≠ piece ++ rest := by
        intro rest within
        rw [reads.mpr ⟨piece, spells, within⟩] at reading
        contradiction
      cases List.append_eq_append_iff.mp split with
      | inl shorter =>
          obtain ⟨back, isPiece, ends⟩ := shorter
          cases back with
          | nil => exact notWithin [] (by rw [isPiece, List.append_nil, List.append_nil])
          | cons c others =>
              have isReturn : '\r' = c := (List.cons.inj ends).1
              exact noReturn spells (by simp [isPiece, ← isReturn])
      | inr longer =>
          obtain ⟨back, within, _⟩ := longer
          exact notWithin back within

theorem replaceMatches_append_return {find : Text → Option (Text × Text)}
    (advances : Advances find) (stops : StopsAtReturn find) (text : Text) :
    replaceMatches find (text ++ ['\r']) = replaceMatches find text ++ ['\r'] := by
  have noMatch : find ['\r'] = none := by
    have atEnd := stops []
    rw [advances.find_nil] at atEnd
    exact atEnd
  exact replaceMatches_append_cons advances noMatch (fun front _ => stops front) text

end MarkdownDialect.Text
