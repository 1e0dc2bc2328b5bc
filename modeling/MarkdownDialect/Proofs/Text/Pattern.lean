import MarkdownDialect.Proofs.Text.LineChange
import MarkdownDialect.Proofs.Text.Replacement
import MarkdownDialect.Text.Pattern

/-!
# Matching and replacing patterns

What a match reads stands at the front of the text. A pattern none of whose classes has the line
feed reads no line feed, and the ends of lines are the same to its anchors as the ends of texts. So
its matches are those of the lines.
-/

namespace MarkdownDialect.Pattern

open Text

variable {α β : Type}

/-! ## The ways to match -/

section Run

variable {next : Trace → Text → Option α} {trace : Trace} {text : Text}

theorem runMany_cons (inClass : Char → Bool) (c : Char) (rest : Text) :
    runMany inClass next trace (c :: rest) =
      if inClass c then
        (runMany inClass next (trace.push c) rest).or (next trace (c :: rest))
      else
        next trace (c :: rest) := by
  rw [runMany, Option.orElse_eq_orElse, Option.orElse_eq_or]

theorem runFew_cons (inClass : Char → Bool) (c : Char) (rest : Text) :
    runFew inClass next trace (c :: rest) =
      (next trace (c :: rest)).or
        (if inClass c then runFew inClass next (trace.push c) rest else none) := by
  rw [runFew, Option.orElse_eq_orElse, Option.orElse_eq_or]

@[simp]
theorem run_either (first second : Pattern) :
    (either first second).run next trace text =
      (first.run next trace text).or (second.run next trace text) := by
  simp only [run, Option.orElse_eq_orElse, Option.orElse_eq_or]

private theorem run_map (pattern : Pattern) (change : α → β) (trace : Trace) (text : Text) :
    pattern.run (fun inside rest => (next inside rest).map change) trace text =
      (pattern.run next trace text).map change := by
  induction pattern generalizing next trace text with
  | empty => rfl
  | char inClass =>
      cases text with
      | nil => rfl
      | cons c rest => simp only [run, apply_ite (Option.map change), Option.map_none]
  | lineStart => simp only [run, apply_ite (Option.map change), Option.map_none]
  | lineEnd => simp only [run, apply_ite (Option.map change), Option.map_none]
  | seq first second firstMaps secondMaps =>
      rw [run, run, ← firstMaps]
      congr 1
      funext inside rest
      exact secondMaps inside rest
  | either first second firstMaps secondMaps =>
      rw [run_either, run_either, firstMaps, secondMaps, Option.map_or]
  | many inClass =>
      rw [run, run]
      induction text generalizing trace with
      | nil => rfl
      | cons c rest inductionHypothesis =>
          simp only [runMany_cons, inductionHypothesis, apply_ite (Option.map change),
            Option.map_or]
  | few inClass =>
      rw [run, run]
      induction text generalizing trace with
      | nil => rfl
      | cons c rest inductionHypothesis =>
          simp only [runFew_cons, inductionHypothesis, apply_ite (Option.map change),
            Option.map_or, Option.map_none]
  | group number inner innerMaps => exact innerMaps trace.openGroup text

/-- A match ends at a place where it can go on, and what it has read until then stood at the front
of the text. -/
theorem exists_of_run {pattern : Pattern} {found : α}
    (matched : pattern.run next trace text = some found) :
    ∃ piece inside rest, text = piece ++ rest ∧ inside.read = piece.reverse ++ trace.read ∧
      next inside rest = some found := by
  induction pattern generalizing next trace text with
  | empty => exact ⟨[], trace, text, rfl, rfl, matched⟩
  | char inClass =>
      cases text with
      | nil => exact absurd matched (by simp [run])
      | cons c rest =>
          simp only [run, Option.ite_none_right_eq_some] at matched
          exact ⟨[c], trace.push c, rest, rfl, rfl, matched.2⟩
  | lineStart =>
      simp only [run, Option.ite_none_right_eq_some] at matched
      exact ⟨[], trace, text, rfl, rfl, matched.2⟩
  | lineEnd =>
      simp only [run, Option.ite_none_right_eq_some] at matched
      exact ⟨[], trace, text, rfl, rfl, matched.2⟩
  | seq first second firstExists secondExists =>
      obtain ⟨front, middle, _, rfl, reads, secondMatched⟩ := firstExists matched
      obtain ⟨back, inside, rest, rfl, readsMore, ends⟩ := secondExists secondMatched
      exact ⟨front ++ back, inside, rest, by simp, by simp [readsMore, reads], ends⟩
  | either first second firstExists secondExists =>
      rw [run_either, Option.or_eq_some_iff] at matched
      rcases matched with firstMatched | ⟨_, secondMatched⟩
      · exact firstExists firstMatched
      · exact secondExists secondMatched
  | many inClass =>
      rw [run] at matched
      induction text generalizing trace with
      | nil => exact ⟨[], trace, [], rfl, rfl, matched⟩
      | cons c rest inductionHypothesis =>
          rw [runMany_cons] at matched
          split at matched
          · rw [Option.or_eq_some_iff] at matched
            rcases matched with longer | ⟨_, ends⟩
            · obtain ⟨piece, inside, after, rfl, reads, ends⟩ := inductionHypothesis longer
              exact ⟨c :: piece, inside, after, rfl, by simp [reads, Trace.push], ends⟩
            · exact ⟨[], trace, c :: rest, rfl, rfl, ends⟩
          · exact ⟨[], trace, c :: rest, rfl, rfl, matched⟩
  | few inClass =>
      rw [run] at matched
      induction text generalizing trace with
      | nil => exact ⟨[], trace, [], rfl, rfl, matched⟩
      | cons c rest inductionHypothesis =>
          rw [runFew_cons, Option.or_eq_some_iff] at matched
          rcases matched with ends | ⟨_, longer⟩
          · exact ⟨[], trace, c :: rest, rfl, rfl, ends⟩
          · rw [Option.ite_none_right_eq_some] at longer
            obtain ⟨piece, inside, after, rfl, reads, ends⟩ := inductionHypothesis longer.2
            exact ⟨c :: piece, inside, after, rfl, by simp [reads, Trace.push], ends⟩
  | group number inner innerExists =>
      obtain ⟨piece, inside, rest, split, reads, ends⟩ := innerExists matched
      exact ⟨piece, trace.closeGroup inside number, rest, split,
        by simp [Trace.closeGroup, reads, Trace.openGroup], ends⟩

end Run

/-! ## Matches at the front of a text -/

/-- What a match at the front of a text captures, apart from the whole match, and what follows. -/
def front? (pattern : Pattern) (atLineStart : Bool) (text : Text) : Option (Captures × Text) :=
  pattern.run (fun trace rest => some (trace.captures, rest)) { atLineStart } text

/-- The captures of a match with the whole match, which ends where the rest of the text begins. -/
def withWhole (text : Text) (found : Captures × Text) : Captures :=
  (0, text.take (text.length - found.2.length)) :: found.1

@[simp]
theorem withWhole_append (piece : Text) (found : Captures × Text) :
    withWhole (piece ++ found.2) found = (0, piece) :: found.1 := by
  simp [withWhole]

section Front

variable {pattern : Pattern} {atLineStart : Bool} {text : Text}

theorem captures?_eq_map_front? (pattern : Pattern) (atLineStart : Bool) (text : Text) :
    pattern.captures? atLineStart text =
      (pattern.front? atLineStart text).map (withWhole text) := by
  have whole : pattern.captures? atLineStart text =
      (pattern.run (fun trace rest => some (trace, rest)) { atLineStart } text).map
        fun found => (0, found.1.read.reverse) :: found.1.captures := by
    rw [← run_map]
    simp [captures?, run, Trace.openGroup, Trace.closeGroup]
  have front : pattern.front? atLineStart text =
      (pattern.run (fun trace rest => some (trace, rest)) { atLineStart } text).map
        fun found => (found.1.captures, found.2) := by
    rw [← run_map]
    rfl
  rw [whole, front]
  cases matched : pattern.run (fun trace rest => some (trace, rest)) { atLineStart } text with
  | none => rfl
  | some found =>
      obtain ⟨piece, inside, rest, rfl, reads, equal⟩ := exists_of_run matched
      obtain rfl := Option.some.inj equal
      rw [Option.map_some, Option.map_some, Option.map_some]
      rw [withWhole_append piece (inside.captures, rest), reads]
      simp

@[simp]
theorem front?_lineStart (pattern : Pattern) (text : Text) :
    (seq lineStart pattern).front? true text = pattern.front? true text := rfl

private theorem suffix_of_front? {found : Captures × Text}
    (reading : pattern.front? atLineStart text = some found) : found.2 <:+ text := by
  obtain ⟨piece, inside, rest, rfl, _, equal⟩ := exists_of_run reading
  obtain rfl := Option.some.inj equal
  exact List.suffix_append piece rest

private theorem prefix_of_captures? {captures : Captures}
    (matched : pattern.captures? atLineStart text = some captures) :
    captures.text 0 <+: text := by
  rw [captures?_eq_map_front?, Option.map_eq_some_iff] at matched
  obtain ⟨found, _, rfl⟩ := matched
  exact List.take_prefix _ text

end Front

/-- What the matches in a text capture, from the left. -/
def allCaptures (pattern : Pattern) (text : Text) : List Captures :=
  (pattern.cut text).filterMap Sum.getRight?

/-! ## Patterns within a line -/

/-- Whether no class of a pattern has the line feed. -/
def isWithinLine : Pattern → Bool
  | empty | lineStart | lineEnd => true
  | char inClass | many inClass | few inClass => !inClass '\n'
  | seq first second | either first second => first.isWithinLine && second.isWithinLine
  | group _ inner => inner.isWithinLine

section WithinLine

/-- To a pattern within a line, the text ends at the line feed. -/
private theorem run_append_lineFeed {pattern : Pattern} (within : pattern.isWithinLine = true)
    {next nextUpper : Trace → Text → Option α} {lower : Text}
    (agree : ∀ trace upper, next trace (upper ++ '\n' :: lower) = nextUpper trace upper)
    (trace : Trace) (upper : Text) :
    pattern.run next trace (upper ++ '\n' :: lower) = pattern.run nextUpper trace upper := by
  induction pattern generalizing next nextUpper trace upper with
  | empty => exact agree trace upper
  | char inClass =>
      cases upper with
      | nil =>
          simp only [isWithinLine, Bool.not_eq_true'] at within
          simp [run, within]
      | cons c rest => simp only [run, List.cons_append, agree]
  | lineStart => simp only [run, agree]
  | lineEnd =>
      cases upper with
      | nil => simpa [run] using agree trace []
      | cons c rest => exact if_congr Iff.rfl (agree trace (c :: rest)) rfl
  | seq first second firstAgrees secondAgrees =>
      simp only [isWithinLine, Bool.and_eq_true] at within
      exact firstAgrees within.1 (fun middle rest => secondAgrees within.2 agree middle rest)
        trace upper
  | either first second firstAgrees secondAgrees =>
      simp only [isWithinLine, Bool.and_eq_true] at within
      rw [run_either, run_either, firstAgrees within.1 agree, secondAgrees within.2 agree]
  | many inClass =>
      simp only [isWithinLine, Bool.not_eq_true'] at within
      rw [run, run]
      induction upper generalizing trace with
      | nil =>
          have ends := agree trace []
          rw [List.nil_append] at ends ⊢
          rw [runMany_cons, within, if_neg (by decide), ends, runMany]
      | cons c rest inductionHypothesis =>
          have stops := agree trace (c :: rest)
          rw [List.cons_append] at stops ⊢
          rw [runMany_cons, runMany_cons, inductionHypothesis, stops]
  | few inClass =>
      simp only [isWithinLine, Bool.not_eq_true'] at within
      rw [run, run]
      induction upper generalizing trace with
      | nil =>
          have ends := agree trace []
          rw [List.nil_append] at ends ⊢
          rw [runFew_cons, within, if_neg (by decide), ends, runFew, Option.or_none]
      | cons c rest inductionHypothesis =>
          have stops := agree trace (c :: rest)
          rw [List.cons_append] at stops ⊢
          rw [runFew_cons, runFew_cons, inductionHypothesis, stops]
  | group number inner innerAgrees =>
      exact innerAgrees within (fun inside rest => agree (trace.closeGroup inside number) rest)
        trace.openGroup upper

variable {pattern : Pattern} (within : pattern.isWithinLine = true)
include within

private theorem captures?_append_lineFeed (atLineStart : Bool) (upper lower : Text) :
    pattern.captures? atLineStart (upper ++ '\n' :: lower) =
      pattern.captures? atLineStart upper :=
  @run_append_lineFeed _ (group 0 pattern) within _ _ lower (fun _ _ => rfl) { atLineStart } upper

private theorem cut_go_append_lineFeed (lower : Text) {skip : Nat} {upper : Text}
    (inUpper : skip ≤ upper.length) (atLineStart : Bool) :
    cut.go pattern atLineStart skip (upper ++ '\n' :: lower) =
      cut.go pattern atLineStart skip upper ++ .inl '\n' :: pattern.cut lower := by
  induction upper generalizing skip atLineStart with
  | nil =>
      rw [List.length_nil, Nat.le_zero] at inUpper
      subst inUpper
      have sameCaptures := captures?_append_lineFeed within atLineStart [] lower
      rw [List.nil_append] at sameCaptures
      simp only [List.nil_append, cut.go, sameCaptures]
      cases matched : pattern.captures? atLineStart [] with
      | none => rfl
      | some captures =>
          simp only [List.prefix_nil.mp (prefix_of_captures? matched)]
          rfl
  | cons c rest inductionHypothesis =>
      rw [List.cons_append]
      cases skip with
      | succ skip =>
          rw [cut.go, cut.go]
          exact inductionHypothesis (Nat.le_of_succ_le_succ inUpper) _
      | zero =>
          have sameCaptures := captures?_append_lineFeed within atLineStart (c :: rest) lower
          rw [List.cons_append] at sameCaptures
          rw [cut.go, cut.go, sameCaptures]
          cases matched : pattern.captures? atLineStart (c :: rest) with
          | none => exact congrArg _ (inductionHypothesis (Nat.zero_le _) _)
          | some captures =>
              have inText := (prefix_of_captures? matched).length_le
              cases whole : captures.text 0 with
              | nil =>
                  simp only [whole]
                  exact congrArg _ (inductionHypothesis (Nat.zero_le _) _)
              | cons d more =>
                  simp only [whole]
                  rw [whole, List.length_cons, List.length_cons] at inText
                  exact congrArg _ (inductionHypothesis (Nat.le_of_succ_le_succ inText) _)

/-- The matches on the two sides of a line feed are found on their own. -/
theorem cut_append_lineFeed (upper lower : Text) :
    pattern.cut (upper ++ '\n' :: lower) =
      pattern.cut upper ++ .inl '\n' :: pattern.cut lower :=
  cut_go_append_lineFeed within lower (Nat.zero_le _) true

private theorem allCaptures_append_lineFeed (upper lower : Text) :
    pattern.allCaptures (upper ++ '\n' :: lower) =
      pattern.allCaptures upper ++ pattern.allCaptures lower := by
  unfold allCaptures
  rw [cut_append_lineFeed within, List.filterMap_append]
  rfl

/-- The matches in a text are those in its lines. -/
theorem allCaptures_eq_flatMap_lines (text : Text) :
    pattern.allCaptures text = (lines text).flatMap pattern.allCaptures := by
  have onPieces : ∀ pieces : List Text, pieces ≠ [] →
      pattern.allCaptures (unlines pieces) = pieces.flatMap pattern.allCaptures := by
    intro pieces nonempty
    induction pieces with
    | nil => exact absurd rfl nonempty
    | cons line rest inductionHypothesis =>
        cases rest with
        | nil => simp
        | cons next others =>
            rw [unlines_cons (by simp), allCaptures_append_lineFeed within,
              inductionHypothesis (by simp), ← List.flatMap_cons]
  have whole := onPieces (lines text) (lines_ne_nil text)
  rwa [unlines_lines] at whole

theorem splitsAtLineFeeds_replaceAll (replacement : Captures → Text) :
    SplitsAtLineFeeds (pattern.replaceAll replacement) := by
  intro upper lower
  unfold replaceAll
  rw [cut_append_lineFeed within, List.flatMap_append, List.flatMap_cons]
  rfl

end WithinLine

/-! ## Patterns as readers -/

section Readers

variable {pattern : Pattern} {replacement : Captures → Text} {text : Text}

/-- A reader that finds at the front of every text what the pattern matches there cuts the text at
the same places. -/
theorem cut_of_front? {find : Text → Option (β × Text)} {item : Captures → β}
    (advances : Advances find)
    (agrees : ∀ atLineStart back, back <:+ text →
      (pattern.front? atLineStart back).map
        (fun found => (item (withWhole back found), found.2)) = find back) :
    Cut find ((pattern.cut text).map (Sum.map id item)) text := by
  have along : ∀ back, back <:+ text → ∀ atLineStart skip, skip ≤ back.length →
      Cut find ((cut.go pattern atLineStart skip back).map (Sum.map id item)) (back.drop skip) := by
    intro back suffix
    induction back with
    | nil =>
        intro atLineStart skip inText
        rw [List.drop_nil]
        cases skip <;> exact Cut.nil
    | cons c rest inductionHypothesis =>
        intro atLineStart skip inText
        have later := inductionHypothesis ((List.suffix_cons c rest).trans suffix) (c = '\n')
        cases skip with
        | succ skip => exact later skip (Nat.le_of_succ_le_succ inText)
        | zero =>
            have agree := agrees atLineStart (c :: rest) suffix
            rw [cut.go, captures?_eq_map_front?, List.drop_zero]
            cases reading : pattern.front? atLineStart (c :: rest) with
            | none =>
                rw [reading, Option.map_none] at agree
                exact Cut.pass agree.symm (later 0 (Nat.zero_le _))
            | some found =>
                rw [reading, Option.map_some] at agree
                obtain ⟨matched, nonempty, split⟩ := advances.split agree.symm
                obtain ⟨d, more, rfl⟩ := List.exists_cons_of_ne_nil nonempty
                have whole : (withWhole (c :: rest) found).text 0 = d :: more := by
                  rw [split, withWhole_append]
                  rfl
                have behind : rest = more ++ found.2 := (List.cons.inj split).2
                have inRest : more.length ≤ rest.length := by
                  rw [behind, List.length_append]
                  exact Nat.le_add_right _ _
                have following := later more.length inRest
                have after : rest.drop more.length = found.2 := by
                  rw [behind, List.drop_left]
                rw [after] at following
                simp only [Option.map_some, whole]
                exact Cut.found agree.symm following
  exact along text (List.suffix_refl text) true 0 (Nat.zero_le _)

/-- So the reader replaces the same matches. -/
theorem replaceAll_eq_replaceMatches {find : Text → Option (Text × Text)}
    (advances : Advances find)
    (agrees : ∀ atLineStart back, back <:+ text →
      (pattern.front? atLineStart back).map
        (fun found => (replacement (withWhole back found), found.2)) = find back) :
    pattern.replaceAll replacement text = replaceMatches find text := by
  have pieces :
      pieceText replacement = fun piece => pieceText id (Sum.map id replacement piece) := by
    funext piece
    cases piece <;> rfl
  have replaced := (cut_of_front? advances agrees).flatMap_eq_replaceMatches advances id
  rw [List.flatMap_map, ← pieces] at replaced
  simpa [replaceAll] using replaced

/-- Within lines it is enough that the reader finds the same in single lines. -/
theorem replaceAll_eq_onLines {find : Text → Option (Text × Text)}
    (within : pattern.isWithinLine = true) (advances : Advances find)
    (agrees : ∀ atLineStart text, '\n' ∉ text →
      (pattern.front? atLineStart text).map
        (fun found => (replacement (withWhole text found), found.2)) = find text) :
    pattern.replaceAll replacement = onLines (replaceMatches find) := by
  apply (splitsAtLineFeeds_replaceAll within replacement).eq_onLines_of_lines
  intro line single
  apply replaceAll_eq_replaceMatches advances
  intro atLineStart back suffix
  exact agrees atLineStart back fun member => single (suffix.subset member)

theorem map_allCaptures {find : Text → Option (β × Text)} {item : Captures → β}
    (advances : Advances find)
    (agrees : ∀ atLineStart back, back <:+ text →
      (pattern.front? atLineStart back).map
        (fun found => (item (withWhole back found), found.2)) = find back) :
    (pattern.allCaptures text).map item = findMatches find text := by
  have right : Sum.getRight? ∘ Sum.map id item =
      fun piece : Char ⊕ Captures => piece.getRight?.map item := by
    funext piece
    cases piece <;> rfl
  rw [← (cut_of_front? advances agrees).filterMap_eq_findMatches advances, List.filterMap_map,
    right, allCaptures, List.map_filterMap]

/-- In a line that has begun no pattern matches that asks for the start of a line. -/
private theorem cut_go_lineStart (skip : Nat) (single : '\n' ∉ text) :
    (cut.go (seq lineStart pattern) false skip text).flatMap (pieceText replacement) =
      text.drop skip := by
  induction text generalizing skip with
  | nil => cases skip <;> rfl
  | cons c rest inductionHypothesis =>
      replace single := List.ne_and_not_mem_of_not_mem_cons single
      have sameLine : decide (c = '\n') = false := decide_eq_false (Ne.symm single.1)
      cases skip with
      | succ skip =>
          rw [cut.go, sameLine]
          exact inductionHypothesis skip single.2
      | zero =>
          have missing : (seq lineStart pattern).captures? false (c :: rest) = none := rfl
          rw [cut.go, missing, sameLine]
          exact congrArg _ (inductionHypothesis 0 single.2)

/-- A pattern for the start of a line matches at most once in a line. -/
theorem replaceAll_of_lineStart {rest : Pattern} (anchored : pattern = seq lineStart rest)
    (single : '\n' ∉ text)
    (advances : ∀ found, pattern.front? true text = some found → found.2.length < text.length) :
    pattern.replaceAll replacement text =
      match pattern.front? true text with
      | some found => replacement (withWhole text found) ++ found.2
      | none => text := by
  subst anchored
  unfold replaceAll cut
  cases text with
  | nil =>
      cases reading : (seq lineStart rest).front? true [] with
      | none => rfl
      | some found => exact absurd (advances found reading) (Nat.not_lt_zero _)
  | cons c others =>
      replace single := List.ne_and_not_mem_of_not_mem_cons single
      have sameLine : decide (c = '\n') = false := decide_eq_false (Ne.symm single.1)
      rw [cut.go, captures?_eq_map_front?, sameLine]
      cases reading : (seq lineStart rest).front? true (c :: others) with
      | none => exact congrArg _ (cut_go_lineStart 0 single.2)
      | some found =>
          obtain ⟨matched, split⟩ := suffix_of_front? reading
          have shorter := advances found reading
          cases matched with
          | nil => simp [← split] at shorter
          | cons d more =>
              have whole : (withWhole (c :: others) found).text 0 = d :: more := by
                rw [← split, withWhole_append]
                rfl
              simp only [Option.map_some, whole, List.flatMap_cons]
              rw [cut_go_lineStart more.length single.2]
              rw [List.cons_append, List.cons.injEq] at split
              rw [← split.2, List.drop_left]
              rfl

end Readers

end MarkdownDialect.Pattern
