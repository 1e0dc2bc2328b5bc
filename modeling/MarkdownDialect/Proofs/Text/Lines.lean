import MarkdownDialect.Proofs.Text.Occurrence
import Mathlib.Data.List.TakeWhile

/-!
# Lines

Cutting a text into its lines and joining lines to a text undo each other, and both respect the
cut of a text at a line feed. What works on every line on its own therefore works on the two
sides of a line feed on their own.
-/

namespace MarkdownDialect.Text

/-! ## Pieces between separators -/

theorem splitOn_eq_list_splitOn (separator : Char) (text : Text) :
    splitOn separator text = List.splitOn separator text := by
  induction text with
  | nil => rfl
  | cons c rest inductionHypothesis =>
      rw [splitOn, List.splitOn_cons_eq_if_modifyHead, inductionHypothesis]
      by_cases separates : c = separator
      · simp [separates]
      · have nonempty : List.splitOn separator rest ≠ [] :=
          List.splitOn_ne_nil separator rest
        cases pieces : List.splitOn separator rest with
        | nil => exact absurd pieces nonempty
        | cons piece others => simp [separates]

theorem splitOn_append_cons
    (separator : Char) (front back : Text) :
    splitOn separator (front ++ separator :: back) =
      splitOn separator front ++ splitOn separator back := by
  simp only [splitOn_eq_list_splitOn]
  exact List.splitOn_append_cons_self front back

theorem splitOn_ne_nil (separator : Char) (text : Text) :
    splitOn separator text ≠ [] := by
  rw [splitOn_eq_list_splitOn]
  exact List.splitOn_ne_nil separator text

theorem splitOn_of_not_mem {separator : Char} {text : Text}
    (absent : separator ∉ text) :
    splitOn separator text = [text] := by
  rw [splitOn_eq_list_splitOn]
  exact List.splitOn_eq_singleton absent

/-- The separator stands between the pieces and in none of them. -/
theorem not_mem_of_mem_splitOn {separator : Char} :
    ∀ {text piece : Text}, piece ∈ splitOn separator text → separator ∉ piece
  | [], piece, member => by
      have empty : piece = [] := by simpa [splitOn] using member
      simp [empty]
  | c :: rest, piece, member => by
      rw [splitOn] at member
      by_cases separates : c = separator
      · rw [if_pos separates] at member
        rcases List.mem_cons.mp member with rfl | inRest
        · exact List.not_mem_nil
        · exact not_mem_of_mem_splitOn inRest
      · rw [if_neg separates] at member
        cases pieces : splitOn separator rest with
        | nil => exact absurd pieces (splitOn_ne_nil separator rest)
        | cons first others =>
            have free : ∀ found ∈ first :: others, separator ∉ found := by
              intro found foundMember
              exact not_mem_of_mem_splitOn (pieces ▸ foundMember)
            rw [pieces] at member
            rcases List.mem_cons.mp member with rfl | inOthers
            · exact List.not_mem_cons_of_ne_of_not_mem (Ne.symm separates)
                (free first List.mem_cons_self)
            · exact free piece (List.mem_cons_of_mem first inOthers)

@[simp]
theorem joinWith_splitOn (separator : Char) (text : Text) :
    joinWith [separator] (splitOn separator text) = text := by
  rw [splitOn_eq_list_splitOn]
  exact List.intercalate_splitOn separator

theorem splitOn_joinWith {separator : Char} {pieces : List Text}
    (free : ∀ piece ∈ pieces, separator ∉ piece) (nonempty : pieces ≠ []) :
    splitOn separator (joinWith [separator] pieces) = pieces := by
  rw [splitOn_eq_list_splitOn]
  exact List.splitOn_intercalate separator free nonempty

theorem joinWith_cons_cons (separator first next : Text) (others : List Text) :
    joinWith separator (first :: next :: others) =
      first ++ (separator ++ joinWith separator (next :: others)) := by
  simp [joinWith, List.intercalate_cons_cons]

theorem joinWith_append {separator : Text} {upper lower : List Text}
    (upperNonempty : upper ≠ []) (lowerNonempty : lower ≠ []) :
    joinWith separator (upper ++ lower) =
      joinWith separator upper ++ (separator ++ joinWith separator lower) := by
  induction upper with
  | nil => exact absurd rfl upperNonempty
  | cons piece rest inductionHypothesis =>
      cases rest with
      | nil => simp [joinWith, List.intercalate_cons_of_ne_nil lowerNonempty]
      | cons next others =>
          rw [List.cons_append, List.cons_append, joinWith_cons_cons, ← List.cons_append,
            inductionHypothesis (by simp), joinWith_cons_cons]
          simp only [List.append_assoc]

theorem mem_joinWith_of_mem {c : Char} {separator piece : Text} {pieces : List Text}
    (pieceMember : piece ∈ pieces) (member : c ∈ piece) : c ∈ joinWith separator pieces := by
  induction pieces with
  | nil => exact absurd pieceMember List.not_mem_nil
  | cons first rest inductionHypothesis =>
      cases rest with
      | nil =>
          rw [List.mem_singleton] at pieceMember
          simpa [joinWith, pieceMember] using member
      | cons next others =>
          rw [joinWith_cons_cons]
          rcases List.mem_cons.mp pieceMember with rfl | inRest
          · exact List.mem_append_left _ member
          · exact List.mem_append_right _ (List.mem_append_right _ (inductionHypothesis inRest))

private theorem isInfix_joinWith {separator piece : Text} {pieces : List Text}
    (member : piece ∈ pieces) : piece <:+: joinWith separator pieces := by
  induction pieces with
  | nil => exact absurd member List.not_mem_nil
  | cons first rest inductionHypothesis =>
      cases rest with
      | nil =>
          rw [List.mem_singleton] at member
          simp [joinWith, member]
      | cons next others =>
          rw [joinWith_cons_cons]
          rcases List.mem_cons.mp member with rfl | inRest
          · exact (List.prefix_append _ _).isInfix
          · have inBack := (List.suffix_append separator (joinWith separator (next :: others)))
            exact (inductionHypothesis inRest).trans
              (inBack.trans (List.suffix_append first _)).isInfix

theorem not_mem_joinWith {c : Char} {separator : Text} {pieces : List Text}
    (noSeparator : c ∉ separator) (free : ∀ piece ∈ pieces, c ∉ piece) :
    c ∉ joinWith separator pieces := by
  induction pieces with
  | nil => simp [joinWith]
  | cons first rest inductionHypothesis =>
      have noFirst : c ∉ first := free first List.mem_cons_self
      cases rest with
      | nil => simpa [joinWith] using noFirst
      | cons next others =>
          rw [joinWith_cons_cons]
          have absentInRest := inductionHypothesis fun piece member =>
            free piece (List.mem_cons_of_mem first member)
          exact List.not_mem_append noFirst (List.not_mem_append noSeparator absentInRest)

/-- Every piece counts, and so does every separator between two pieces. -/
theorem count_joinWith (c : Char) (separator : Text) (pieces : List Text) :
    (joinWith separator pieces).count c =
      pieces.flatten.count c + (pieces.length - 1) * separator.count c := by
  induction pieces with
  | nil => simp [joinWith]
  | cons piece rest inductionHypothesis =>
      cases rest with
      | nil => simp [joinWith]
      | cons next others =>
          rw [joinWith_cons_cons, List.count_append, List.count_append, inductionHypothesis]
          simp only [List.flatten_cons, List.count_append, List.length_cons, Nat.add_sub_cancel]
          rw [Nat.add_mul]
          omega

/-- A piece holds only characters of the text. -/
theorem mem_of_mem_splitOn {c separator : Char} {text piece : Text}
    (pieceMember : piece ∈ splitOn separator text) (member : c ∈ piece) : c ∈ text := by
  rw [← joinWith_splitOn separator text]
  exact mem_joinWith_of_mem pieceMember member

/-! ## Lines -/

theorem lines_ne_nil (text : Text) : lines text ≠ [] :=
  splitOn_ne_nil '\n' text

@[simp]
theorem lines_append_lineFeed (upper lower : Text) :
    lines (upper ++ '\n' :: lower) = lines upper ++ lines lower :=
  splitOn_append_cons '\n' upper lower

theorem lineFeed_not_mem_of_mem_lines {text line : Text}
    (member : line ∈ lines text) : '\n' ∉ line :=
  not_mem_of_mem_splitOn member

@[simp]
theorem unlines_lines (text : Text) : unlines (lines text) = text :=
  joinWith_splitOn '\n' text

theorem isInfix_of_mem_lines {text line : Text} (member : line ∈ lines text) :
    line <:+: text := by
  have inJoined : line <:+: unlines (lines text) := isInfix_joinWith member
  rwa [unlines_lines] at inJoined

theorem lines_unlines {pieces : List Text}
    (free : ∀ piece ∈ pieces, '\n' ∉ piece) (nonempty : pieces ≠ []) :
    lines (unlines pieces) = pieces :=
  splitOn_joinWith free nonempty

theorem lines_of_not_mem {text : Text} (single : '\n' ∉ text) :
    lines text = [text] :=
  splitOn_of_not_mem single

@[simp]
theorem unlines_singleton (line : Text) : unlines [line] = line := by
  simp [unlines, joinWith]

theorem unlines_cons {line : Text} {rest : List Text} (nonempty : rest ≠ []) :
    unlines (line :: rest) = line ++ '\n' :: unlines rest := by
  simp [unlines, joinWith, List.intercalate_cons_of_ne_nil nonempty]

theorem unlines_append {upper lower : List Text}
    (upperNonempty : upper ≠ []) (lowerNonempty : lower ≠ []) :
    unlines (upper ++ lower) = unlines upper ++ '\n' :: unlines lower :=
  joinWith_append upperNonempty lowerNonempty

/-! ## Changing every line -/

theorem lines_onLines {changeLine : Text → Text} {text : Text}
    (keepsLine : ∀ line ∈ lines text, '\n' ∉ changeLine line) :
    lines (onLines changeLine text) = (lines text).map changeLine := by
  apply lines_unlines
  · simpa using keepsLine
  · simp [lines_ne_nil]

theorem onLines_of_not_mem (changeLine : Text → Text) {line : Text} (single : '\n' ∉ line) :
    onLines changeLine line = changeLine line := by
  unfold onLines
  rw [lines_of_not_mem single, List.map_singleton, unlines_singleton]

theorem onLines_eq_self {changeLine : Text → Text} {text : Text}
    (unchanged : ∀ line ∈ lines text, changeLine line = line) :
    onLines changeLine text = text := by
  unfold onLines
  rw [List.map_congr_left unchanged, List.map_id', unlines_lines]

/-! ## The carriage return at the end of a line -/

@[simp]
theorem stripReturn_append_return (body : Text) :
    stripReturn (body ++ ['\r']) = (body, true) := by
  have isEnd : ['\r'].isSuffixOf? (body ++ ['\r']) = some body :=
    isSuffixOf?_eq_some_iff.mpr rfl
  simp [stripReturn, isEnd]

theorem stripReturn_of_not_return {line : Text} (noReturn : ∀ body, line ≠ body ++ ['\r']) :
    stripReturn line = (line, false) := by
  have isNoEnd : ['\r'].isSuffixOf? line = none :=
    isSuffixOf?_eq_none_iff.mpr noReturn
  simp [stripReturn, isNoEnd]

/-- A line is its body with the carriage return that was taken off. -/
theorem stripReturn_cases (line : Text) :
    (∃ body, line = body ++ ['\r'] ∧ stripReturn line = (body, true)) ∨
      (∀ body, line ≠ body ++ ['\r']) ∧ stripReturn line = (line, false) := by
  by_cases ends : ∃ body, line = body ++ ['\r']
  · obtain ⟨body, rfl⟩ := ends
    exact Or.inl ⟨body, rfl, stripReturn_append_return body⟩
  · rw [not_exists] at ends
    exact Or.inr ⟨ends, stripReturn_of_not_return ends⟩

theorem stripReturn_split (line : Text) :
    line = (stripReturn line).1 ++ returnIf (stripReturn line).2 := by
  rcases stripReturn_cases line with ⟨body, rfl, stripped⟩ | ⟨_, stripped⟩
  · rw [stripped]
    rfl
  · rw [stripped]
    exact (List.append_nil line).symm

theorem ne_append_return_of_concat {body : Text} {last : Char} (different : last ≠ '\r') :
    ∀ front, body ++ [last] ≠ front ++ ['\r'] := by
  intro front equal
  exact different (List.cons.inj (List.append_inj' equal rfl).2).1

theorem stripReturn_append_returnIf {body : Text} (noReturn : ∀ front, body ≠ front ++ ['\r'])
    (hadReturn : Bool) :
    stripReturn (body ++ returnIf hadReturn) = (body, hadReturn) := by
  cases hadReturn
  · simpa [returnIf] using stripReturn_of_not_return noReturn
  · exact stripReturn_append_return body

@[simp]
theorem mem_returnIf {c : Char} {hadReturn : Bool} :
    c ∈ returnIf hadReturn ↔ hadReturn = true ∧ c = '\r' := by
  cases hadReturn <;> simp [returnIf]

theorem returnIf_eq (hadReturn : Bool) :
    returnIf hadReturn = [] ∨ returnIf hadReturn = ['\r'] := by
  cases hadReturn
  · exact Or.inl rfl
  · exact Or.inr rfl

/-! ## The first line -/

/-- The text before the first line feed. -/
def firstLine (text : Text) : Text :=
  text.takeWhile (· != '\n')

@[simp]
theorem firstLine_append_lineFeed (text rest : Text) :
    firstLine (text ++ '\n' :: rest) = firstLine text := by
  unfold firstLine
  rw [List.takeWhile_append]
  split
  · next whole =>
      have same : text.takeWhile (· != '\n') = text :=
        (List.takeWhile_prefix _).eq_of_length whole
      simp [same]
  · rfl

theorem firstLine_of_not_mem {line : Text} (single : '\n' ∉ line) :
    firstLine line = line := by
  unfold firstLine
  rw [List.takeWhile_eq_self_iff]
  intro c member
  simpa using fun equal : c = '\n' => single (equal ▸ member)

/-- The first line of a text is the first of its lines. -/
theorem lines_eq_firstLine_cons (text : Text) :
    ∃ rest, lines text = firstLine text :: rest := by
  cases pieces : lines text with
  | nil => exact absurd pieces (lines_ne_nil text)
  | cons line rest =>
      have single : '\n' ∉ line :=
        lineFeed_not_mem_of_mem_lines (pieces ▸ List.mem_cons_self)
      have joined : text = unlines (line :: rest) := by
        rw [← pieces, unlines_lines]
      refine ⟨rest, ?_⟩
      cases rest with
      | nil => rw [joined, unlines_singleton, firstLine_of_not_mem single]
      | cons next others =>
          rw [joined, unlines_cons (by simp), firstLine_append_lineFeed,
            firstLine_of_not_mem single]

theorem firstLine_onLines (changeLine : Text → Text) (text : Text) :
    firstLine (onLines changeLine text) = firstLine (changeLine (firstLine text)) := by
  obtain ⟨rest, pieces⟩ := lines_eq_firstLine_cons text
  unfold onLines
  rw [pieces, List.map_cons]
  cases rest with
  | nil => simp
  | cons next others =>
      rw [unlines_cons (by simp), firstLine_append_lineFeed]

end MarkdownDialect.Text
