import MarkdownDialect.Proofs.Text.Occurrence
import Mathlib.Data.List.TakeWhile

/-!
# Leftmost matches

How the leftmost matches of a reader are replaced: a character at which no match begins stays, and
after a match the text that follows it is read. A reader is any function that gives, at the front
of a text, what it finds and the text that follows; it has to take at least one character.
-/

namespace MarkdownDialect.Text

/-! ## Reading on after a match -/

/-- A match takes at least one character, and what follows it is the rest of the text. -/
def Advances {α : Type} (find : Text → Option (α × Text)) : Prop :=
  ∀ (text : Text) (found : α) (after : Text),
    find text = some (found, after) → ∃ matched, matched ≠ [] ∧ text = matched ++ after

section Matches

variable {α : Type} {find : Text → Option (α × Text)}

theorem Advances.split (advances : Advances find) {text : Text} {found : α} {after : Text}
    (reading : find text = some (found, after)) :
    ∃ matched, matched ≠ [] ∧ text = matched ++ after :=
  advances text found after reading

/-- Every text is empty, or no match begins at its first character and the rest is read, or a
match is found and what follows it is read. -/
@[elab_as_elim]
theorem match_induction (advances : Advances find) {motive : Text → Prop}
    (nil : motive [])
    (pass : ∀ c rest, find (c :: rest) = none → motive rest → motive (c :: rest))
    (found : ∀ text item after,
      find text = some (item, after) → motive after → motive text)
    (text : Text) : motive text := by
  induction size : text.length using Nat.strong_induction_on generalizing text with
  | _ size inductionHypothesis =>
      cases text with
      | nil => exact nil
      | cons c rest =>
          cases reading : find (c :: rest) with
          | none =>
              apply pass c rest reading
              exact inductionHypothesis rest.length (by simp [← size]) rest rfl
          | some result =>
              obtain ⟨item, after⟩ := result
              obtain ⟨matched, nonempty, split⟩ := advances.split reading
              apply found (c :: rest) item after reading
              apply inductionHypothesis after.length _ after rfl
              have positive : 0 < matched.length := List.length_pos_iff.mpr nonempty
              rw [← size, split, List.length_append]
              omega

private theorem findMatches_go_eq (skip : Nat) (text : Text) :
    findMatches.go find skip text = findMatches.go find 0 (text.drop skip) := by
  induction text generalizing skip with
  | nil => cases skip <;> simp [findMatches.go]
  | cons c rest inductionHypothesis =>
      cases skip with
      | zero => rfl
      | succ skip => simpa [findMatches.go] using inductionHypothesis skip

@[simp]
theorem findMatches_nil : findMatches find [] = [] := rfl

theorem findMatches_of_none {c : Char} {rest : Text}
    (missing : find (c :: rest) = none) :
    findMatches find (c :: rest) = findMatches find rest := by
  simp [findMatches, findMatches.go, missing]

theorem findMatches_of_some (advances : Advances find)
    {text : Text} {item : α} {after : Text} (reading : find text = some (item, after)) :
    findMatches find text = item :: findMatches find after := by
  obtain ⟨matched, nonempty, split⟩ := advances.split reading
  cases matched with
  | nil => exact absurd rfl nonempty
  | cons c more =>
      subst split
      rw [List.cons_append] at reading ⊢
      simp only [findMatches, findMatches.go, reading]
      rw [findMatches_go_eq]
      simp

theorem exists_of_mem_findMatches (advances : Advances find) {item : α} {text : Text}
    (member : item ∈ findMatches find text) :
    ∃ back after, back <:+ text ∧ find back = some (item, after) := by
  induction text using match_induction advances with
  | nil => simp at member
  | pass c rest missing inductionHypothesis =>
      rw [findMatches_of_none missing] at member
      obtain ⟨back, after, suffix, reading⟩ := inductionHypothesis member
      exact ⟨back, after, suffix.trans (List.suffix_cons c rest), reading⟩
  | found text first after reading inductionHypothesis =>
      rw [findMatches_of_some advances reading] at member
      rcases List.mem_cons.mp member with rfl | inRest
      · exact ⟨text, after, List.suffix_refl text, reading⟩
      · obtain ⟨back, following, suffix, later⟩ := inductionHypothesis inRest
        obtain ⟨matched, _, rfl⟩ := advances.split reading
        exact ⟨back, following, suffix.trans (List.suffix_append matched after), later⟩

theorem Advances.map {β : Type} (advances : Advances find) (change : α → β) :
    Advances fun rest => (find rest).map fun (item, after) => (change item, after) := by
  intro text item after reading
  obtain ⟨⟨original, following⟩, found, same⟩ := Option.map_eq_some_iff.mp reading
  cases same
  exact advances.split found

theorem findMatches_map (advances : Advances find) {β : Type} (change : α → β) (text : Text) :
    findMatches (fun rest => (find rest).map fun (item, after) => (change item, after)) text =
      (findMatches find text).map change := by
  induction text using match_induction advances with
  | nil => rfl
  | pass c rest missing inductionHypothesis =>
      rw [findMatches_of_none missing, ← inductionHypothesis, findMatches_of_none]
      rw [missing, Option.map_none]
  | found text item after reading inductionHypothesis =>
      rw [findMatches_of_some advances reading, List.map_cons, ← inductionHypothesis]
      apply findMatches_of_some (advances.map change)
      rw [reading, Option.map_some]

/-! ## Pieces without matches -/

/-- No match begins in an inert piece, whatever comes after it. -/
def Inert (find : Text → Option (α × Text)) (piece : Text) : Prop :=
  ∀ back, back <:+ piece → back ≠ [] → ∀ rest, find (back ++ rest) = none

theorem Inert.append {first second : Text} (firstInert : Inert find first)
    (secondInert : Inert find second) : Inert find (first ++ second) := by
  intro back ⟨before, split⟩ nonempty rest
  rcases List.append_eq_append_iff.mp split with ⟨front, firstSplit, rfl⟩ | ⟨middle, _, inSecond⟩
  · cases front with
    | nil => exact secondInert second (List.suffix_refl second) nonempty rest
    | cons c others =>
        rw [List.append_assoc]
        exact firstInert (c :: others) ⟨before, firstSplit.symm⟩ (by simp) (second ++ rest)
  · exact secondInert back ⟨middle, inSecond.symm⟩ nonempty rest

/-- If every match begins with one character, a piece without it is inert. -/
theorem inert_of_not_mem {trigger : Char}
    (missing : ∀ c rest, c ≠ trigger → find (c :: rest) = none) {piece : Text}
    (absent : trigger ∉ piece) : Inert find piece := by
  intro back suffix nonempty rest
  cases back with
  | nil => exact absurd rfl nonempty
  | cons c others =>
      apply missing
      rintro rfl
      exact absent (suffix.subset List.mem_cons_self)

/-- No match is found in a piece in which none begins, with the given text after it. -/
theorem findMatches_append {piece rest : Text}
    (missing : ∀ back, back <:+ piece → back ≠ [] → find (back ++ rest) = none) :
    findMatches find (piece ++ rest) = findMatches find rest := by
  induction piece with
  | nil => rfl
  | cons c others inductionHypothesis =>
      have atFront : find (c :: (others ++ rest)) = none :=
        missing (c :: others) (List.suffix_refl _) (by simp)
      rw [List.cons_append, findMatches_of_none atFront]
      apply inductionHypothesis
      intro back suffix
      exact missing back (suffix.trans (List.suffix_cons c others))

theorem findMatches_inert_append {piece : Text} (inert : Inert find piece) (rest : Text) :
    findMatches find (piece ++ rest) = findMatches find rest :=
  findMatches_append fun back suffix nonempty => inert back suffix nonempty rest

end Matches

section Replacement

variable {find : Text → Option (Text × Text)}

private theorem replaceMatches_go_eq (skip : Nat) (text : Text) :
    replaceMatches.go find skip text = replaceMatches.go find 0 (text.drop skip) := by
  induction text generalizing skip with
  | nil => cases skip <;> simp [replaceMatches.go]
  | cons c rest inductionHypothesis =>
      cases skip with
      | zero => rfl
      | succ skip => simpa [replaceMatches.go] using inductionHypothesis skip

@[simp]
theorem replaceMatches_nil : replaceMatches find [] = [] := rfl

theorem replaceMatches_of_none {c : Char} {rest : Text}
    (missing : find (c :: rest) = none) :
    replaceMatches find (c :: rest) = c :: replaceMatches find rest := by
  simp [replaceMatches, replaceMatches.go, missing]

theorem replaceMatches_of_some (advances : Advances find)
    {text replacement after : Text} (reading : find text = some (replacement, after)) :
    replaceMatches find text = replacement ++ replaceMatches find after := by
  obtain ⟨matched, nonempty, split⟩ := advances.split reading
  cases matched with
  | nil => exact absurd rfl nonempty
  | cons c more =>
      subst split
      rw [List.cons_append] at reading ⊢
      simp only [replaceMatches, replaceMatches.go, reading]
      rw [replaceMatches_go_eq]
      simp

/-! ## What stays -/

/-- A piece in which no match begins, with the given text after it, stays as it is. -/
theorem replaceMatches_append {piece rest : Text}
    (missing : ∀ back, back <:+ piece → back ≠ [] → find (back ++ rest) = none) :
    replaceMatches find (piece ++ rest) = piece ++ replaceMatches find rest := by
  induction piece with
  | nil => rfl
  | cons c others inductionHypothesis =>
      have atFront : find (c :: (others ++ rest)) = none :=
        missing (c :: others) (List.suffix_refl _) (by simp)
      rw [List.cons_append, replaceMatches_of_none atFront, inductionHypothesis]
      · rfl
      · intro back suffix nonempty
        exact missing back (suffix.trans (List.suffix_cons c others)) nonempty

theorem replaceMatches_eq_self {text : Text}
    (missing : ∀ back, back <:+ text → find back = none) :
    replaceMatches find text = text := by
  have noMatch : ∀ back, back <:+ text → back ≠ [] → find (back ++ []) = none := by
    intro back suffix _
    simpa using missing back suffix
  simpa using replaceMatches_append noMatch

theorem replaceMatches_inert_append {piece : Text} (inert : Inert find piece) (rest : Text) :
    replaceMatches find (piece ++ rest) = piece ++ replaceMatches find rest :=
  replaceMatches_append fun back suffix nonempty => inert back suffix nonempty rest

theorem replaceMatches_inert {piece : Text} (inert : Inert find piece) :
    replaceMatches find piece = piece := by
  simpa using replaceMatches_inert_append inert []

/-- Items that are inert or match as a whole are replaced one by one. -/
theorem replaceMatches_flatMap (advances : Advances find) {α : Type} {before after : α → Text}
    {items : List α}
    (each : ∀ item ∈ items, Inert find (before item) ∧ after item = before item ∨
      ∀ rest, find (before item ++ rest) = some (after item, rest))
    (rest : Text) :
    replaceMatches find (items.flatMap before ++ rest) =
      items.flatMap after ++ replaceMatches find rest := by
  induction items with
  | nil => rfl
  | cons item others inductionHypothesis =>
      have eachOther := inductionHypothesis fun other member =>
        each other (List.mem_cons_of_mem item member)
      rw [List.flatMap_cons, List.flatMap_cons, List.append_assoc, List.append_assoc, ← eachOther]
      rcases each item List.mem_cons_self with ⟨inert, same⟩ | reading
      · rw [replaceMatches_inert_append inert, same]
      · exact replaceMatches_of_some advances (reading _)

/-! ## Cutting at the matches -/

/-- A text cut at its leftmost matches: into what they find, and the characters between them, at
which no match begins. -/
inductive Cut {α : Type} (find : Text → Option (α × Text)) : List (Char ⊕ α) → Text → Prop
  | nil : Cut find [] []
  | pass {c : Char} {pieces : List (Char ⊕ α)} {rest : Text} :
      find (c :: rest) = none → Cut find pieces rest → Cut find (.inl c :: pieces) (c :: rest)
  | found {item : α} {pieces : List (Char ⊕ α)} {text after : Text} :
      find text = some (item, after) → Cut find pieces after → Cut find (.inr item :: pieces) text

section Cut

variable {α : Type} {find : Text → Option (α × Text)}

theorem exists_cut (advances : Advances find) (text : Text) : ∃ pieces, Cut find pieces text := by
  induction text using match_induction advances with
  | nil => exact ⟨[], .nil⟩
  | pass c rest missing inductionHypothesis =>
      obtain ⟨pieces, cut⟩ := inductionHypothesis
      exact ⟨.inl c :: pieces, .pass missing cut⟩
  | found text item after reading inductionHypothesis =>
      obtain ⟨pieces, cut⟩ := inductionHypothesis
      exact ⟨.inr item :: pieces, .found reading cut⟩

variable {pieces : List (Char ⊕ α)} {text : Text} (cut : Cut find pieces text)
include cut

theorem Cut.flatMap_eq {source : α → Text}
    (sound : ∀ text item after, find text = some (item, after) → text = source item ++ after) :
    pieces.flatMap (pieceText source) = text := by
  induction cut with
  | nil => rfl
  | pass missing cut inductionHypothesis =>
      rw [List.flatMap_cons, inductionHypothesis, pieceText, List.singleton_append]
  | found reading cut inductionHypothesis =>
      rw [List.flatMap_cons, inductionHypothesis, pieceText, ← sound _ _ _ reading]

theorem Cut.flatMap_eq_replaceMatches (advances : Advances find) (replacement : α → Text) :
    pieces.flatMap (pieceText replacement) =
      replaceMatches (fun rest => (find rest).map fun (item, after) => (replacement item, after))
        text := by
  induction cut with
  | nil => rfl
  | pass missing cut inductionHypothesis =>
      rw [List.flatMap_cons, inductionHypothesis, pieceText, List.singleton_append,
        replaceMatches_of_none]
      rw [missing, Option.map_none]
  | @found item pieces text after reading cut inductionHypothesis =>
      have replaced : ((find text).map fun (item, after) => (replacement item, after)) =
          some (replacement item, after) := by
        rw [reading, Option.map_some]
      rw [List.flatMap_cons, inductionHypothesis, pieceText,
        replaceMatches_of_some (advances.map replacement) replaced]

theorem Cut.filterMap_eq_findMatches (advances : Advances find) :
    pieces.filterMap Sum.getRight? = findMatches find text := by
  induction cut with
  | nil => rfl
  | pass missing cut inductionHypothesis =>
      rw [findMatches_of_none missing, ← inductionHypothesis]
      rfl
  | found reading cut inductionHypothesis =>
      rw [findMatches_of_some advances reading, ← inductionHypothesis]
      rfl

end Cut

/-- A character that no replacement brings in is not in the result. -/
theorem not_mem_replaceMatches (advances : Advances find) {c : Char}
    (clean : ∀ text replacement after,
      find text = some (replacement, after) → c ∉ text → c ∉ replacement)
    {text : Text} (absent : c ∉ text) :
    c ∉ replaceMatches find text := by
  induction text using match_induction advances with
  | nil => simp
  | pass d rest missing inductionHypothesis =>
      obtain ⟨different, absentInRest⟩ := List.ne_and_not_mem_of_not_mem_cons absent
      rw [replaceMatches_of_none missing]
      exact List.not_mem_cons_of_ne_of_not_mem different (inductionHypothesis absentInRest)
  | found text replacement after reading inductionHypothesis =>
      have absentInReplacement := clean text replacement after reading absent
      obtain ⟨matched, _, split⟩ := advances.split reading
      have absentAfter : c ∉ after := by
        intro member
        exact absent (split ▸ List.mem_append_right matched member)
      rw [replaceMatches_of_some advances reading]
      exact List.not_mem_append absentInReplacement (inductionHypothesis absentAfter)

/-- If every match that is not replaced by itself brings in more of a character than it takes
away, then so does the replacement of all matches. -/
theorem replaceMatches_eq_self_or_count_lt (advances : Advances find) (c : Char)
    (grows : ∀ text replacement after, find text = some (replacement, after) →
      replacement ++ after = text ∨ text.count c < (replacement ++ after).count c)
    (text : Text) :
    replaceMatches find text = text ∨
      text.count c < (replaceMatches find text).count c := by
  induction text using match_induction advances with
  | nil => exact Or.inl rfl
  | pass d rest missing inductionHypothesis =>
      rw [replaceMatches_of_none missing]
      rcases inductionHypothesis with same | more
      · exact Or.inl (by rw [same])
      · right
        simp only [List.count_cons]
        omega
  | found text replacement after reading inductionHypothesis =>
      rw [replaceMatches_of_some advances reading]
      have step := grows text replacement after reading
      simp only [List.count_append] at step ⊢
      rcases inductionHypothesis with same | more
      · rw [same]
        exact step
      · rcases step with kept | larger
        · right
          rw [← kept, List.count_append]
          omega
        · right
          omega

theorem Advances.find_nil (advances : Advances find) : find [] = none := by
  rw [Option.eq_none_iff_forall_ne_some]
  rintro ⟨replacement, after⟩ reading
  obtain ⟨matched, nonempty, split⟩ := advances.split reading
  exact nonempty (List.append_eq_nil_iff.mp split.symm).1

/-- If every replacement brings in more of a character than it takes away, then a text stays as it
is exactly if it holds no match at all. -/
theorem replaceMatches_eq_self_iff (advances : Advances find) (c : Char)
    (grows : ∀ text replacement after, find text = some (replacement, after) →
      text.count c < (replacement ++ after).count c)
    (text : Text) :
    replaceMatches find text = text ↔ ∀ back, back <:+ text → find back = none := by
  constructor
  · induction text using match_induction advances with
    | nil =>
        intro _ back suffix
        rw [List.suffix_nil.mp suffix]
        exact advances.find_nil
    | pass d rest missing inductionHypothesis =>
        intro unchanged back suffix
        rw [replaceMatches_of_none missing] at unchanged
        rcases List.suffix_cons_iff.mp suffix with rfl | inRest
        · exact missing
        · exact inductionHypothesis (List.cons.inj unchanged).2 back inRest
    | found text replacement after reading inductionHypothesis =>
        intro unchanged
        have step := grows text replacement after reading
        have notFewer : after.count c ≤ (replaceMatches find after).count c := by
          rcases replaceMatches_eq_self_or_count_lt advances c
            (fun _ _ _ found => Or.inr (grows _ _ _ found)) after with same | more
          · rw [same]
          · exact Nat.le_of_lt more
        rw [replaceMatches_of_some advances reading] at unchanged
        rw [← unchanged] at step
        simp only [List.count_append] at step
        omega
  · exact replaceMatches_eq_self

/-! ## Reading up to a character -/

/-- If no match begins at a character or reaches over it, the texts on its two sides are read
on their own. -/
theorem replaceMatches_append_cons (advances : Advances find) {c : Char} {back : Text}
    (stops : find (c :: back) = none)
    (within : ∀ front, front ≠ [] →
      find (front ++ c :: back) =
        (find front).map fun (replacement, after) => (replacement, after ++ c :: back))
    (front : Text) :
    replaceMatches find (front ++ c :: back) =
      replaceMatches find front ++ c :: replaceMatches find back := by
  induction front using match_induction advances with
  | nil => simpa using replaceMatches_of_none stops
  | pass d rest missing inductionHypothesis =>
      have stillMissing : find (d :: (rest ++ c :: back)) = none := by
        simpa [missing] using within (d :: rest) (by simp)
      rw [List.cons_append, replaceMatches_of_none stillMissing,
        replaceMatches_of_none missing, inductionHypothesis, List.cons_append]
  | found text replacement after reading inductionHypothesis =>
      obtain ⟨matched, nonempty, split⟩ := advances.split reading
      have stillFound :
          find (text ++ c :: back) = some (replacement, after ++ c :: back) := by
        simpa [reading] using within text (by simp [split, nonempty])
      rw [replaceMatches_of_some advances stillFound,
        replaceMatches_of_some advances reading, inductionHypothesis, List.append_assoc]

/-! ## Replacing a fixed text -/

theorem advances_fixed {old : Text} (new : Text) (nonempty : old ≠ []) :
    Advances fun rest => (old.isPrefixOf? rest).map fun after => (new, after) := by
  intro text replacement after reading
  simp only [Option.map_eq_some_iff, Prod.mk.injEq] at reading
  obtain ⟨following, isFront, _, rfl⟩ := reading
  exact ⟨old, nonempty, isPrefixOf?_eq_some_iff.mp isFront⟩

theorem replaceAll_eq_self {old text : Text} (new : Text) (absent : ¬ old <:+: text) :
    replaceAll old new text = text := by
  apply replaceMatches_eq_self
  intro back suffix
  rw [Option.map_eq_none_iff, isPrefixOf?_eq_none_iff]
  rintro after rfl
  exact absent ((List.prefix_append old after).isInfix.trans suffix.isInfix)

/-- A text without line feeds is replaced in every line on its own. -/
theorem replaceAll_append_cons {c : Char} {old : Text} (new : Text)
    (nonempty : old ≠ []) (absent : c ∉ old) (front back : Text) :
    replaceAll old new (front ++ c :: back) =
      replaceAll old new front ++ c :: replaceAll old new back := by
  apply replaceMatches_append_cons (advances_fixed new nonempty)
  · have atFront := isPrefixOf?_append_cons back [] absent
    cases old with
    | nil => exact absurd rfl nonempty
    | cons d rest => simpa [List.isPrefixOf?] using atFront
  · intro text _
    simp only [isPrefixOf?_append_cons back text absent, Option.map_map]
    rfl

end Replacement

end MarkdownDialect.Text
