import MarkdownDialect.Proofs.Heading.Slug
import MarkdownDialect.Proofs.Text.Number

/-!
# The form of slugs

A slug consists of small letters, digits, underscores and single hyphens, and every such text is its
own slug. What stands between two words does not matter beyond its being there: the characters that
bring in no word character all give the same hyphen.
-/

namespace MarkdownDialect

open Text

/-- Small letters, digits, underscores and hyphens, with no two hyphens side by side. -/
structure IsSlug (text : Text) : Prop where
  chars : ∀ c ∈ text, isIdChar c = true
  single : ¬['-', '-'] <:+: text

/-! ## Runs become single hyphens -/

theorem collapseRuns_word {c : Char} (word : isSlugWord c = true) (inRun : Bool) (rest : Text) :
    collapseRuns inRun (c :: rest) = c :: collapseRuns false rest := by
  rw [collapseRuns, if_pos word]

theorem collapseRuns_separator {c : Char} (separates : isSlugWord c = false) (inRun : Bool)
    (rest : Text) :
    collapseRuns inRun (c :: rest) = (if inRun then [] else ['-']) ++ collapseRuns true rest := by
  rw [collapseRuns, if_neg (by simp [separates])]
  cases inRun <;> rfl

/-- Within a run no hyphen comes next. -/
private theorem head?_collapseRuns_true (text : Text) :
    (collapseRuns true text).head? ≠ some '-' := by
  induction text with
  | nil => simp [collapseRuns]
  | cons c rest inductionHypothesis =>
      by_cases word : isSlugWord c = true
      · rw [collapseRuns_word word, List.head?_cons]
        intro isHyphen
        rw [Option.some.inj isHyphen] at word
        exact absurd word (by decide)
      · rw [collapseRuns_separator (by simpa using word)]
        exact inductionHypothesis

theorem isInfix_hyphens_cons_iff {c : Char} {text : Text} :
    ['-', '-'] <:+: c :: text ↔ (c = '-' ∧ text.head? = some '-') ∨ ['-', '-'] <:+: text := by
  rw [List.infix_cons_iff, List.cons_prefix_cons, eq_comm]
  cases text with
  | nil => simp
  | cons d rest => simp [List.cons_prefix_cons, eq_comm]

@[simp]
theorem not_isInfix_hyphens_collapseRuns (inRun : Bool) (text : Text) :
    ¬['-', '-'] <:+: collapseRuns inRun text := by
  induction text generalizing inRun with
  | nil => simp [collapseRuns]
  | cons c rest inductionHypothesis =>
      by_cases word : isSlugWord c = true
      · have noHyphen : c ≠ '-' := by
          rintro rfl
          exact absurd word (by decide)
        rw [collapseRuns_word word, isInfix_hyphens_cons_iff]
        simp [noHyphen, inductionHypothesis]
      · rw [collapseRuns_separator (by simpa using word)]
        cases inRun with
        | true => exact inductionHypothesis true
        | false =>
            simp only [Bool.false_eq_true, if_false, List.singleton_append]
            rw [isInfix_hyphens_cons_iff]
            simp [head?_collapseRuns_true, inductionHypothesis]

/-- No word character is lost or moved past another. -/
@[simp]
theorem filter_collapseRuns (inRun : Bool) (text : Text) :
    (collapseRuns inRun text).filter isSlugWord = text.filter isSlugWord := by
  induction text generalizing inRun with
  | nil => rfl
  | cons c rest inductionHypothesis =>
      by_cases word : isSlugWord c = true
      · rw [collapseRuns_word word, List.filter_cons_of_pos word, List.filter_cons_of_pos word,
          inductionHypothesis]
      · have noHyphen : (if inRun then [] else ['-']).filter isSlugWord = [] := by
          cases inRun <;> decide
        rw [collapseRuns_separator (by simpa using word), List.filter_append, noHyphen,
          List.filter_cons_of_neg word, inductionHypothesis, List.nil_append]

theorem isSlug_slug (text : Text) : IsSlug (slug text) where
  chars := fun _ member => isIdChar_of_mem_slug member
  single := not_isInfix_hyphens_collapseRuns false (toLower text)

/-! ## Slugs of slugs -/

theorem isIdChar_bounds {c : Char} (idChar : isIdChar c = true) :
    c.toNat < 65 ∨ 91 ≤ c.toNat ∧ c.toNat < 128 := by
  simp only [isIdChar, Bool.or_eq_true, decide_eq_true_eq] at idChar
  rcases idChar with ((small | digit) | rfl) | rfl
  · have inRange : ('a'.val ≤ c.val && c.val ≤ 'z'.val) = true := small
    simp only [Bool.and_eq_true, decide_eq_true_eq] at inRange
    have low : 97 ≤ c.toNat := UInt32.le_iff_toNat_le.mp inRange.1
    have high : c.toNat ≤ 122 := UInt32.le_iff_toNat_le.mp inRange.2
    omega
  · have high : c.toNat ≤ 57 := (isDigit_bounds digit).2
    omega
  · decide
  · decide

/-- The characters of slugs are in lower case already. -/
private theorem toLower_of_isIdChar {c : Char} (idChar : isIdChar c = true) : c.toLower = c := by
  have bounds := isIdChar_bounds idChar
  rcases toLower_eq_self_or_capital c with same | capital
  · exact same
  · omega

theorem toLower_eq_self {text : Text} (isSlug : IsSlug text) : toLower text = text := by
  have ascii : ∀ c ∈ text, c.toNat < 128 := by
    intro c member
    have bounds := isIdChar_bounds (isSlug.chars c member)
    omega
  calc
    toLower text = text.map Char.toLower := toLower_of_ascii ascii
    _ = text.map id :=
      List.map_congr_left fun c member => toLower_of_isIdChar (isSlug.chars c member)
    _ = text := List.map_id text

/-- The only separator in a slug is the hyphen. -/
private theorem isHyphen_of_isIdChar {c : Char} (idChar : isIdChar c = true)
    (separates : isSlugWord c = false) : c = '-' := by
  have classes : isSlugWord c = (c.isUpper || c.isLower || c.isDigit || c = '_') := rfl
  rw [classes] at separates
  simp only [Bool.or_eq_false_iff, decide_eq_false_iff_not] at separates
  obtain ⟨⟨⟨-, notSmall⟩, notDigit⟩, notUnderscore⟩ := separates
  simpa [isIdChar, notSmall, notDigit, notUnderscore] using idChar

theorem IsSlug.of_cons {c : Char} {rest : Text} (isSlug : IsSlug (c :: rest)) : IsSlug rest where
  chars := fun d member => isSlug.chars d (List.mem_cons_of_mem c member)
  single := fun doubled => isSlug.single (List.infix_cons doubled)

theorem collapseRuns_eq_self {text : Text} (isSlug : IsSlug text) {inRun : Bool}
    (fresh : inRun = true → text.head? ≠ some '-') : collapseRuns inRun text = text := by
  induction text generalizing inRun with
  | nil => rfl
  | cons c rest inductionHypothesis =>
      have restUnchanged := @inductionHypothesis isSlug.of_cons
      by_cases word : isSlugWord c = true
      · rw [collapseRuns_word word, restUnchanged (by simp)]
      · have isHyphen : c = '-' := isHyphen_of_isIdChar (isSlug.chars c List.mem_cons_self)
          (by simpa using word)
        have noSecond : rest.head? ≠ some '-' := fun second =>
          isSlug.single (isInfix_hyphens_cons_iff.mpr (Or.inl ⟨isHyphen, second⟩))
        rw [collapseRuns_separator (by simpa using word), restUnchanged fun _ => noSecond]
        cases inRun with
        | true => exact absurd (by simp [isHyphen]) (fresh rfl)
        | false => simp [isHyphen]

/-- The slugs are exactly the texts that are slugs of themselves. -/
theorem slug_eq_self_iff {text : Text} : slug text = text ↔ IsSlug text := by
  constructor
  · intro unchanged
    rw [← unchanged]
    exact isSlug_slug text
  · intro isSlug
    rw [slug, toLower_eq_self isSlug]
    exact collapseRuns_eq_self isSlug (by simp)

/-! ## What separates words -/

/-- Whether a character has no word character in its lower case. -/
def Separates (c : Char) : Prop :=
  ∀ lower ∈ toLower [c], isSlugWord lower = false

/-- Whether two texts look the same once their runs are collapsed, within a run and outside. -/
def CollapseAlike (first second : Text) : Prop :=
  ∀ inRun, collapseRuns inRun first = collapseRuns inRun second

theorem CollapseAlike.prepend {first second : Text} (alike : CollapseAlike first second)
    (front : Text) : CollapseAlike (front ++ first) (front ++ second) := by
  induction front with
  | nil => exact alike
  | cons c rest inductionHypothesis =>
      intro inRun
      by_cases word : isSlugWord c = true
      · rw [List.cons_append, List.cons_append, collapseRuns_word word, collapseRuns_word word,
          inductionHypothesis false]
      · have separates : isSlugWord c = false := by simpa using word
        rw [List.cons_append, List.cons_append, collapseRuns_separator separates,
          collapseRuns_separator separates, inductionHypothesis true]

theorem collapseRuns_true_append {run : Text} (separators : ∀ c ∈ run, isSlugWord c = false)
    (rest : Text) : collapseRuns true (run ++ rest) = collapseRuns true rest := by
  induction run with
  | nil => rfl
  | cons c others inductionHypothesis =>
      rw [List.forall_mem_cons] at separators
      rw [List.cons_append, collapseRuns_separator separators.1, inductionHypothesis separators.2]
      rfl

/-- A run of separators leaves one hyphen at most, however long it is. -/
theorem collapseRuns_append {run : Text} (nonempty : run ≠ [])
    (separators : ∀ c ∈ run, isSlugWord c = false) (inRun : Bool) (rest : Text) :
    collapseRuns inRun (run ++ rest) = (if inRun then [] else ['-']) ++ collapseRuns true rest := by
  cases run with
  | nil => exact absurd rfl nonempty
  | cons c others =>
      rw [List.forall_mem_cons] at separators
      rw [List.cons_append, collapseRuns_separator separators.1,
        collapseRuns_true_append separators.2]

theorem collapseAlike_of_separators {first second : Text} (firstNonempty : first ≠ [])
    (firstSeparators : ∀ c ∈ first, isSlugWord c = false) (secondNonempty : second ≠ [])
    (secondSeparators : ∀ c ∈ second, isSlugWord c = false) (rest : Text) :
    CollapseAlike (first ++ rest) (second ++ rest) := by
  intro inRun
  rw [collapseRuns_append firstNonempty firstSeparators,
    collapseRuns_append secondNonempty secondSeparators]

/-- Slugs do not show which of its two small letters a capital sigma became. -/
private theorem collapseAlike_lowerAfter (before text : Text) :
    CollapseAlike (lowerAfter before text) (text.flatMap fun c => toLower [c]) := by
  induction text generalizing before with
  | nil => exact fun _ => rfl
  | cons c rest inductionHypothesis =>
      intro inRun
      rw [lowerAfter, List.flatMap_cons]
      by_cases sigma : c = 'Σ'
      -- On its own the sigma does not end a word, but both of its small letters are separators.
      · have final : ∀ c ∈ ['ς'], isSlugWord c = false := by
          rw [List.forall_mem_singleton]
          decide
        have medial : ∀ c ∈ ['σ'], isSlugWord c = false := by
          rw [List.forall_mem_singleton]
          decide
        have lowered : toLower [c] = ['σ'] := by
          rw [sigma]
          rfl
        rw [if_pos sigma, lowered]
        split
        · rw [inductionHypothesis (c :: before) |>.prepend ['ς'] inRun]
          exact collapseAlike_of_separators (by simp) final (by simp) medial _ inRun
        · exact (inductionHypothesis (c :: before)).prepend ['σ'] inRun
      · have lowered : toLower [c] = lowerChar c := by
          rw [toLower, lowerAfter, if_neg sigma, lowerAfter, List.append_nil]
        rw [if_neg sigma, lowered]
        exact (inductionHypothesis (c :: before)).prepend (lowerChar c) inRun

private theorem slug_eq_collapseRuns (text : Text) :
    slug text = collapseRuns false (text.flatMap fun c => toLower [c]) :=
  collapseAlike_lowerAfter [] text false

theorem flatMap_toLower_ne_nil {text : Text} (nonempty : text ≠ []) :
    (text.flatMap fun c => toLower [c]) ≠ [] := by
  cases text with
  | nil => exact absurd rfl nonempty
  | cons c rest =>
      rw [List.flatMap_cons]
      exact List.append_ne_nil_of_left_ne_nil (toLower_ne_nil (by simp)) _

private theorem isSlugWord_of_mem_flatMap {run : Text} (separators : ∀ c ∈ run, Separates c) :
    ∀ lower ∈ run.flatMap fun c => toLower [c], isSlugWord lower = false := by
  intro lower member
  obtain ⟨c, inRun, inLower⟩ := List.mem_flatMap.mp member
  exact separators c inRun lower inLower

private theorem slug_append_separators {first second : Text} (firstNonempty : first ≠ [])
    (firstSeparators : ∀ c ∈ first, Separates c) (secondNonempty : second ≠ [])
    (secondSeparators : ∀ c ∈ second, Separates c) (front back : Text) :
    slug (front ++ first ++ back) = slug (front ++ second ++ back) := by
  have alike :=
    collapseAlike_of_separators (flatMap_toLower_ne_nil firstNonempty)
      (isSlugWord_of_mem_flatMap firstSeparators) (flatMap_toLower_ne_nil secondNonempty)
      (isSlugWord_of_mem_flatMap secondSeparators) (back.flatMap fun c => toLower [c])
  rw [slug_eq_collapseRuns, slug_eq_collapseRuns, List.append_assoc, List.append_assoc]
  simp only [List.flatMap_append]
  exact alike.prepend _ false

/-- Slugs have one form and keep the words of the text, and different texts between two words that
bring in no word character lead to the same slug. -/
theorem slugs_are_canonical :
    (∀ text : Text, (∀ c ∈ slug text, isIdChar c = true) ∧ ¬['-', '-'] <:+: slug text ∧
      (slug text = [] ↔ text = []) ∧ slug (slug text) = slug text ∧
      (slug text).filter isSlugWord = (toLower text).filter isSlugWord) ∧
    ∀ front first second back : Text, first ≠ [] → second ≠ [] →
      (∀ c ∈ first ++ second, Separates c) →
      slug (front ++ first ++ back) = slug (front ++ second ++ back) := by
  constructor
  · intro text
    have isSlug := isSlug_slug text
    have emptyOnly : slug text = [] ↔ text = [] := by
      constructor
      · intro empty
        by_cases nonempty : text = []
        · exact nonempty
        · exact absurd empty (slug_ne_nil nonempty)
      · rintro rfl
        rfl
    exact ⟨isSlug.chars, isSlug.single, emptyOnly, slug_eq_self_iff.mpr isSlug,
      filter_collapseRuns false (toLower text)⟩
  · intro front first second back firstNonempty secondNonempty separators
    rw [List.forall_mem_append] at separators
    exact slug_append_separators firstNonempty separators.1 secondNonempty separators.2 front back

/-- A run of a capital sigma and a dash may stand for an apostrophe. -/
theorem slugs_are_canonical_at_sigma :
    ['Σ', '—'] ≠ [] ∧ ['’'] ≠ [] ∧ (∀ c ∈ ['Σ', '—'] ++ ['’'], Separates c) ∧
      slug ("O".toList ++ ['Σ', '—'] ++ "K".toList) = slug ("O".toList ++ ['’'] ++ "K".toList) ∧
      slug ("O".toList ++ ['Σ', '—'] ++ "K".toList) = "o-k".toList := by
  have separators : ∀ c ∈ ['Σ', '—'] ++ ['’'], Separates c := by
    have lowered : (['Σ', '—'] ++ ['’']).all fun c =>
        (toLower [c]).all fun lower => !isSlugWord lower := by
      decide +kernel
    simp only [List.all_eq_true, Bool.not_eq_true'] at lowered
    exact lowered
  exact ⟨by decide, by decide, separators,
    slugs_are_canonical.2 _ _ _ _ (by decide) (by decide) separators, by decide +kernel⟩

end MarkdownDialect
