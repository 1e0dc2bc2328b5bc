import MarkdownDialect.Text.Space
import Mathlib.Data.List.DropRight
import Mathlib.Data.List.TakeWhile

/-!
# Trimming

Trimming takes white space off the two ends of a text and nothing else, and how much of it stood
there does not matter.
-/

namespace MarkdownDialect.Text

section Ends

variable {inClass : Char → Bool}

section SameClass

variable {other : Char → Bool} {text : Text} (same : ∀ c ∈ text, inClass c = other c)
include same

theorem takeWhile_congr : text.takeWhile inClass = text.takeWhile other := by
  induction text with
  | nil => rfl
  | cons c rest inductionHypothesis =>
      rw [List.takeWhile_cons, List.takeWhile_cons, same c List.mem_cons_self,
        inductionHypothesis fun d member => same d (List.mem_cons_of_mem c member)]

theorem dropWhile_congr : text.dropWhile inClass = text.dropWhile other := by
  induction text with
  | nil => rfl
  | cons c rest inductionHypothesis =>
      rw [List.dropWhile_cons, List.dropWhile_cons, same c List.mem_cons_self,
        inductionHypothesis fun d member => same d (List.mem_cons_of_mem c member)]

end SameClass

theorem dropWhile_append_of_all {front text : Text} (inside : ∀ c ∈ front, inClass c) :
    (front ++ text).dropWhile inClass = text.dropWhile inClass :=
  List.dropWhile_append_of_pos inside

theorem dropEndWhile_append_of_all {text back : Text} (inside : ∀ c ∈ back, inClass c) :
    dropEndWhile inClass (text ++ back) = dropEndWhile inClass text := by
  unfold dropEndWhile
  rw [List.reverse_append, List.dropWhile_append_of_pos]
  simpa using inside

theorem dropEndWhile_split (inClass : Char → Bool) (text : Text) :
    ∃ back, text = dropEndWhile inClass text ++ back ∧ ∀ c ∈ back, inClass c :=
  ⟨text.rtakeWhile inClass, List.rdropWhile_append_rtakeWhile.symm,
    fun _ member => List.mem_rtakeWhile_imp member⟩

theorem dropEndWhile_concat {text : Text} {last : Char} (outside : inClass last = false) :
    dropEndWhile inClass (text ++ [last]) = text ++ [last] := by
  simp [dropEndWhile, outside]

end Ends

/-! ## White space -/

theorem trim_split (text : Text) :
    ∃ front back, text = front ++ (trim text ++ back) ∧
      (∀ c ∈ front, isSpace c) ∧ ∀ c ∈ back, isSpace c := by
  obtain ⟨back, split, inside⟩ := dropEndWhile_split isSpace (trimStart text)
  refine ⟨text.takeWhile isSpace, back, ?_, fun _ member => List.mem_takeWhile_imp member, inside⟩
  calc
    text = text.takeWhile isSpace ++ trimStart text := List.takeWhile_append_dropWhile.symm
    _ = text.takeWhile isSpace ++ (trim text ++ back) := congrArg _ split

theorem trim_append_left {front text : Text} (spaces : ∀ c ∈ front, isSpace c) :
    trim (front ++ text) = trim text := by
  unfold trim trimStart
  rw [dropWhile_append_of_all spaces]

theorem trim_eq_nil_iff {text : Text} : trim text = [] ↔ ∀ c ∈ text, isSpace c := by
  constructor
  · intro empty
    obtain ⟨front, back, split, frontSpaces, backSpaces⟩ := trim_split text
    intro c member
    rw [split, empty, List.nil_append, List.mem_append] at member
    exact member.elim (frontSpaces c) (backSpaces c)
  · intro spaces
    unfold trim trimStart
    rw [List.dropWhile_eq_nil_iff.mpr spaces]
    rfl

theorem trim_append_right {text back : Text} (spaces : ∀ c ∈ back, isSpace c) :
    trim (text ++ back) = trim text := by
  by_cases allSpaces : ∀ c ∈ text, isSpace c
  · rw [trim_append_left allSpaces, trim_eq_nil_iff.mpr allSpaces,
      trim_eq_nil_iff.mpr spaces]
  · have nonempty : text.dropWhile isSpace ≠ [] := by
      rwa [Ne, List.dropWhile_eq_nil_iff]
    unfold trim trimStart trimEnd
    rw [List.dropWhile_append, if_neg (by simpa using nonempty),
      dropEndWhile_append_of_all spaces]

@[simp]
theorem trim_trim (text : Text) : trim (trim text) = trim text := by
  obtain ⟨front, back, split, frontSpaces, backSpaces⟩ := trim_split text
  conv_rhs => rw [split, trim_append_left frontSpaces, trim_append_right backSpaces]

/-- A trimmed text begins with no white space. -/
theorem isSpace_head? {text : Text} (trimmed : trim text = text) {c : Char}
    (isFirst : text.head? = some c) : isSpace c = false := by
  by_contra space
  rw [Bool.not_eq_false] at space
  obtain ⟨rest, rfl⟩ : ∃ rest, text = c :: rest := by
    cases text with
    | nil => simp at isFirst
    | cons d rest => exact ⟨rest, by simpa using isFirst⟩
  have shorter : trim (c :: rest) = trim rest :=
    @trim_append_left [c] rest (by simpa using space)
  obtain ⟨front, back, split, _⟩ := trim_split rest
  have lengths := congrArg List.length split
  rw [← shorter, trimmed] at lengths
  simp only [List.length_append, List.length_cons] at lengths
  omega

/-- A trimmed text ends with no white space. -/
theorem isSpace_getLast? {text : Text} (trimmed : trim text = text) {c : Char}
    (isLast : text.getLast? = some c) : isSpace c = false := by
  by_contra space
  rw [Bool.not_eq_false] at space
  obtain ⟨before, rfl⟩ := List.getLast?_eq_some_iff.mp isLast
  have shorter : trim (before ++ [c]) = trim before :=
    trim_append_right (by simpa using space)
  obtain ⟨front, back, split, _⟩ := trim_split before
  have lengths := congrArg List.length split
  rw [← shorter, trimmed] at lengths
  simp only [List.length_append, List.length_cons, List.length_nil] at lengths
  omega

theorem trimEnd_eq_self {text : Text}
    (ends : ∀ c, text.getLast? = some c → isSpace c = false) : trimEnd text = text := by
  rcases List.eq_nil_or_concat text with rfl | ⟨front, last, rfl⟩
  · rfl
  · rw [List.concat_eq_append] at ends ⊢
    exact dropEndWhile_concat (ends last List.getLast?_concat)

/-- Only white space at the ends is trimmed off. -/
theorem trim_eq_self {text : Text} (starts : ∀ c, text.head? = some c → isSpace c = false)
    (ends : ∀ c, text.getLast? = some c → isSpace c = false) : trim text = text := by
  have started : trimStart text = text := by
    cases text with
    | nil => rfl
    | cons c rest => exact List.dropWhile_cons_of_neg (by simp [starts c rfl])
  rw [trim, started, trimEnd_eq_self ends]

/-- Trimming takes no character away that is not white space. -/
theorem count_trim {c : Char} (visible : isSpace c = false) (text : Text) :
    (trim text).count c = text.count c := by
  obtain ⟨front, back, split, frontSpaces, backSpaces⟩ := trim_split text
  have absentFront : front.count c = 0 :=
    List.count_eq_zero.mpr fun member => by simp [frontSpaces c member] at visible
  have absentBack : back.count c = 0 :=
    List.count_eq_zero.mpr fun member => by simp [backSpaces c member] at visible
  conv_rhs => rw [split, List.count_append, List.count_append, absentFront, absentBack]
  omega

theorem mem_of_mem_trim {c : Char} {text : Text} (member : c ∈ trim text) : c ∈ text := by
  obtain ⟨front, back, split, _⟩ := trim_split text
  rw [split]
  exact List.mem_append_right front (List.mem_append_left back member)

/-! ## White space around a text -/

/-- A text neither begins nor ends with white space. -/
structure HasVisibleEnds (text : Text) : Prop where
  first : ∀ c, text.head? = some c → isSpace c = false
  last : ∀ c, text.getLast? = some c → isSpace c = false

theorem hasVisibleEnds_iff {text : Text} : HasVisibleEnds text ↔ trim text = text := by
  constructor
  · intro visibleEnds
    exact trim_eq_self visibleEnds.first visibleEnds.last
  · intro trimmed
    exact ⟨fun _ => isSpace_head? trimmed, fun _ => isSpace_getLast? trimmed⟩

theorem HasVisibleEnds.of_visible {text : Text} (visible : ∀ c ∈ text, isSpace c = false) :
    HasVisibleEnds text :=
  ⟨fun c isFirst => visible c (List.mem_of_head? isFirst),
    fun c isLast => visible c (List.mem_of_getLast? isLast)⟩

/-- A text is a content with any white space around it. -/
def IsPadded (content text : Text) : Prop :=
  ∃ front back, text = front ++ (content ++ back) ∧
    (∀ c ∈ front, isSpace c) ∧ ∀ c ∈ back, isSpace c

theorem isPadded_self (content : Text) : IsPadded content content :=
  ⟨[], [], by simp⟩

theorem isPadded_trim (text : Text) : IsPadded (trim text) text :=
  trim_split text

theorem IsPadded.trim_eq {content text : Text} (padded : IsPadded content text)
    (visibleEnds : HasVisibleEnds content) : trim text = content := by
  obtain ⟨front, back, rfl, frontSpaces, backSpaces⟩ := padded
  rw [trim_append_left frontSpaces, trim_append_right backSpaces, hasVisibleEnds_iff.mp visibleEnds]

theorem IsPadded.not_mem {content text : Text} (padded : IsPadded content text) {c : Char}
    (visible : isSpace c = false) (absent : c ∉ content) : c ∉ text := by
  obtain ⟨front, back, rfl, frontSpaces, backSpaces⟩ := padded
  have noSpace : isSpace c ≠ true := by simp [visible]
  exact List.not_mem_append (mt (frontSpaces c) noSpace)
    (List.not_mem_append absent (mt (backSpaces c) noSpace))

/-! ## Blanks -/

theorem isSpace_of_isBlank {c : Char} (blank : isBlank c = true) : isSpace c = true := by
  simp only [isBlank, Bool.or_eq_true, decide_eq_true_eq] at blank
  rcases blank with rfl | rfl <;> decide

theorem isBlank_eq_false_of_isSpace_eq_false {c : Char} (visible : isSpace c = false) :
    isBlank c = false := by
  by_contra blank
  simp [isSpace_of_isBlank (by simpa using blank)] at visible

/-- Blanks around a text that neither begins nor ends with one are trimmed off. -/
theorem trimBlanks_of_visible_ends {front text back : Text} (frontBlank : ∀ c ∈ front, isBlank c)
    (backBlank : ∀ c ∈ back, isBlank c) (nonempty : text ≠ [])
    (startsVisible : ∀ c, text.head? = some c → isBlank c = false)
    (endsVisible : ∀ c, text.getLast? = some c → isBlank c = false) :
    trimBlanks (front ++ (text ++ back)) = text := by
  have started : (text ++ back).dropWhile isBlank = text ++ back := by
    cases text with
    | nil => exact absurd rfl nonempty
    | cons c rest => simp [startsVisible c rfl]
  obtain ⟨before, last, rfl⟩ := (List.eq_nil_or_concat text).resolve_left nonempty
  rw [List.concat_eq_append] at started endsVisible ⊢
  have lastVisible : isBlank last = false := endsVisible last List.getLast?_concat
  unfold trimBlanks
  rw [dropWhile_append_of_all frontBlank, started, dropEndWhile_append_of_all backBlank,
    dropEndWhile_concat lastVisible]

theorem trimBlanks_split (text : Text) :
    ∃ front back, text = front ++ (trimBlanks text ++ back) ∧
      (∀ c ∈ front, isBlank c) ∧ ∀ c ∈ back, isBlank c := by
  obtain ⟨back, split, inside⟩ :=
    dropEndWhile_split isBlank (text.dropWhile isBlank)
  refine ⟨text.takeWhile isBlank, back, ?_, fun _ member => List.mem_takeWhile_imp member, inside⟩
  calc
    text = text.takeWhile isBlank ++ text.dropWhile isBlank :=
      List.takeWhile_append_dropWhile.symm
    _ = text.takeWhile isBlank ++ (trimBlanks text ++ back) := congrArg _ split

/-- What is left has no blank at its ends. -/
theorem isBlank_head?_trimBlanks {text : Text} {c : Char}
    (isFirst : (trimBlanks text).head? = some c) : isBlank c = false := by
  obtain ⟨back, shape, _⟩ := dropEndWhile_split isBlank (text.dropWhile isBlank)
  have split : text.dropWhile isBlank = trimBlanks text ++ back := shape
  have first : (text.dropWhile isBlank).head? = some c := by
    have nonempty : trimBlanks text ≠ [] := by
      intro empty
      simp [empty] at isFirst
    rw [split, List.head?_append_of_ne_nil _ nonempty]
    exact isFirst
  have visible := List.head?_dropWhile_not isBlank text
  rw [first] at visible
  exact visible

theorem isBlank_getLast?_trimBlanks {text : Text} {c : Char}
    (isLast : (trimBlanks text).getLast? = some c) : isBlank c = false := by
  rw [trimBlanks, dropEndWhile, List.getLast?_reverse] at isLast
  have visible := List.head?_dropWhile_not isBlank (text.dropWhile isBlank).reverse
  rw [isLast] at visible
  exact visible

end MarkdownDialect.Text
