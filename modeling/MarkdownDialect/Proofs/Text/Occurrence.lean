import MarkdownDialect.Text.Basic
import Mathlib.Data.List.Infix

/-!
# Occurrences

Where one text stands in another: at its front, at its end, or at the first place where it occurs.
-/

namespace MarkdownDialect.Text

/-! ## Fronts and ends -/

@[simp]
theorem isPrefixOf?_append (needle after : Text) :
    needle.isPrefixOf? (needle ++ after) = some after := by
  induction needle with
  | nil => rfl
  | cons c rest inductionHypothesis =>
      simp [List.isPrefixOf?, inductionHypothesis]

theorem eq_append_of_isPrefixOf? :
    ∀ {needle text after : Text},
      needle.isPrefixOf? text = some after → text = needle ++ after
  | [], text, after, found => by
      simpa [List.isPrefixOf?] using found
  | c :: rest, [], after, found => by
      simp [List.isPrefixOf?] at found
  | c :: rest, d :: others, after, found => by
      simp only [List.isPrefixOf?, beq_iff_eq] at found
      split at found
      · next same =>
          rw [same, List.cons_append, eq_append_of_isPrefixOf? found]
      · simp at found

theorem isPrefixOf?_eq_some_iff {needle text after : Text} :
    needle.isPrefixOf? text = some after ↔ text = needle ++ after := by
  constructor
  · exact eq_append_of_isPrefixOf?
  · rintro rfl
    exact isPrefixOf?_append needle after

theorem isPrefixOf?_eq_none_iff {needle text : Text} :
    needle.isPrefixOf? text = none ↔ ∀ after, text ≠ needle ++ after := by
  rw [Option.eq_none_iff_forall_not_mem]
  exact forall_congr' fun after => not_congr isPrefixOf?_eq_some_iff

theorem isSuffixOf?_eq_some_iff {ending text front : Text} :
    ending.isSuffixOf? text = some front ↔ text = front ++ ending := by
  unfold List.isSuffixOf?
  rw [Option.map_eq_some_iff]
  constructor
  · rintro ⟨reversed, found, rfl⟩
    rw [isPrefixOf?_eq_some_iff] at found
    rw [← List.reverse_reverse text, found, List.reverse_append, List.reverse_reverse]
  · rintro rfl
    exact ⟨front.reverse, by simp, by simp⟩

theorem isSuffixOf?_eq_none_iff {ending text : Text} :
    ending.isSuffixOf? text = none ↔ ∀ front, text ≠ front ++ ending := by
  rw [Option.eq_none_iff_forall_not_mem]
  exact forall_congr' fun front => not_congr isSuffixOf?_eq_some_iff

/-- A character that the needle does not hold ends the search in the text before it. -/
theorem isPrefixOf?_append_cons {c : Char} (back : Text) :
    ∀ {needle : Text} (front : Text), c ∉ needle →
      needle.isPrefixOf? (front ++ c :: back) =
        (needle.isPrefixOf? front).map fun after => after ++ c :: back
  | [], front, _ => rfl
  | d :: rest, [], absent => by
      have different : d ≠ c := fun equal => absent (equal ▸ List.mem_cons_self)
      simp [List.isPrefixOf?, different]
  | d :: rest, e :: others, absent => by
      by_cases same : d = e
      · have absentInRest : c ∉ rest := fun member => absent (List.mem_cons_of_mem d member)
        simp [List.isPrefixOf?, same, isPrefixOf?_append_cons back others absentInRest]
      · simp [List.isPrefixOf?, same]

/-- If neither of two texts begins the other, the first begins no text that begins with the
second. -/
theorem isPrefixOf?_append_eq_none {needle piece : Text} (notShorter : ¬needle <+: piece)
    (notLonger : ¬piece <+: needle) (rest : Text) : needle.isPrefixOf? (piece ++ rest) = none := by
  rw [isPrefixOf?_eq_none_iff]
  intro after split
  have needleBegins : needle <+: piece ++ rest := ⟨after, split.symm⟩
  rcases List.prefix_or_prefix_of_prefix needleBegins (List.prefix_append piece rest) with
    shorter | longer
  · exact notShorter shorter
  · exact notLonger longer

/-! ## Occurrences anywhere -/

theorem has_iff_isInfix {needle text : Text} : has needle text = true ↔ needle <:+: text := by
  induction text with
  | nil => rw [has, List.isEmpty_iff, List.infix_nil]
  | cons c rest inductionHypothesis =>
      rw [has, Bool.or_eq_true, List.isPrefixOf_iff_prefix, inductionHypothesis,
        List.infix_cons_iff]

/-- A needle that begins before a character that can stand only at its front ends before it. -/
theorem isPrefix_of_isPrefix_append_cons {c d : Char} {name front back : Text}
    (notInName : d ∉ name) (nonempty : front ≠ []) (begins : c :: name <+: front ++ d :: back) :
    c :: name <+: front := by
  cases front with
  | nil => exact absurd rfl nonempty
  | cons e rest =>
      obtain ⟨after, isFront⟩ := begins
      obtain ⟨rfl, isRest⟩ := List.cons.inj isFront
      have found : name.isPrefixOf? (rest ++ d :: back) = some after :=
        isPrefixOf?_eq_some_iff.mpr isRest.symm
      rw [isPrefixOf?_append_cons back rest notInName, Option.map_eq_some_iff] at found
      obtain ⟨between, foundInRest, -⟩ := found
      rw [isPrefixOf?_eq_some_iff.mp foundInRest]
      exact ⟨between, rfl⟩

/-- A character that can stand only at the front of a needle cuts no occurrence in two. -/
theorem isInfix_append_cons {c d : Char} {name front back : Text} (notInName : d ∉ name)
    (occurs : c :: name <:+: front ++ d :: back) :
    c :: name <:+: front ∨ c :: name <:+: d :: back := by
  induction front with
  | nil => exact Or.inr occurs
  | cons e rest inductionHypothesis =>
      rw [List.cons_append, List.infix_cons_iff] at occurs
      rcases occurs with begins | inRest
      · left
        exact (isPrefix_of_isPrefix_append_cons notInName (List.cons_ne_nil e rest) begins).isInfix
      · rcases inductionHypothesis inRest with inFront | inBack
        · exact Or.inl (inFront.trans (List.suffix_cons e rest).isInfix)
        · exact Or.inr inBack

/-! ## The first occurrence -/

theorem breakOn_sound :
    ∀ {needle text before after : Text},
      breakOn needle text = some (before, after) → text = before ++ (needle ++ after)
  | needle, [], before, after, found => by
      rw [breakOn] at found
      split at found
      · next empty =>
          simp only [Option.some.injEq, Prod.mk.injEq] at found
          obtain ⟨rfl, rfl⟩ := found
          simpa using (List.isEmpty_iff.mp empty).symm
      · simp at found
  | needle, c :: rest, before, after, found => by
      rw [breakOn] at found
      split at found
      · next following isFront =>
          simp only [Option.some.injEq, Prod.mk.injEq] at found
          obtain ⟨rfl, rfl⟩ := found
          rw [List.nil_append]
          exact eq_append_of_isPrefixOf? isFront
      · simp only [Option.map_eq_some_iff, Prod.mk.injEq] at found
        obtain ⟨⟨shorter, following⟩, inRest, rfl, rfl⟩ := found
        rw [List.cons_append, ← breakOn_sound inRest]

/-- Where a text occurs, its first occurrence is found, and not behind the place at hand. -/
theorem breakOn_complete (needle front back : Text) :
    ∃ before after, breakOn needle (front ++ (needle ++ back)) = some (before, after) ∧
      before <+: front := by
  induction front with
  | nil =>
      cases whole : needle ++ back with
      | nil =>
          have empty : needle = [] := (List.append_eq_nil_iff.mp whole).1
          exact ⟨[], [], by simp [breakOn, empty], List.nil_prefix⟩
      | cons c rest =>
          have isFront : needle.isPrefixOf? (c :: rest) = some back := by
            rw [← whole, isPrefixOf?_append]
          exact ⟨[], back, by simp [breakOn, isFront], List.nil_prefix⟩
  | cons c rest inductionHypothesis =>
      rw [List.cons_append, breakOn]
      split
      · next following _ => exact ⟨[], following, rfl, List.nil_prefix⟩
      · obtain ⟨before, after, found, isPrefix⟩ := inductionHypothesis
        exact ⟨c :: before, after, by simp [found], (List.prefix_cons_inj c).mpr isPrefix⟩

/-- Nothing before the first occurrence is another one. -/
theorem not_isInfix_of_breakOn {needle text before after : Text} (nonempty : needle ≠ [])
    (found : breakOn needle text = some (before, after)) : ¬ needle <:+: before := by
  rintro ⟨front, back, split⟩
  have whole : text = front ++ (needle ++ (back ++ (needle ++ after))) := by
    rw [breakOn_sound found, ← split]
    simp only [List.append_assoc]
  obtain ⟨first, following, foundFirst, isPrefix⟩ :=
    breakOn_complete needle front (back ++ (needle ++ after))
  rw [← whole, found, Option.some.injEq, Prod.mk.injEq] at foundFirst
  have notLonger := isPrefix.length_le
  have positive : 0 < needle.length := List.length_pos_iff.mpr nonempty
  rw [← foundFirst.1, ← split] at notLonger
  simp only [List.length_append] at notLonger
  omega

/-- What stands before the first occurrence, if it lacks the needle's first character. -/
theorem breakOn_of_not_mem {c : Char} {needle front : Text} (back : Text) (absent : c ∉ front) :
    breakOn (c :: needle) (front ++ (c :: needle ++ back)) = some (front, back) := by
  induction front with
  | nil =>
      have atFront : (c :: needle).isPrefixOf? (c :: (needle ++ back)) = some back :=
        isPrefixOf?_append (c :: needle) back
      rw [List.nil_append, List.cons_append, breakOn, atFront]
  | cons d rest inductionHypothesis =>
      replace absent := List.ne_and_not_mem_of_not_mem_cons absent
      have notFront : (c :: needle).isPrefixOf? (d :: (rest ++ (c :: needle ++ back))) = none := by
        simp [List.isPrefixOf?, absent.1]
      rw [List.cons_append, breakOn, notFront, inductionHypothesis absent.2]
      rfl

/-- A single character is found at its first occurrence. -/
theorem breakOn_singleton_eq_some_iff {c : Char} {text before after : Text} :
    breakOn [c] text = some (before, after) ↔ text = before ++ c :: after ∧ c ∉ before := by
  constructor
  · intro found
    have split : text = before ++ c :: after := breakOn_sound found
    refine ⟨split, ?_⟩
    intro member
    obtain ⟨front, back, rfl, absent⟩ := List.eq_append_cons_of_mem member
    have earlier := @breakOn_of_not_mem c [] front (back ++ c :: after) absent
    have whole : text = front ++ ([c] ++ (back ++ c :: after)) := by
      rw [split]
      simp
    rw [← whole, found, Option.some.injEq, Prod.mk.injEq] at earlier
    have longer := congrArg List.length earlier.1
    simp at longer
  · intro ⟨split, absent⟩
    rw [split]
    exact breakOn_of_not_mem after absent

theorem breakOn_singleton_eq_none {c : Char} {text : Text} (absent : c ∉ text) :
    breakOn [c] text = none := by
  rw [Option.eq_none_iff_forall_ne_some]
  intro ⟨before, after⟩ found
  obtain ⟨rfl, -⟩ := breakOn_singleton_eq_some_iff.mp found
  simp at absent

theorem breakOnLast_append_cons {c : Char} {after : Text} (before : Text) (absent : c ∉ after) :
    breakOnLast c (before ++ c :: after) = some (before, after) := by
  have found : breakOn [c] (before ++ c :: after).reverse =
      some (after.reverse, before.reverse) := by
    rw [breakOn_singleton_eq_some_iff]
    exact ⟨by simp, by simpa using absent⟩
  rw [breakOnLast, found]
  simp

theorem breakOnLast_sound {c : Char} {text before after : Text}
    (found : breakOnLast c text = some (before, after)) : text = before ++ c :: after := by
  obtain ⟨⟨behind, front⟩, foundReversed, isCut⟩ := Option.map_eq_some_iff.mp found
  obtain ⟨rfl, rfl⟩ := Prod.mk.inj isCut
  have split := breakOn_sound foundReversed
  rw [← List.reverse_reverse text, split]
  simp

/-- The first occurrence of a needle that begins with a character of its own, so that no two
occurrences overlap. -/
theorem breakOn_of_not_isInfix {c : Char} {name front : Text} (single : c ∉ name)
    (absent : ¬c :: name <:+: front) (back : Text) :
    breakOn (c :: name) (front ++ (c :: name ++ back)) = some (front, back) := by
  induction front with
  | nil => exact breakOn_of_not_mem back List.not_mem_nil
  | cons d rest inductionHypothesis =>
      have absentInRest : ¬c :: name <:+: rest :=
        fun occurs => absent (occurs.trans (List.suffix_cons d rest).isInfix)
      have notFront : (c :: name).isPrefixOf? (d :: (rest ++ (c :: name ++ back))) = none := by
        rw [isPrefixOf?_eq_none_iff]
        intro after whole
        have split : (d :: rest) ++ (c :: name ++ back) = c :: name ++ after := whole
        rcases List.append_eq_append_iff.mp split with
          ⟨between, isNeedle, isRest⟩ | ⟨between, isFront, _⟩
        · cases between with
          | nil =>
              rw [List.append_nil] at isNeedle
              exact absent (isNeedle ▸ List.infix_refl _)
          | cons e others =>
              have isFirst : c = e := (List.cons.inj isRest).1
              have isName : name = rest ++ e :: others := (List.cons.inj isNeedle).2
              exact single (by simp [isName, isFirst])
        · exact absent ⟨[], between, by rw [List.nil_append, isFront]⟩
      rw [List.cons_append, breakOn, notFront, inductionHypothesis absentInRest]
      rfl

theorem removeFirst_of_not_isInfix {c : Char} {name front : Text} (single : c ∉ name)
    (absent : ¬c :: name <:+: front) (back : Text) :
    removeFirst (c :: name) (front ++ (c :: name ++ back)) = front ++ back := by
  rw [removeFirst, breakOn_of_not_isInfix single absent back]

end MarkdownDialect.Text
