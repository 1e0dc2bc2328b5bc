import MarkdownDialect.Proofs.Text.Replacement
import MarkdownDialect.Text.Escape

/-!
# Escaped text

The replacements of the special characters, made one after the other, come to one pass over the
text.
-/

namespace MarkdownDialect.Text

theorem replaceAll_singleton (c : Char) (new text : Text) :
    replaceAll [c] new text = text.flatMap fun d => if d = c then new else [d] := by
  induction text with
  | nil => rfl
  | cons d rest inductionHypothesis =>
      rw [List.flatMap_cons, ← inductionHypothesis]
      by_cases same : d = c
      · have atFront : ([c].isPrefixOf? (d :: rest)).map (fun after => (new, after)) =
            some (new, rest) := by
          simp [List.isPrefixOf?, same]
        have advances := @advances_fixed [c] new (by simp)
        rw [if_pos same]
        exact replaceMatches_of_some advances atFront
      · have missing : ([c].isPrefixOf? (d :: rest)).map (fun after => (new, after)) = none := by
          have different : c ≠ d := fun equal => same equal.symm
          simp [List.isPrefixOf?, different]
        rw [if_neg same]
        exact replaceMatches_of_none missing

/-- What the replacements of a table make of a text, one after the other. -/
def substituteAll (table : List (Char × Text)) (text : Text) : Text :=
  table.foldl (fun replaced (c, new) => replaced.flatMap fun d => if d = c then new else [d]) text

private theorem substituteAll_eq_flatMap (table : List (Char × Text)) (text : Text) :
    substituteAll table text = text.flatMap fun c => substituteAll table [c] := by
  induction table generalizing text with
  | nil => exact (List.flatMap_singleton' text).symm
  | cons entry others inductionHypothesis =>
      unfold substituteAll at inductionHypothesis ⊢
      simp only [List.foldl_cons]
      rw [inductionHypothesis, List.flatMap_assoc]
      congr 1
      funext c
      rw [inductionHypothesis ([c].flatMap _), List.flatMap_singleton]

private theorem substituteAll_of_not_mem {table : List (Char × Text)} {c : Char}
    (absent : c ∉ table.map Prod.fst) : substituteAll table [c] = [c] := by
  induction table with
  | nil => rfl
  | cons entry others inductionHypothesis =>
      simp only [List.map_cons, List.mem_cons, not_or] at absent
      have unchanged := inductionHypothesis absent.2
      unfold substituteAll at unchanged ⊢
      simp only [List.foldl_cons, List.flatMap_singleton]
      rw [if_neg absent.1, unchanged]

private theorem escape_eq_substituteAll (text : Text) :
    escape text = substituteAll entities text := by
  unfold escape substituteAll
  simp only [replaceAll_singleton]

/-- What stands for a character in escaped text. -/
def entityOf (c : Char) : Text :=
  (entities.lookup c).getD [c]

theorem map_fst_entities : entities.map Prod.fst = ['&', '<', '>', '\x22', '\x27'] := rfl

theorem entityOf_eq_self {c : Char} (ordinary : c ∉ entities.map Prod.fst) :
    entityOf c = [c] := by
  have unknown : entities.lookup c = none := by
    rw [List.lookup_eq_none_iff]
    intro pair member
    have different : c ≠ pair.1 := by
      rintro rfl
      exact ordinary (List.mem_map_of_mem member)
    simpa using different
  rw [entityOf, unknown, Option.getD_none]

/-- The ampersand is replaced first, so no entity is replaced again. -/
private theorem substituteAll_entities (c : Char) : substituteAll entities [c] = entityOf c := by
  by_cases special : c ∈ entities.map Prod.fst
  · simp only [map_fst_entities, List.mem_cons, List.not_mem_nil, or_false] at special
    rcases special with rfl | rfl | rfl | rfl | rfl <;> decide
  · rw [substituteAll_of_not_mem special, entityOf_eq_self special]

theorem escape_eq_flatMap (text : Text) : escape text = text.flatMap entityOf := by
  rw [escape_eq_substituteAll, substituteAll_eq_flatMap]
  congr 1
  funext c
  exact substituteAll_entities c

theorem escape_eq_self {text : Text} (plain : ∀ c ∈ entities.map Prod.fst, c ∉ text) :
    escape text = text := by
  have unchanged : ∀ c ∈ text, entityOf c = [c] :=
    fun c member => entityOf_eq_self fun special => plain c special member
  rw [escape_eq_flatMap, List.flatMap_congr unchanged, List.flatMap_singleton']

private theorem not_mem_entityOf {special : Char} (isSpecial : special ∈ ['<', '>', '\x22', '\x27'])
    (c : Char) : special ∉ entityOf c := by
  by_cases replaced : c ∈ entities.map Prod.fst
  · have noneHolds : (entities.map Prod.fst).all fun d =>
        ['<', '>', '\x22', '\x27'].all fun e => e ∉ entityOf d := by
      decide
    simp only [List.all_eq_true, decide_eq_true_eq] at noneHolds
    exact noneHolds c replaced special isSpecial
  · rw [entityOf_eq_self replaced, List.mem_singleton]
    rintro rfl
    have allReplaced : ['<', '>', '\x22', '\x27'] ⊆ entities.map Prod.fst := by
      decide
    exact replaced (allReplaced isSpecial)

theorem not_mem_escape {special : Char} (isSpecial : special ∈ ['<', '>', '\x22', '\x27'])
    (text : Text) : special ∉ escape text := by
  rw [escape_eq_flatMap, List.mem_flatMap]
  intro ⟨c, _, inEntity⟩
  exact not_mem_entityOf isSpecial c inEntity

end MarkdownDialect.Text
