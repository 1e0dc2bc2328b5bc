import Mathlib.Logic.Function.Basic

/-!
# Lookups in lists of entries

A list of entries is seen through the lookup of its keys, which is a function. Entries are written
and taken away by updates of this function.
-/

namespace MarkdownDialect

variable {Key Value : Type} [BEq Key] [LawfulBEq Key] [DecidableEq Key]

/-- The value of each key in a list of entries, of which the first one for a key counts. -/
def valueOf (entries : List (Key × Value)) (key : Key) : Option Value :=
  entries.lookup key

theorem valueOf_cons (entry : Key × Value) (rest : List (Key × Value)) :
    valueOf (entry :: rest) = Function.update (valueOf rest) entry.1 (some entry.2) := by
  funext key
  rw [Function.update_apply, valueOf, List.lookup_cons]
  by_cases same : key = entry.1
  · simp [same]
  · have differs : (key == entry.1) = false := beq_eq_false_iff_ne.mpr same
    rw [differs, if_neg same]
    rfl

/-- A function on lists that writes an entry over the one of the same key, or behind all others. -/
theorem valueOf_of_writes {key : Key} {value : Value}
    (write : List (Key × Value) → List (Key × Value)) (onNil : write [] = [(key, value)])
    (onCons : ∀ entry rest, write (entry :: rest) =
      if entry.1 = key then (key, value) :: rest else entry :: write rest)
    (entries : List (Key × Value)) :
    valueOf (write entries) = Function.update (valueOf entries) key (some value) := by
  induction entries with
  | nil => rw [onNil, valueOf_cons]
  | cons entry rest inductionHypothesis =>
      rw [onCons, valueOf_cons]
      by_cases same : entry.1 = key
      · rw [if_pos same, valueOf_cons, same, Function.update_idem]
      · rw [if_neg same, valueOf_cons, inductionHypothesis, Function.update_comm same]

theorem valueOf_filter_ne (key : Key) (entries : List (Key × Value)) :
    valueOf (entries.filter fun entry => entry.1 != key) =
      Function.update (valueOf entries) key none := by
  induction entries with
  | nil =>
      funext wanted
      simp [valueOf, Function.update_apply]
  | cons entry rest inductionHypothesis =>
      rw [valueOf_cons]
      by_cases same : entry.1 = key
      · rw [List.filter_cons_of_neg (by simp [same]), inductionHypothesis, same,
          Function.update_idem]
      · rw [List.filter_cons_of_pos (by simp [same]), valueOf_cons, inductionHypothesis,
          Function.update_comm same]

end MarkdownDialect
