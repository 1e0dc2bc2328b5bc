import MarkdownDialect.Proofs.Palette.Overrides
import Mathlib.Data.Finset.Card

/-!
# What overrides leave of the standard palette

A palette holds every name once, whatever is written over it, so it grows by the names that the
overrides bring in. A name has the value of its last override, else the one that it has in the
standard palette, and else stands for itself.
-/

namespace MarkdownDialect

open Text

namespace Palette

def names (palette : Palette) : List Text :=
  palette.entries.map Prod.fst

def standardNames : List Text :=
  standardColors.map fun color => color.1.toList

/-- The value of a name in lower case that is not overridden. -/
def standardValue? (name : Text) : Option Text :=
  (standardColors.find? fun color => color.1.toList = name).map fun color => color.2.toList

@[simp]
theorem names_standard : standard.names = standardNames := by
  simp only [names, standard, standardNames, List.map_map]
  rfl

theorem nodup_standardNames : standardNames.Nodup := by
  decide

private theorem lookup_map_toList (colors : List (String × String)) (wanted : Text) :
    (colors.map fun (name, value) => (name.toList, value.toList)).lookup wanted =
      (colors.find? fun color => color.1.toList = wanted).map fun color => color.2.toList := by
  induction colors with
  | nil => rfl
  | cons color rest inductionHypothesis =>
      rw [List.map_cons, List.lookup_cons, inductionHypothesis]
      by_cases same : color.1.toList = wanted
      · simp [same]
      · have differs : (wanted == color.1.toList) = false :=
          beq_eq_false_iff_ne.mpr (Ne.symm same)
        simp [same, differs]

@[simp]
theorem find?_standard (name : Text) : standard.find? name = standardValue? (toLower name) :=
  lookup_map_toList standardColors (toLower name)

/-! ## The names of a palette -/

private theorem map_fst_setEntry (name value : Text) (entries : List (Text × Text)) :
    (setEntry name value entries).map Prod.fst =
      if name ∈ entries.map Prod.fst then entries.map Prod.fst
      else entries.map Prod.fst ++ [name] := by
  induction entries with
  | nil => rfl
  | cons entry rest inductionHypothesis =>
      rw [setEntry]
      by_cases same : entry.1 = name
      · simp [same]
      · rw [if_neg same, List.map_cons, inductionHypothesis]
        by_cases later : name ∈ rest.map Prod.fst
        · have known : name ∈ (entry :: rest).map Prod.fst := List.mem_cons_of_mem _ later
          rw [if_pos later, if_pos known, List.map_cons]
        · have absent : name ∉ (entry :: rest).map Prod.fst := by
            rw [List.map_cons, List.mem_cons, not_or]
            exact ⟨Ne.symm same, later⟩
          rw [if_neg later, if_neg absent, List.map_cons, List.cons_append]

theorem names_override (palette : Palette) (entry : Text × Text) :
    (palette.override entry.1 entry.2).names =
      if key entry ∈ palette.names then palette.names else palette.names ++ [key entry] :=
  map_fst_setEntry (key entry) (trim entry.2) palette.entries

private theorem nodup_names_override {palette : Palette} (nodup : palette.names.Nodup)
    (entry : Text × Text) : (palette.override entry.1 entry.2).names.Nodup := by
  rw [names_override]
  by_cases known : key entry ∈ palette.names
  · rwa [if_pos known]
  · rw [if_neg known, ← List.concat_eq_append]
    exact nodup.concat known

@[simp]
theorem mem_names_override {palette : Palette} {entry : Text × Text} {name : Text} :
    name ∈ (palette.override entry.1 entry.2).names ↔ name ∈ palette.names ∨ name = key entry := by
  rw [names_override]
  by_cases known : key entry ∈ palette.names
  · rw [if_pos known]
    constructor
    · exact Or.inl
    · rintro (member | rfl)
      · exact member
      · exact known
  · rw [if_neg known, List.mem_append, List.mem_singleton]

/-- However many overrides have the same name, the palette holds it once. -/
private theorem nodup_names_withOverrides (overrides : List (Text × Text)) :
    (withOverrides overrides).names.Nodup := by
  induction overrides using List.reverseRecOn with
  | nil =>
      have standardNodup := nodup_standardNames
      rwa [← names_standard] at standardNodup
  | append_singleton earlier entry inductionHypothesis =>
      rw [withOverrides_concat]
      exact nodup_names_override inductionHypothesis entry

theorem mem_names_withOverrides {overrides : List (Text × Text)} {name : Text} :
    name ∈ (withOverrides overrides).names ↔
      name ∈ overrides.map key ∨ name ∈ standardNames := by
  induction overrides using List.reverseRecOn with
  | nil =>
      rw [← names_standard, List.map_nil]
      exact (or_iff_right List.not_mem_nil).symm
  | append_singleton earlier entry inductionHypothesis =>
      rw [withOverrides_concat, mem_names_override, inductionHypothesis, List.map_append,
        List.mem_append, List.map_singleton, List.mem_singleton]
      exact or_right_comm

theorem contains_iff {palette : Palette} {name : Text} :
    palette.contains name = true ↔ toLower name ∈ palette.names := by
  rw [contains, find?, List.lookup_isSome_iff, names, List.mem_map]
  simp only [beq_iff_eq, @eq_comm _ (toLower name)]

/-- Every new name makes the palette larger by one. -/
private theorem size_withOverrides (overrides : List (Text × Text)) :
    (withOverrides overrides).size =
      standardColors.length + ((overrides.map key).toFinset \ standardNames.toFinset).card := by
  have namesSplit : (withOverrides overrides).names.toFinset =
      (overrides.map key).toFinset ∪ standardNames.toFinset := by
    ext name
    rw [List.mem_toFinset, mem_names_withOverrides, Finset.mem_union, List.mem_toFinset,
      List.mem_toFinset]
  calc
    (withOverrides overrides).size = (withOverrides overrides).names.length :=
      (List.length_map _).symm
    _ = (withOverrides overrides).names.toFinset.card :=
      (List.toFinset_card_of_nodup (nodup_names_withOverrides overrides)).symm
    _ = ((overrides.map key).toFinset \ standardNames.toFinset).card +
        standardNames.toFinset.card := by
      rw [namesSplit, Finset.card_sdiff_add_card]
    _ = standardColors.length +
        ((overrides.map key).toFinset \ standardNames.toFinset).card := by
      rw [List.toFinset_card_of_nodup nodup_standardNames, standardNames, List.length_map,
        Nat.add_comm]

/-- The override that was written last for a name, in any spelling. -/
def lastOverride? (overrides : List (Text × Text)) (name : Text) : Option (Text × Text) :=
  overrides.findRev? fun entry => key entry = toLower name

private theorem resolve_withOverrides (overrides : List (Text × Text)) (name : Text) :
    (withOverrides overrides).resolve name =
      match lastOverride? overrides name, standardValue? (toLower name) with
      | some entry, _ => trim entry.2
      | none, some value => value
      | none, none => name := by
  have isLast : (overrides.filter fun entry => key entry = toLower name).getLast? =
      lastOverride? overrides name := by
    rw [lastOverride?, List.findRev?_eq_find?_reverse, List.getLast?_filter]
  rw [resolve, find?_withOverrides, isLast, find?_standard]
  cases lastOverride? overrides name with
  | some entry => rfl
  | none =>
      cases standardValue? (toLower name) with
      | some value => rfl
      | none => rfl

/-- The last override of a name counts, in whatever letter case and with whatever white space around
it the name was written; then come the standard palette and the name itself. -/
theorem last_override_counts (overrides : List (Text × Text)) (name : Text) :
    ((withOverrides overrides).resolve name =
      match lastOverride? overrides name, standardValue? (toLower name) with
      | some entry, _ => trim entry.2
      | none, some value => value
      | none, none => name) ∧
    ((withOverrides overrides).contains name = true ↔
      (∃ entry ∈ overrides, key entry = toLower name) ∨
        ∃ color ∈ standardColors, color.1.toList = toLower name) ∧
    (withOverrides overrides).size =
      standardColors.length + ((overrides.map key).toFinset \ standardNames.toFinset).card := by
  refine ⟨resolve_withOverrides overrides name, ?_, size_withOverrides overrides⟩
  rw [contains_iff, mem_names_withOverrides, standardNames, List.mem_map, List.mem_map]

example :
    (withOverrides [("Sky".toList, "#1".toList), (" SKY ".toList, " #2 ".toList)]).resolve
      "sky".toList = "#2".toList := by
  cbv

end Palette

end MarkdownDialect
