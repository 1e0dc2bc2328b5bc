import MarkdownDialect.Proofs.Lookup
import MarkdownDialect.Proofs.Palette
import MarkdownDialect.Settings

/-!
# What overrides do to a palette

The entries of a palette behave as a map from names in lower case: of the overrides whose names
differ only in letter case and in the white space around them, the last one counts. The order of
the overrides is therefore seen exactly where two such overrides have different values.
-/

namespace MarkdownDialect

open Text

namespace Palette

/-- The name under which an override is entered. -/
def key (entry : Text × Text) : Text :=
  toLower (trim entry.1)

private theorem lookup_setEntry (name value wanted : Text) (entries : List (Text × Text)) :
    (setEntry name value entries).lookup wanted =
      if wanted = name then some value else entries.lookup wanted := by
  have written := valueOf_of_writes (setEntry name value) rfl (fun _ _ => rfl) entries
  have atWanted := congrFun written wanted
  rwa [Function.update_apply] at atWanted

@[simp]
theorem find?_override (palette : Palette) (entry : Text × Text) (name : Text) :
    (palette.override entry.1 entry.2).find? name =
      if toLower name = key entry then some (trim entry.2) else palette.find? name :=
  lookup_setEntry (key entry) (trim entry.2) (toLower name) palette.entries

theorem withOverrides_concat (earlier : List (Text × Text)) (entry : Text × Text) :
    withOverrides (earlier ++ [entry]) =
      (withOverrides earlier).override entry.1 entry.2 := by
  simp only [withOverrides, List.foldl_append, List.foldl_cons, List.foldl_nil]

/-- The last override of a name decides; without one, the standard palette does. -/
theorem find?_withOverrides (overrides : List (Text × Text)) (name : Text) :
    (withOverrides overrides).find? name =
      match (overrides.filter fun entry => key entry = toLower name).getLast? with
      | some entry => some (trim entry.2)
      | none => standard.find? name := by
  induction overrides using List.reverseRecOn with
  | nil => rfl
  | append_singleton earlier entry inductionHypothesis =>
      rw [withOverrides_concat, find?_override, List.filter_append]
      by_cases same : key entry = toLower name
      · simp [same]
      · simp [same, Ne.symm same, inductionHypothesis]

private theorem resolve_of_last_override (earlier : List (Text × Text)) {entry : Text × Text}
    {name : Text} (same : toLower name = key entry) :
    (withOverrides (earlier ++ [entry])).resolve name = trim entry.2 := by
  rw [resolve, withOverrides_concat, find?_override, if_pos same, Option.getD_some]

/-! ## The order of the overrides -/

/-- Overrides of the same name have the same value. -/
def Agree (overrides : List (Text × Text)) : Prop :=
  ∀ entry ∈ overrides, ∀ other ∈ overrides, key entry = key other → trim entry.2 = trim other.2

/-- No name is resolved differently when the overrides come in another order. -/
def IgnoresOrder (overrides : List (Text × Text)) : Prop :=
  ∀ first second : List (Text × Text), first.Perm overrides → second.Perm overrides →
    ∀ name, (withOverrides first).resolve name = (withOverrides second).resolve name

private theorem find?_of_perm {first second : List (Text × Text)} (agree : Agree first)
    (reordered : second.Perm first) (name : Text) :
    (withOverrides first).find? name = (withOverrides second).find? name := by
  have sameMatches :
      (second.filter fun entry => key entry = toLower name).Perm
        (first.filter fun entry => key entry = toLower name) :=
    reordered.filter _
  rw [find?_withOverrides, find?_withOverrides]
  cases firstLast : (first.filter fun entry => key entry = toLower name).getLast? with
  | none =>
      have nothing := sameMatches
      rw [List.getLast?_eq_none_iff.mp firstLast, List.perm_nil] at nothing
      rw [nothing]
      rfl
  | some entry =>
      cases secondLast : (second.filter fun entry => key entry = toLower name).getLast? with
      | none =>
          have nothing := sameMatches.symm
          rw [List.getLast?_eq_none_iff.mp secondLast, List.perm_nil] at nothing
          rw [nothing] at firstLast
          exact absurd firstLast (by simp)
      | some other =>
          have entryMatches := List.mem_filter.mp (List.mem_of_getLast? firstLast)
          have otherMatches :=
            List.mem_filter.mp (sameMatches.mem_iff.mp (List.mem_of_getLast? secondLast))
          have sameName : key entry = key other :=
            (of_decide_eq_true entryMatches.2).trans (of_decide_eq_true otherMatches.2).symm
          have sameValue := agree entry entryMatches.1 other otherMatches.1 sameName
          exact congrArg some sameValue

private theorem agree_of_perm {first second : List (Text × Text)} (agree : Agree first)
    (reordered : second.Perm first) : Agree second := by
  intro entry entryMember other otherMember sameName
  exact agree entry (reordered.mem_iff.mp entryMember) other (reordered.mem_iff.mp otherMember)
    sameName

/-- Two overrides of one name show their order: whichever comes last is the one that counts. -/
private theorem agree_of_ignoresOrder {overrides : List (Text × Text)}
    (ignoresOrder : IgnoresOrder overrides) : Agree overrides := by
  intro entry entryMember other otherMember sameName
  have moved : ∀ last ∈ overrides, (overrides.erase last ++ [last]).Perm overrides := by
    intro last member
    exact (List.perm_append_singleton last (overrides.erase last)).trans
      (List.perm_cons_erase member).symm
  have entryLast :
      (withOverrides (overrides.erase entry ++ [entry])).resolve (trim entry.1) = trim entry.2 :=
    resolve_of_last_override _ rfl
  have otherLast :
      (withOverrides (overrides.erase other ++ [other])).resolve (trim entry.1) = trim other.2 :=
    resolve_of_last_override _ sameName
  rw [← entryLast, ← otherLast]
  exact ignoresOrder _ _ (moved entry entryMember) (moved other otherMember) (trim entry.1)

end Palette

namespace Settings

/-- The order in which the configured colours are entered is seen nowhere exactly if no two of them
have the same name, but for letter case and white space around it, and different values. -/
theorem palette_ignores_order_iff (settings : Settings) :
    Palette.IgnoresOrder settings.colors ↔ Palette.Agree settings.colors := by
  constructor
  · exact Palette.agree_of_ignoresOrder
  · intro agree first second firstReordered secondReordered name
    have agreeFirst := Palette.agree_of_perm agree firstReordered
    have reordered : second.Perm first := secondReordered.trans firstReordered.symm
    rw [Palette.resolve, Palette.find?_of_perm agreeFirst reordered, ← Palette.resolve]

/-- Two spellings of one name are accepted, and then the order decides. -/
theorem palette_depends_on_order_of_spellings :
    ¬ ∀ (text : Text) (settings : Settings), ofJson text = .ok settings →
      Palette.IgnoresOrder settings.colors := by
  intro allIgnore
  have accepted : ofJson "\x7b\"colors\":\x7b\"x\":\"#1\",\"X\":\"#2\"\x7d\x7d".toList =
      .ok { colors := [("x".toList, "#1".toList), ("X".toList, "#2".toList)] } := by
    cbv
  have ignores := allIgnore _ _ accepted
  have swapped : [("X".toList, "#2".toList), ("x".toList, "#1".toList)].Perm
      [("x".toList, "#1".toList), ("X".toList, "#2".toList)] :=
    List.Perm.swap _ _ _
  exact absurd (ignores _ _ swapped (List.Perm.refl _) "x".toList) (by decide +kernel)

end Settings

end MarkdownDialect
