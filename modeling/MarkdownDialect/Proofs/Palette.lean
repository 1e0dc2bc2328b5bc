import MarkdownDialect.Directive.Color
import MarkdownDialect.Proofs.Text.LetterCase
import MarkdownDialect.Proofs.Text.Trimming

/-!
# What a palette puts in place of a name

A name is replaced by the value of an entry or stands for itself. What the entries may hold decides
what a colour can bring into the HTML.
-/

namespace MarkdownDialect

open Text

namespace Palette

/-- No value of the palette holds a line feed. -/
def IsSingleLine (palette : Palette) : Prop :=
  ∀ entry ∈ palette.entries, '\n' ∉ entry.2

/-- No value of the palette holds a carriage return. -/
def HasNoReturns (palette : Palette) : Prop :=
  ∀ entry ∈ palette.entries, '\r' ∉ entry.2

/-- No name in the palette holds an angle bracket. -/
def HasPlainNames (palette : Palette) : Prop :=
  ∀ entry ∈ palette.entries, '<' ∉ entry.1

theorem standard_isSingleLine : standard.IsSingleLine := by
  unfold IsSingleLine
  decide

theorem standard_hasNoReturns : standard.HasNoReturns := by
  unfold HasNoReturns
  decide

theorem standard_hasPlainNames : standard.HasPlainNames := by
  unfold HasPlainNames
  decide

theorem mem_of_lookup_eq_some {entries : List (Text × Text)} {name value : Text}
    (found : entries.lookup name = some value) : (name, value) ∈ entries := by
  rw [List.lookup_eq_some_iff] at found
  obtain ⟨before, after, rfl, _⟩ := found
  exact List.mem_append_right before List.mem_cons_self

theorem resolve_cases (palette : Palette) (name : Text) :
    palette.resolve name = name ∨
      (toLower name, palette.resolve name) ∈ palette.entries := by
  unfold resolve find?
  cases found : palette.entries.lookup (toLower name) with
  | none => exact Or.inl rfl
  | some value => exact Or.inr (mem_of_lookup_eq_some found)

private theorem not_mem_resolve {palette : Palette} {c : Char}
    (absentInValues : ∀ entry ∈ palette.entries, c ∉ entry.2) {name : Text} (absent : c ∉ name) :
    c ∉ palette.resolve name := by
  rcases palette.resolve_cases name with same | member
  · rw [same]
    exact absent
  · exact absentInValues _ member

/-- A name with an angle bracket is in no plain palette and stands for itself. -/
private theorem count_le_count_resolve {palette : Palette} (plainNames : palette.HasPlainNames)
    (name : Text) : name.count '<' ≤ (palette.resolve name).count '<' := by
  rcases palette.resolve_cases name with same | member
  · rw [same]
  · have absent : '<' ∉ name := fun inName =>
      plainNames _ member (mem_toLower (by decide) (by decide) inName)
    rw [List.count_eq_zero.mpr absent]
    exact Nat.zero_le _

end Palette

namespace Color

theorem not_mem_css {palette : Palette} {c : Char}
    (absentInValues : ∀ entry ∈ palette.entries, c ∉ entry.2) {raw : Text} (absent : c ∉ raw) :
    c ∉ (ofText raw).css palette := by
  have absentTrimmed : c ∉ trim raw := fun member => absent (mem_of_mem_trim member)
  unfold ofText
  split
  · exact absentTrimmed
  · exact Palette.not_mem_resolve absentInValues absentTrimmed

theorem count_le_count_css {palette : Palette} (plainNames : palette.HasPlainNames)
    (raw : Text) : raw.count '<' ≤ ((ofText raw).css palette).count '<' := by
  rw [← count_trim (by decide) raw]
  unfold ofText
  split
  · exact Nat.le_refl _
  · exact Palette.count_le_count_resolve plainNames (trim raw)

end Color

end MarkdownDialect
