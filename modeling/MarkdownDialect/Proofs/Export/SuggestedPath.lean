import MarkdownDialect.Export.Format
import MarkdownDialect.Proofs.Path.Joining

/-!
# Where exports are put

The suggested path of an export stands beside its source and has the extension of its format. An
export of Markdown is told from its source by the file name: the stem of the source goes on in it.
-/

namespace MarkdownDialect

open Text

namespace Path

theorem splitName_append {stem extension : Text} (nonempty : stem ≠ []) (noDot : '.' ∉ extension) :
    splitName (stem ++ '.' :: extension) = (stem, some extension) := by
  unfold splitName
  rw [breakOnLast_append_cons stem noDot]
  cases stem with
  | nil => exact absurd rfl nonempty
  | cons c rest => rfl

/-- The stem of a name begins the name, and only an empty name has an empty stem. -/
theorem splitName_fst_cases (name : Text) :
    (splitName name).1 = name ∨ (splitName name).1 ≠ [] ∧ (splitName name).1 <+: name := by
  unfold splitName
  cases found : breakOnLast '.' name with
  | none => exact Or.inl rfl
  | some cut =>
      cases cut with
      | mk stem extension =>
          cases stem with
          | nil => exact Or.inl rfl
          | cons c rest =>
              right
              rw [breakOnLast_sound found]
              exact ⟨by simp, List.prefix_append _ _⟩

/-- A file name is a component of its path. -/
theorem fileName?_cases {path : Path} {name : Text} (isName : path.fileName? = some name) :
    '/' ∉ name ∧ counts name = true := by
  by_cases empty : path = []
  · have unnamed : Path.fileName? [] = none := by
      decide
    rw [empty, unnamed] at isName
    exact absurd isName (by simp)
  · rw [fileName?_eq, Option.filter_eq_some_iff] at isName
    have member := List.mem_filter.mp (List.mem_of_getLast? isName.1)
    exact ⟨(isLegible_parts empty).noSlash name member.1, member.2⟩

theorem stem?_cases {path : Path} {stem : Text} (isStem : path.stem? = some stem) :
    stem ≠ [] ∧ '/' ∉ stem := by
  obtain ⟨name, isName, rfl⟩ := Option.map_eq_some_iff.mp isStem
  have whole := fileName?_cases isName
  rcases splitName_fst_cases name with same | shorter
  · rw [same]
    exact ⟨(counts_iff.mp whole.2).1, whole.1⟩
  · exact ⟨shorter.1, fun slash => whole.1 (shorter.2.subset slash)⟩

end Path

namespace ExportFormat

/-- What stands before the extension in the name of an export. -/
def exportStem : ExportFormat → Text → Text
  | markdown, stem => stem ++ ".out".toList
  | html, stem => stem

theorem fileName_eq (format : ExportFormat) (stem : Text) :
    format.fileName stem = format.exportStem stem ++ '.' :: format.extension := by
  cases format with
  | markdown => simp [fileName, exportStem]
  | html => rfl

/-- The stem that a source lends to its exports. -/
def stemOf (source : Path) : Text :=
  source.stem?.getD defaultStem

theorem stemOf_cases (source : Path) : stemOf source ≠ [] ∧ '/' ∉ stemOf source := by
  unfold stemOf
  cases isStem : source.stem? with
  | none => decide
  | some stem => exact Path.stem?_cases isStem

section FileNames

variable (format : ExportFormat) {stem : Text}

theorem splitName_fileName (nonempty : stem ≠ []) :
    Path.splitName (format.fileName stem) = (format.exportStem stem, some format.extension) := by
  rw [fileName_eq]
  apply Path.splitName_append
  · cases format with
    | markdown => simp [exportStem]
    | html => exact nonempty
  · cases format <;> decide

theorem slash_not_mem_fileName (noSlash : '/' ∉ stem) : '/' ∉ format.fileName stem := by
  rw [fileName_eq]
  cases format <;> simp [exportStem, extension, noSlash]

/-- The name of an export is too long for a dot or two dots. -/
theorem isComponent_fileName (stem : Text) :
    Path.counts (format.fileName stem) = true ∧ format.fileName stem ≠ Path.parentName := by
  have long : 3 ≤ (format.fileName stem).length := by
    rw [fileName_eq, List.length_append]
    cases format <;> simp [extension]
  constructor
  · rw [Path.counts_iff]
    constructor
    · intro empty
      simp [empty] at long
    · intro isDot
      simp [isDot, Path.currentName] at long
  · intro isDots
    simp [isDots, Path.parentName] at long

end FileNames

@[simp]
theorem ofName_extension (format : ExportFormat) : ofName format.extension = .ok format := by
  cases format <;> decide +kernel

/-! ## Suggestions -/

theorem suggestedPath_eq (source : Path) (format : ExportFormat) :
    suggestedPath source format =
      Path.join (source.parent?.getD []) (format.fileName (stemOf source)) := rfl

@[simp]
theorem fileName?_suggestedPath (source : Path) (format : ExportFormat) :
    (suggestedPath source format).fileName? = some (format.fileName (stemOf source)) := by
  have isComponent := isComponent_fileName format (stemOf source)
  have noSlash := slash_not_mem_fileName format (stemOf_cases source).2
  exact Path.fileName?_join _ noSlash isComponent.1 isComponent.2

private theorem ofPath_suggestedPath (source : Path) (format : ExportFormat) :
    ofPath (suggestedPath source format) = .ok format := by
  have isExtension : (suggestedPath source format).extension? = some format.extension := by
    rw [Path.extension?, fileName?_suggestedPath, Option.bind_some,
      splitName_fileName format (stemOf_cases source).1]
  rw [ofPath, isExtension]
  exact ofName_extension format

@[simp]
theorem parent?_suggestedPath (source : Path) (format : ExportFormat) :
    (suggestedPath source format).parent? = some (source.parent?.getD []) := by
  obtain ⟨parts, isTrimmed, isParent⟩ := Path.exists_isTrimmed_parent source
  have isComponent := isComponent_fileName format (stemOf source)
  have noSlash := slash_not_mem_fileName format (stemOf_cases source).2
  rw [suggestedPath_eq, isParent]
  exact Path.parent?_join isTrimmed noSlash isComponent.1

/-- The stem of an export of Markdown is longer than that of its source. -/
private theorem not_sameAs_suggestedPath (source : Path) :
    ¬Path.SameAs (suggestedPath source markdown) source := by
  intro same
  have sameName := same.fileName?_eq
  rw [fileName?_suggestedPath] at sameName
  have isStem : source.stem? = some (markdown.exportStem (stemOf source)) := by
    rw [Path.stem?, ← sameName, Option.map_some,
      splitName_fileName markdown (stemOf_cases source).1]
  have grown : stemOf source = stemOf source ++ ".out".toList := by
    conv_lhs => rw [stemOf, isStem]
    rfl
  simp at grown

/-- A suggested path says by its extension which format it is for, stands in the directory of its
source, and does not take the place of a source of Markdown, however the two paths are spelled. -/
theorem suggested_paths_are_safe (source : Path) :
    (∀ format, ofPath (suggestedPath source format) = .ok format ∧
      (suggestedPath source format).parent? = some (source.parent?.getD [])) ∧
    ¬Path.SameAs (suggestedPath source markdown) source := by
  refine ⟨fun format => ?_, not_sameAs_suggestedPath source⟩
  exact ⟨ofPath_suggestedPath source format, parent?_suggestedPath source format⟩

example : suggestedPath "notes/..".toList html = "notes/document.html".toList := by
  decide

end ExportFormat

end MarkdownDialect
