import MarkdownDialect.Path
import MarkdownDialect.Proofs.Text.Lines

/-!
# The last name of a path

The file name of a path is what stands behind its last slash, wherever that is a name that a file
can have.
-/

namespace MarkdownDialect

open Text

namespace Path

theorem getLast?_splitOn_append_cons (separator : Char) (front back : Text) :
    (splitOn separator (front ++ separator :: back)).getLast? =
      (splitOn separator back).getLast? := by
  rw [splitOn_append_cons]
  exact List.getLast?_append_of_ne_nil _ (splitOn_ne_nil separator back)

/-- Something stands behind the last slash of a path that does not end with it. -/
theorem exists_last_piece {path : Path} (named : path ≠ [])
    (unslashed : ∀ front, path ≠ front ++ ['/']) :
    ∃ name, (splitOn '/' path).getLast? = some name ∧ name ≠ [] := by
  by_cases slash : '/' ∈ path
  · obtain ⟨after, before, split, absent⟩ :=
      List.eq_append_cons_of_mem (List.mem_reverse.mpr slash)
    have isPath : path = before.reverse ++ '/' :: after.reverse := by
      rw [← List.reverse_reverse path, split]
      simp
    have alone : splitOn '/' after.reverse = [after.reverse] :=
      splitOn_of_not_mem (by simpa using absent)
    refine ⟨after.reverse, ?_, ?_⟩
    · rw [isPath, getLast?_splitOn_append_cons, alone]
      rfl
    · intro nothing
      rw [nothing] at isPath
      exact unslashed before.reverse isPath
  · exact ⟨path, by rw [splitOn_of_not_mem slash]; rfl, named⟩

/-- What is joined to a directory is the last piece of the path. -/
theorem getLast?_splitOn_join (directory : Path) {name : Text} (noSlash : '/' ∉ name) :
    (splitOn '/' (join directory name)).getLast? = some name := by
  have alone : (splitOn '/' name).getLast? = some name := by
    rw [splitOn_of_not_mem noSlash]
    rfl
  unfold join
  cases final : directory.getLast? with
  | none => exact alone
  | some last =>
      dsimp only
      split
      · next isSlash =>
          obtain ⟨front, rfl⟩ : ∃ front, directory = front ++ ['/'] :=
            ⟨directory.dropLast, by rw [← isSlash, List.dropLast_append_getLast? _ final]⟩
          rw [List.append_assoc, List.singleton_append, getLast?_splitOn_append_cons, alone]
      · rw [getLast?_splitOn_append_cons, alone]

private theorem getLast?_components {path : Path} {name : Text}
    (last : (splitOn '/' path).getLast? = some name) (named : name ≠ [])
    (noDot : name ≠ currentName) : path.parts.components.getLast? = some name := by
  have ofRest : ∀ {first : Text} {rest : List Text}, first ≠ name →
      (first :: rest).getLast? = some name → rest.getLast? = some name := by
    intro first rest different isLast
    cases rest with
    | nil => exact absurd (by simpa using isLast) different
    | cons next others => simpa using isLast
  unfold parts
  split
  · next rest =>
      have pieces : splitOn '/' ('/' :: rest) = [] :: splitOn '/' rest := by
        simp [splitOn]
      rw [pieces] at last
      exact ofRest (Ne.symm named) last
  · split
    · next rest pieces =>
        rw [pieces] at last
        exact ofRest (Ne.symm noDot) last
    · exact last

/-- The last piece of a path is its file name, unless it counts for nothing or is two dots. -/
theorem fileName?_eq_some {path : Path} {name : Text}
    (last : (splitOn '/' path).getLast? = some name) (named : name ≠ [])
    (noDot : name ≠ currentName) (noDots : name ≠ parentName) : path.fileName? = some name := by
  have counted : counts name = true := by
    simp [counts, named, noDot]
  obtain ⟨front, split⟩ := List.getLast?_eq_some_iff.mp (getLast?_components last named noDot)
  have untrimmed : path.parts.trimmed.components = path.parts.components := by
    simp [Parts.trimmed, split, counted]
  rw [fileName?, untrimmed, split]
  simp [noDots]

end Path

end MarkdownDialect
