import MarkdownDialect.Proofs.Path
import Mathlib.Data.List.DropRight

/-!
# Parents and names

The parent of a path is trimmed: it ends with a component that counts, or with nothing behind its
root or its leading dot. A name that is joined to such a directory makes a path with this parent and
this file name. Paths are compared by the components that count, and so are their file names.
-/

namespace MarkdownDialect

open Text

namespace Path

/-! ## Paths that are written -/

/-- What a path begins with, if components follow. -/
def Base.lead : Base → Text
  | .root => ['/']
  | .dot => ['.', '/']
  | .nothing => []

namespace Parts

/-- Components that are read again from the path that is written with them. -/
structure IsLegible (parts : Parts) : Prop where
  noSlash : ∀ component ∈ parts.components, '/' ∉ component
  begins : parts.base = .nothing → ∀ first ∈ parts.components.head?, counts first = true

/-- Nothing stands behind the last component that counts. -/
structure IsTrimmed (parts : Parts) : Prop extends parts.IsLegible where
  ends : ∀ last ∈ parts.components.getLast?, counts last = true

variable {parts : Parts}

theorem text_eq (nonempty : parts.components ≠ []) :
    parts.text = parts.base.lead ++ joinWith ['/'] parts.components := by
  cases parts with
  | mk base components =>
      cases base with
      | root => rfl
      | dot => simpa [text, Base.lead, currentName] using nonempty
      | nothing => rfl

theorem IsLegible.of_prefix (legible : parts.IsLegible) {front : List Text}
    (isFront : front <+: parts.components) :
    IsLegible { parts with components := front } where
  noSlash := fun component member => legible.noSlash component (isFront.subset member)
  begins := by
    intro noBase first isFirst
    apply legible.begins noBase
    obtain ⟨back, split⟩ := isFront
    cases front with
    | nil => exact absurd isFirst (by simp)
    | cons next others =>
        rw [← split]
        exact isFirst

end Parts

theorem counts_iff {component : Text} :
    counts component = true ↔ component ≠ [] ∧ component ≠ currentName := by
  simp [counts]

@[simp]
theorem parts_slash_cons (rest : Text) :
    Path.parts ('/' :: rest) = ⟨.root, splitOn '/' rest⟩ := rfl

theorem parts_of_first {path : Path} {first : Text} {rest : List Text}
    (pieces : splitOn '/' path = first :: rest) (nonempty : first ≠ []) :
    path.parts =
      if first = currentName then ⟨.dot, rest⟩ else ⟨.nothing, first :: rest⟩ := by
  unfold parts
  split
  · next body =>
      have firstEmpty : splitOn '/' ('/' :: body) = [] :: splitOn '/' body := by
        simp [splitOn]
      rw [firstEmpty] at pieces
      exact absurd (List.cons.inj pieces).1.symm nonempty
  · rw [pieces]
    by_cases isDot : first = currentName
    · rw [if_pos isDot, isDot]
      rfl
    · rw [if_neg isDot]
      split
      · next same => exact absurd (List.cons.inj same).1 isDot
      · rfl

theorem exists_splitOn_cons {separator c : Char} (different : c ≠ separator) (rest : Text) :
    ∃ piece pieces, splitOn separator (c :: rest) = (c :: piece) :: pieces := by
  rw [splitOn, if_neg different]
  cases splitOn separator rest with
  | nil => exact ⟨[], [], rfl⟩
  | cons piece pieces => exact ⟨piece, pieces, rfl⟩

theorem isLegible_parts {path : Path} (nonempty : path ≠ []) : path.parts.IsLegible := by
  cases path with
  | nil => exact absurd rfl nonempty
  | cons c rest =>
      by_cases slash : c = '/'
      · rw [slash, parts_slash_cons]
        exact ⟨fun _ member => not_mem_of_mem_splitOn member, fun noBase => absurd noBase (by simp)⟩
      · obtain ⟨piece, pieces, split⟩ := exists_splitOn_cons slash rest
        have noSlash : ∀ component ∈ (c :: piece) :: pieces, '/' ∉ component := by
          intro component member
          exact not_mem_of_mem_splitOn (split ▸ member)
        rw [parts_of_first split (by simp)]
        by_cases isDot : c :: piece = currentName
        · rw [if_pos isDot]
          exact ⟨fun component member => noSlash component (List.mem_cons_of_mem _ member),
            fun noBase => absurd noBase (by simp)⟩
        · rw [if_neg isDot]
          exact ⟨noSlash, fun _ => by simp [counts_iff, isDot]⟩

/-- A path that is written with components is read as these components. -/
private theorem parts_text {parts : Parts} (legible : parts.IsLegible)
    (nonempty : parts.components ≠ []) : Path.parts parts.text = parts := by
  have split : splitOn '/' (joinWith ['/'] parts.components) = parts.components :=
    splitOn_joinWith legible.noSlash nonempty
  rw [Parts.text_eq nonempty]
  cases parts with
  | mk base components =>
      cases base with
      | root => rw [Base.lead, List.singleton_append, parts_slash_cons, split]
      | dot =>
          have pieces : splitOn '/' (currentName ++ '/' :: joinWith ['/'] components) =
              currentName :: components := by
            rw [splitOn_append_cons, splitOn_of_not_mem (by decide), split]
            rfl
          exact (parts_of_first pieces (by decide)).trans (if_pos rfl)
      | nothing =>
          cases components with
          | nil => exact absurd rfl nonempty
          | cons first rest =>
              have counted := counts_iff.mp (legible.begins rfl first rfl)
              exact (parts_of_first split counted.1).trans (if_neg counted.2)

/-! ## Joining -/

private theorem getLast?_joinWith {components : List Text} {last : Text}
    (isLast : components.getLast? = some last) (nonempty : last ≠ []) :
    (joinWith ['/'] components).getLast? = last.getLast? := by
  obtain ⟨front, rfl⟩ := List.getLast?_eq_some_iff.mp isLast
  by_cases alone : front = []
  · simp [alone, joinWith]
  · rw [joinWith_append alone (by simp), ← List.append_assoc]
    simp only [joinWith, List.intercalate_singleton]
    exact List.getLast?_append_of_ne_nil _ nonempty

private theorem join_of_getLast? {directory : Path} {last : Char}
    (isLast : directory.getLast? = some last)
    (noSlash : last ≠ '/') (name : Text) : join directory name = directory ++ '/' :: name := by
  unfold join
  rw [isLast]
  exact if_neg noSlash

/-- A name that is joined comes last among the components. -/
private theorem join_text {parts : Parts} (trimmed : parts.IsTrimmed) (name : Text) :
    join parts.text name = Parts.text { parts with components := parts.components ++ [name] } := by
  have extended : Parts.text { parts with components := parts.components ++ [name] } =
      parts.base.lead ++ joinWith ['/'] (parts.components ++ [name]) :=
    Parts.text_eq (by simp)
  rw [extended]
  -- Without components the directory is a root, a leading dot or empty, and each is joined in its
  -- own way; with components it ends in the last of them, which holds no slash.
  cases final : parts.components.getLast? with
  | none =>
      cases parts with
      | mk base components =>
          obtain rfl := List.getLast?_eq_none_iff.mp final
          cases base <;> simp [join, Parts.text, Base.lead, joinWith, currentName]
  | some last =>
      have nonempty : parts.components ≠ [] := by
        intro empty
        simp [empty] at final
      have counted := counts_iff.mp (trimmed.ends last final)
      have textEnds : parts.text.getLast? = some (last.getLast counted.1) := by
        rw [Parts.text_eq nonempty, List.getLast?_append, getLast?_joinWith final counted.1,
          List.getLast?_eq_some_getLast counted.1]
        rfl
      have noSlash : last.getLast counted.1 ≠ '/' := by
        intro slash
        exact trimmed.noSlash last (List.mem_of_getLast? final)
          (slash ▸ List.getLast_mem counted.1)
      rw [join_of_getLast? textEnds noSlash, Parts.text_eq nonempty,
        joinWith_append nonempty (by simp), List.append_assoc]
      simp [joinWith]

private theorem parts_join {parts : Parts} (trimmed : parts.IsTrimmed) {name : Text}
    (noSlash : '/' ∉ name) (counted : counts name = true) :
    Path.parts (join parts.text name) =
      { parts with components := parts.components ++ [name] } := by
  rw [join_text trimmed]
  apply parts_text
  · constructor
    · intro component member
      rcases List.mem_append.mp member with isOld | isNew
      · exact trimmed.noSlash component isOld
      · rwa [List.mem_singleton.mp isNew]
    · intro noBase first isFirst
      cases components : parts.components with
      | nil =>
          rw [components] at isFirst
          obtain rfl : name = first := by simpa using isFirst
          exact counted
      | cons next others =>
          rw [components] at isFirst
          exact trimmed.begins noBase first (by rw [components]; exact isFirst)
  · simp

/-! ## Trimming -/

namespace Parts

variable {parts : Parts}

theorem trimmed_eq_rdropWhile (parts : Parts) :
    parts.trimmed =
      { parts with components := parts.components.rdropWhile fun component => !counts component } :=
  rfl

/-- The last component that counts comes last when a path is trimmed. -/
theorem getLast?_trimmed (parts : Parts) :
    parts.trimmed.components.getLast? = (parts.components.filter counts).getLast? := by
  rw [trimmed, List.getLast?_reverse, List.getLast?_filter, List.find?_eq_head?_dropWhile_not]

private theorem isTrimmed_trimmed (legible : parts.IsLegible) : parts.trimmed.IsTrimmed where
  toIsLegible := legible.of_prefix (List.rdropWhile_prefix _ _)
  ends := by
    intro last isLast
    rw [getLast?_trimmed] at isLast
    exact (List.mem_filter.mp (List.mem_of_getLast? isLast)).2

theorem IsTrimmed.trimmed_eq (isTrimmed : parts.IsTrimmed) : parts.trimmed = parts := by
  have unchanged : parts.components.rdropWhile (fun component => !counts component) =
      parts.components := by
    rw [List.rdropWhile_eq_self_iff]
    intro nonempty
    have counted := isTrimmed.ends _ (List.getLast?_eq_some_getLast nonempty)
    simpa using counted
  rw [trimmed_eq_rdropWhile, unchanged]

private theorem trimmed_concat {name : Text} (counted : counts name = true) (parts : Parts) :
    trimmed { parts with components := parts.components ++ [name] } =
      { parts with components := parts.components ++ [name] } := by
  rw [trimmed_eq_rdropWhile, List.rdropWhile_concat_neg]
  simpa using counted

end Parts

/-! ## Parents and names of joined paths -/

section Joined

variable {parts : Parts} {name : Text}

theorem parent?_join (isTrimmed : parts.IsTrimmed) (noSlash : '/' ∉ name)
    (counted : counts name = true) : Path.parent? (join parts.text name) = some parts.text := by
  unfold parent?
  rw [parts_join isTrimmed noSlash counted, Parts.trimmed_concat counted]
  simp [isTrimmed.trimmed_eq]

theorem fileName?_join (directory : Path) (noSlash : '/' ∉ name) (counted : counts name = true)
    (noDots : name ≠ parentName) : Path.fileName? (join directory name) = some name := by
  have named := counts_iff.mp counted
  exact fileName?_eq_some (getLast?_splitOn_join directory noSlash) named.1 named.2 noDots

end Joined

/-- A parent is trimmed, and so is the empty path that stands in for a missing one. -/
theorem exists_isTrimmed_parent (path : Path) :
    ∃ parts : Parts, parts.IsTrimmed ∧ path.parent?.getD [] = parts.text := by
  have emptyTrimmed : Parts.IsTrimmed ⟨.nothing, []⟩ :=
    ⟨⟨by simp, by simp⟩, by simp⟩
  by_cases empty : path = []
  · exact ⟨⟨.nothing, []⟩, emptyTrimmed, by rw [empty]; rfl⟩
  · have legible := isLegible_parts empty
    have trimmed := Parts.isTrimmed_trimmed legible
    unfold parent?
    by_cases bare : path.parts.trimmed.components.isEmpty
    · refine ⟨⟨.nothing, []⟩, emptyTrimmed, ?_⟩
      simp only [bare, if_true]
      split
      · rfl
      · rfl
    · simp only [bare]
      exact ⟨_, Parts.isTrimmed_trimmed (trimmed.of_prefix (List.dropLast_prefix _)), rfl⟩

/-! ## Comparing paths -/

/-- The parts by which paths are compared. -/
def Parts.counted (parts : Parts) : Parts :=
  { parts with components := parts.components.filter counts }

/-- Whether two paths are the same but for empty components and dots. -/
def SameAs (path other : Path) : Prop :=
  path.parts.counted = other.parts.counted

theorem fileName?_eq (path : Path) :
    path.fileName? = path.parts.counted.components.getLast?.filter (· != parentName) := by
  rw [fileName?, Parts.getLast?_trimmed]
  rfl

theorem SameAs.fileName?_eq {path other : Path} (same : SameAs path other) :
    path.fileName? = other.fileName? := by
  rw [Path.fileName?_eq, Path.fileName?_eq, same]

end Path

end MarkdownDialect
