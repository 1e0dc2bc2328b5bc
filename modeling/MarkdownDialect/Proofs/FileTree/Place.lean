import MarkdownDialect.FileTree.Access
import MarkdownDialect.Proofs.Lookup

/-!
# Places of files

A path leads to a place for a file if it can be followed to a directory and ends with a name that
is no directory there. What is read, written, moved or removed is told by the places that the paths
lead to, and these are told by the directories alone: no change of files makes a path lead
elsewhere.
-/

namespace MarkdownDialect

open Text

namespace FileTree

variable {tree other : FileTree}

/-! ## Contents -/

@[simp]
theorem content?_put (tree : FileTree) (location : Location) (content : Bytes) :
    (tree.put location content).content? =
      Function.update tree.content? location (some content) :=
  valueOf_of_writes (putContent location content) rfl (fun _ _ => rfl) tree.files

@[simp]
theorem content?_erase (tree : FileTree) (location : Location) :
    (tree.erase location).content? = Function.update tree.content? location none :=
  valueOf_filter_ne location tree.files

/-! ## Directories -/

/-- The trees differ at most in their files. -/
structure SameDirectories (tree other : FileTree) : Prop where
  directories : tree.directories = other.directories
  workingDirectory : tree.workingDirectory = other.workingDirectory

namespace SameDirectories

theorem refl (tree : FileTree) : SameDirectories tree tree :=
  ⟨rfl, rfl⟩

theorem symm (same : SameDirectories tree other) : SameDirectories other tree :=
  ⟨same.directories.symm, same.workingDirectory.symm⟩

theorem put (tree : FileTree) (location : Location) (content : Bytes) :
    SameDirectories tree (tree.put location content) :=
  ⟨rfl, rfl⟩

theorem isDirectory (same : SameDirectories tree other) (location : Location) :
    tree.isDirectory location = other.isDirectory location := by
  simp only [FileTree.isDirectory, same.directories]

end SameDirectories

theorem lookUp_eq_directory_iff {directory : Location} {name : Text} :
    tree.lookUp directory name = .ok (some .directory) ↔
      byteLength name ≤ nameLimit ∧ tree.isDirectory (directory ++ [name]) = true := by
  unfold lookUp entry?
  by_cases long : byteLength name > nameLimit
  · rw [if_pos long]
    simp [Nat.not_le.mpr long]
  · by_cases isDirectory : tree.isDirectory (directory ++ [name]) = true
    · simp [isDirectory, Nat.not_lt.mp long, long]
    · cases tree.content? (directory ++ [name]) <;>
        simp [isDirectory, long]

theorem enter_name_eq_ok_iff {directory next : Location} {name : Text}
    (noDot : name ≠ Path.currentName) (noDots : name ≠ Path.parentName) :
    tree.enter directory name = .ok next ↔
      tree.lookUp directory name = .ok (some .directory) ∧ directory ++ [name] = next := by
  rw [enter, if_neg noDot, if_neg noDots]
  cases tree.lookUp directory name with
  | error error => simp
  | ok entry => rcases entry with _ | ⟨content⟩ | _ <;> simp

namespace SameDirectories

/-- A directory is entered whatever files there are. -/
private theorem enter (same : SameDirectories tree other) {directory next : Location} {name : Text}
    (entered : tree.enter directory name = .ok next) : other.enter directory name = .ok next := by
  by_cases current : name = Path.currentName
  · rwa [FileTree.enter, if_pos current] at entered ⊢
  · by_cases parent : name = Path.parentName
    · rwa [FileTree.enter, if_neg current, if_pos parent] at entered ⊢
    · rw [enter_name_eq_ok_iff current parent, lookUp_eq_directory_iff] at entered ⊢
      rwa [← same.isDirectory]

private theorem follow (same : SameDirectories tree other) {last : Location} {names : List Text} :
    ∀ {directory : Location}, tree.follow directory names = .ok last →
      other.follow directory names = .ok last := by
  induction names with
  | nil =>
      intro directory followed
      exact followed
  | cons name rest inductionHypothesis =>
      intro directory followed
      rw [FileTree.follow] at followed ⊢
      cases entered : tree.enter directory name with
      | error error => simp [entered] at followed
      | ok next =>
          rw [entered] at followed
          rw [same.enter entered]
          exact inductionHypothesis followed

end SameDirectories

/-! ## Targets of paths -/

/-- The last name of a path, unless it leads to a directory of its own accord. -/
def lastName? (path : Path) : Option Text :=
  (names path).getLast?.filter fun name => name != Path.currentName && name != Path.parentName

/-- The names of a path that have to be those of directories. -/
def leadingNames (path : Path) : List Text :=
  if (lastName? path).isSome then (names path).dropLast else names path

theorem target_eq_ok_iff {path : Path} {target : Target} :
    tree.target path = .ok target ↔
      '\x00' ∉ path ∧ byteLength path ≤ pathLimit ∧ path ≠ [] ∧
        tree.follow (tree.start path) (leadingNames path) = .ok target.directory ∧
        target.name = lastName? path ∧ target.slashed = ['/'].isSuffixOf path := by
  obtain ⟨directory, name, slashed⟩ := target
  unfold FileTree.target
  by_cases noNul : '\x00' ∈ path
  · simp [noNul]
  · by_cases long : byteLength path > pathLimit
    · simp [noNul, long, Nat.not_le.mpr long]
    · by_cases empty : path = []
      · simp [empty, byteLength, Utf8.encode]
      · have short : byteLength path ≤ pathLimit := Nat.not_lt.mp long
        have isLeading : (if ((names path).getLast?.filter fun name =>
            name != Path.currentName && name != Path.parentName).isSome then
            (names path).dropLast else names path) = leadingNames path := rfl
        rw [if_neg (by simpa using noNul), if_neg long, if_neg (by simpa using empty)]
        dsimp only
        rw [isLeading]
        cases tree.follow (tree.start path) (leadingNames path) <;>
          simp [noNul, short, empty, lastName?, eq_comm]

private theorem SameDirectories.target (same : SameDirectories tree other) {path : Path}
    {target : Target} (found : tree.target path = .ok target) :
    other.target path = .ok target := by
  have sameStart : other.start path = tree.start path := by
    simp only [FileTree.start, same.workingDirectory]
  rw [target_eq_ok_iff] at found ⊢
  obtain ⟨noNul, short, named, followed, isTarget⟩ := found
  rw [sameStart]
  exact ⟨noNul, short, named, same.follow followed, isTarget⟩

/-! ## Places -/

/-- A target is the place of a file, whether there is one or not: it has a name, which is not too
long, no slash follows, and no directory is there. -/
structure IsPlace (tree : FileTree) (target : Target) : Prop where
  named : ∃ name, target.name = some name ∧ byteLength name ≤ nameLimit
  unslashed : target.slashed = false
  noDirectory : tree.isDirectory target.location = false

/-- A path leads to the place of a file. -/
def LeadsTo (tree : FileTree) (path : Path) (location : Location) : Prop :=
  ∃ target, tree.target path = .ok target ∧ tree.IsPlace target ∧ target.location = location

namespace LeadsTo

theorem unique {path : Path} {first second : Location} (toFirst : tree.LeadsTo path first)
    (toSecond : tree.LeadsTo path second) : first = second := by
  obtain ⟨firstTarget, firstFound, _, rfl⟩ := toFirst
  obtain ⟨secondTarget, secondFound, _, rfl⟩ := toSecond
  rw [firstFound] at secondFound
  cases secondFound
  rfl

theorem congr {path : Path} {location : Location} (leads : tree.LeadsTo path location)
    (same : SameDirectories tree other) : other.LeadsTo path location := by
  obtain ⟨target, found, isPlace, isLocation⟩ := leads
  have noDirectory := isPlace.noDirectory
  rw [same.isDirectory] at noDirectory
  exact ⟨target, same.target found, ⟨isPlace.named, isPlace.unslashed, noDirectory⟩, isLocation⟩

end LeadsTo

/-- What is found at the last name of a path: no place for a file, or the file at that place. -/
theorem lookUp_cases (tree : FileTree) {target : Target} {name : Text}
    (named : target.name = some name) :
    (¬tree.IsPlace target ∧ ∃ error, tree.lookUp target.directory name = .error error) ∨
      (¬tree.IsPlace target ∧ tree.lookUp target.directory name = .ok (some .directory)) ∨
      ((target.slashed = false → tree.IsPlace target) ∧
        tree.lookUp target.directory name =
          .ok ((tree.content? target.location).map .file)) := by
  have isLocation : target.location = target.directory ++ [name] := by
    simp [Target.location, named]
  by_cases long : byteLength name > nameLimit
  · refine Or.inl ⟨?_, .nameTooLong, by rw [lookUp, if_pos long]⟩
    intro isPlace
    obtain ⟨other, otherNamed, short⟩ := isPlace.named
    rw [named] at otherNamed
    cases otherNamed
    exact absurd short (Nat.not_le.mpr long)
  · right
    rw [lookUp, if_neg long, entry?, ← isLocation]
    by_cases isDirectory : tree.isDirectory target.location = true
    · refine Or.inl ⟨?_, by rw [if_pos isDirectory]⟩
      intro isPlace
      rw [isPlace.noDirectory] at isDirectory
      exact absurd isDirectory (by decide)
    · refine Or.inr ⟨fun unslashed => ?_, by rw [if_neg isDirectory]⟩
      exact ⟨⟨name, named, Nat.not_lt.mp long⟩, unslashed, by simpa using isDirectory⟩

theorem not_isPlace_of_unnamed {target : Target} (unnamed : target.name = none) :
    ¬tree.IsPlace target := by
  intro isPlace
  obtain ⟨name, named, _⟩ := isPlace.named
  rw [unnamed] at named
  exact absurd named (by simp)

theorem not_isPlace_of_slashed {target : Target} (slashed : target.slashed = true) :
    ¬tree.IsPlace target := by
  intro isPlace
  have unslashed := isPlace.unslashed
  rw [slashed] at unslashed
  exact absurd unslashed (by decide)

/-! ## What the operations do -/

theorem writable_eq_ok_iff {path : Path} {location : Location} :
    tree.writable path = .ok location ↔ tree.LeadsTo path location := by
  unfold writable LeadsTo
  cases found : tree.target path with
  | error error => simp
  | ok target =>
      dsimp only
      cases named : target.name with
      | none => simp [not_isPlace_of_unnamed named]
      | some name =>
          dsimp only
          by_cases slashed : target.slashed = true
          · simp [slashed, not_isPlace_of_slashed slashed]
          · have unslashed : target.slashed = false := by simpa using slashed
            rcases tree.lookUp_cases named with
              ⟨noPlace, error, failed⟩ | ⟨noPlace, failed⟩ | ⟨isPlace, lookedUp⟩
            · simp [unslashed, failed, noPlace]
            · simp [unslashed, failed, noPlace]
            · cases content : tree.content? target.location <;>
                simp [unslashed, lookedUp, isPlace unslashed, content]

theorem replaceable_eq_ok_iff {target : Target} {location : Location} :
    tree.replaceable target = .ok location ↔ tree.IsPlace target ∧ target.location = location := by
  unfold replaceable
  cases named : target.name with
  | none => simp [not_isPlace_of_unnamed named]
  | some name =>
      dsimp only
      rcases tree.lookUp_cases named with
        ⟨noPlace, error, failed⟩ | ⟨noPlace, failed⟩ | ⟨isPlace, lookedUp⟩
      · simp [failed, noPlace]
      · by_cases slashed : target.slashed = true <;> simp [slashed, failed, noPlace]
      · by_cases slashed : target.slashed = true
        · simp [slashed, lookedUp, not_isPlace_of_slashed slashed]
        · have unslashed : target.slashed = false := by simpa using slashed
          cases content : tree.content? target.location <;>
            simp [unslashed, lookedUp, isPlace unslashed, content]

theorem entryAt_eq_file_iff {target : Target} {content : Bytes} :
    tree.entryAt target = .ok (.file content) ↔
      tree.IsPlace target ∧ tree.content? target.location = some content := by
  unfold entryAt
  cases named : target.name with
  | none => simp [not_isPlace_of_unnamed named]
  | some name =>
      dsimp only
      rcases tree.lookUp_cases named with
        ⟨noPlace, error, failed⟩ | ⟨noPlace, failed⟩ | ⟨isPlace, lookedUp⟩
      · simp [failed, noPlace]
      · simp [failed, noPlace]
      · by_cases slashed : target.slashed = true
        · cases present : tree.content? target.location <;>
            simp [slashed, lookedUp, not_isPlace_of_slashed slashed, present]
        · have unslashed : target.slashed = false := by simpa using slashed
          cases present : tree.content? target.location <;>
            simp [unslashed, lookedUp, isPlace unslashed, present]

theorem movable_eq_ok_iff {target : Target} {location : Location} {content : Bytes} :
    tree.movable target = .ok (location, content) ↔
      tree.IsPlace target ∧ target.location = location ∧
        tree.content? location = some content := by
  have isFile : tree.movable target = .ok (location, content) ↔
      tree.entryAt target = .ok (.file content) ∧ target.location = location := by
    unfold movable
    cases tree.entryAt target with
    | error error => simp
    | ok entry => cases entry <;> simp [and_comm]
  rw [isFile, entryAt_eq_file_iff]
  constructor
  · rintro ⟨⟨isPlace, present⟩, rfl⟩
    exact ⟨isPlace, rfl, present⟩
  · rintro ⟨isPlace, rfl, present⟩
    exact ⟨⟨isPlace, present⟩, rfl⟩

theorem find_eq_file_iff {path : Path} {content : Bytes} :
    tree.find path = .ok (.file content) ↔
      ∃ location, tree.LeadsTo path location ∧ tree.content? location = some content := by
  rw [find]
  cases found : tree.target path with
  | error error => simp [LeadsTo, found]
  | ok target => simp [LeadsTo, found, entryAt_eq_file_iff, and_assoc]

theorem read_eq_ok_iff {path : Path} {content : Bytes} :
    tree.read path = .ok content ↔
      ∃ location, tree.LeadsTo path location ∧ tree.content? location = some content := by
  rw [← find_eq_file_iff, read]
  cases tree.find path with
  | error error => simp
  | ok entry => cases entry <;> simp

theorem write_eq_ok_iff {path : Path} {content : Bytes} {after : FileTree} :
    tree.write path content = .ok after ↔
      ∃ location, tree.LeadsTo path location ∧ tree.put location content = after := by
  simp only [← writable_eq_ok_iff, write]
  cases tree.writable path <;> simp

theorem move_eq_ok_iff {source target : Path} {after : FileTree} :
    tree.move source target = .ok after ↔
      ∃ old new content, tree.LeadsTo source old ∧ tree.content? old = some content ∧
        tree.LeadsTo target new ∧ (tree.erase old).put new content = after := by
  have steps : tree.move source target = .ok after ↔
      ∃ sourceTarget targetTarget old content new, tree.target source = .ok sourceTarget ∧
        tree.target target = .ok targetTarget ∧ tree.movable sourceTarget = .ok (old, content) ∧
        tree.replaceable targetTarget = .ok new ∧ (tree.erase old).put new content = after := by
    unfold move
    cases tree.target source with
    | error error => simp
    | ok sourceTarget =>
        cases tree.target target with
        | error error => simp
        | ok targetTarget =>
            cases moved : tree.movable sourceTarget with
            | error error => simp [moved]
            | ok found =>
                obtain ⟨old, content⟩ := found
                cases replaced : tree.replaceable targetTarget <;>
                  simp [moved, replaced, and_assoc]
  rw [steps]
  constructor
  · rintro ⟨sourceTarget, targetTarget, old, content, new, sourceFound, targetFound, moved,
      replaced, isAfter⟩
    obtain ⟨sourcePlace, isOld, present⟩ := movable_eq_ok_iff.mp moved
    obtain ⟨targetPlace, isNew⟩ := replaceable_eq_ok_iff.mp replaced
    exact ⟨old, new, content, ⟨sourceTarget, sourceFound, sourcePlace, isOld⟩, present,
      ⟨targetTarget, targetFound, targetPlace, isNew⟩, isAfter⟩
  · rintro ⟨old, new, content, ⟨sourceTarget, sourceFound, sourcePlace, isOld⟩, present,
      ⟨targetTarget, targetFound, targetPlace, isNew⟩, isAfter⟩
    exact ⟨sourceTarget, targetTarget, old, content, new, sourceFound, targetFound,
      movable_eq_ok_iff.mpr ⟨sourcePlace, isOld, present⟩,
      replaceable_eq_ok_iff.mpr ⟨targetPlace, isNew⟩, isAfter⟩

theorem remove_eq_ok_iff {path : Path} {after : FileTree} :
    tree.remove path = .ok after ↔
      ∃ location content, tree.LeadsTo path location ∧ tree.content? location = some content ∧
        tree.erase location = after := by
  have steps : tree.remove path = .ok after ↔
      ∃ target location content, tree.target path = .ok target ∧
        tree.movable target = .ok (location, content) ∧ tree.erase location = after := by
    unfold remove
    cases tree.target path with
    | error error => simp
    | ok target =>
        cases moved : tree.movable target with
        | error error => simp [moved]
        | ok found =>
            obtain ⟨location, content⟩ := found
            simp [moved]
  rw [steps]
  constructor
  · rintro ⟨target, location, content, found, moved, isAfter⟩
    obtain ⟨isPlace, isLocation, present⟩ := movable_eq_ok_iff.mp moved
    exact ⟨location, content, ⟨target, found, isPlace, isLocation⟩, present, isAfter⟩
  · rintro ⟨location, content, ⟨target, found, isPlace, isLocation⟩, present, isAfter⟩
    exact ⟨target, location, content, found,
      movable_eq_ok_iff.mpr ⟨isPlace, isLocation, present⟩, isAfter⟩

end FileTree

end MarkdownDialect
