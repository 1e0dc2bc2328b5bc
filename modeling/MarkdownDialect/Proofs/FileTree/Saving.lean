import MarkdownDialect.Export.Saving
import MarkdownDialect.Proofs.FileTree.Place
import MarkdownDialect.Proofs.Path
import MarkdownDialect.Proofs.Text.Number

/-!
# Saving is all or nothing

A save either puts its content in the place that its path leads to, or changes no file. Its
temporary file has a name of its own and is gone in either case.
-/

namespace MarkdownDialect

open Text

/-! ## Temporary names -/

private theorem slash_not_mem_temporaryName (stamp : Nat) {name : Text} (noSlash : '/' ∉ name) :
    '/' ∉ temporaryName stamp name := by
  have noSlashInStamp : '/' ∉ ofNat stamp := not_mem_ofNat (by decide) stamp
  simp [temporaryName, noSlash, noSlashInStamp]

private theorem temporaryName_ne (stamp : Nat) (name : Text) : temporaryName stamp name ≠ name := by
  intro same
  have lengths := congrArg List.length same
  simp only [temporaryName, List.length_cons, List.length_append] at lengths
  omega

namespace FileTree

/-- The name of a place is what stands behind the last slash of the path that leads there. -/
private theorem LeadsTo.last_name {tree : FileTree} {path : Path} {location : Location}
    (leads : tree.LeadsTo path location) :
    ∃ directory name, location = directory ++ [name] ∧
      (splitOn '/' path).getLast? = some name ∧ name ≠ [] ∧ name ≠ Path.currentName ∧
      name ≠ Path.parentName := by
  obtain ⟨target, found, isPlace, rfl⟩ := leads
  obtain ⟨name, isName, _⟩ := isPlace.named
  obtain ⟨_, _, named, _, isLast, isSlashed⟩ := target_eq_ok_iff.mp found
  rw [isName, lastName?, eq_comm, Option.filter_eq_some_iff] at isLast
  rw [isPlace.unslashed] at isSlashed
  obtain ⟨isLast, noDots⟩ := isLast
  simp only [Bool.and_eq_true, bne_iff_ne, ne_eq] at noDots
  have unslashed : ∀ front, path ≠ front ++ ['/'] := by
    rintro front rfl
    rw [List.isSuffixOf_iff_suffix.mpr (List.suffix_append front ['/'])] at isSlashed
    exact absurd isSlashed (by decide)
  obtain ⟨final, isFinal, nonempty⟩ := Path.exists_last_piece named unslashed
  have same : (names path).getLast? = some final := by
    obtain ⟨front, split⟩ := List.getLast?_eq_some_iff.mp isFinal
    simp [names, split, nonempty]
  rw [same, Option.some.injEq] at isLast
  subst isLast
  exact ⟨target.directory, final, by simp [Target.location, *], isFinal, nonempty, noDots.1,
    noDots.2⟩

/-- The temporary file of a write does not have the place of the file that is written. -/
private theorem LeadsTo.temporary_ne {tree other : FileTree} {stamp : Nat} {path : Path}
    {place location : Location} (toPlace : tree.LeadsTo (temporaryPath stamp path) place)
    (toLocation : other.LeadsTo path location) : place ≠ location := by
  obtain ⟨directory, name, rfl, isLast, nonempty, noDot, noDots⟩ := toLocation.last_name
  have noSlash : '/' ∉ name :=
    not_mem_of_mem_splitOn (List.mem_of_getLast? isLast)
  have isFileName := Path.fileName?_eq_some isLast nonempty noDot noDots
  obtain ⟨otherDirectory, otherName, rfl, isOtherLast, _⟩ := toPlace.last_name
  rw [temporaryPath, isFileName, Option.getD_some,
    Path.getLast?_splitOn_join _ (slash_not_mem_temporaryName stamp noSlash)] at isOtherLast
  cases isOtherLast
  intro same
  have sameNames := (List.append_inj' same rfl).2
  exact temporaryName_ne stamp name (List.cons.inj sameNames).1

/-! ## The steps of a write -/

/-- A write in a tree: its result, and the tree that it leaves. -/
def save (tree : FileTree) (stamp : Nat) (path : Path) (content : Text) :
    Except FileFailure Unit × FileTree :=
  (writeAtomically (m := StateM FileTree) stamp path content).run tree

theorem save_eq (tree : FileTree) (stamp : Nat) (path : Path) (content : Text) :
    tree.save stamp path content =
      match tree.write (temporaryPath stamp path) (Utf8.encode content) with
      | .error cause =>
          (.error (.unwritable path cause),
            (tree.changed (tree.remove (temporaryPath stamp path))).2)
      | .ok written =>
          match written.move (temporaryPath stamp path) path with
          | .error cause =>
              (.error (.unreplaceable path cause),
                (written.changed (written.remove (temporaryPath stamp path))).2)
          | .ok moved => (.ok (), moved) := by
  simp only [save, writeAtomically, FileAccess.write, FileAccess.move, FileAccess.remove,
    StateT.run, bind, StateT.bind, pure]
  cases written : tree.write (temporaryPath stamp path) (Utf8.encode content) with
  | error cause => rfl
  | ok after =>
      simp only [changed, StateT.bind]
      cases moved : after.move (temporaryPath stamp path) path <;> rfl

/-- A write fails before the temporary file is there, or fails when it is there, or succeeds. -/
theorem save_cases (tree : FileTree) (stamp : Nat) (path : Path) (content : Text) :
    (∃ cause, tree.save stamp path content = (.error (.unwritable path cause), tree)) ∨
      ∃ place, tree.LeadsTo (temporaryPath stamp path) place ∧
        ((∃ cause, tree.save stamp path content =
            (.error (.unreplaceable path cause),
              (tree.put place (Utf8.encode content)).erase place)) ∨
          ∃ location, tree.LeadsTo path location ∧
            tree.save stamp path content =
              (.ok (), ((tree.put place (Utf8.encode content)).erase place).put location
                (Utf8.encode content))) := by
  rw [save_eq]
  cases written : tree.write (temporaryPath stamp path) (Utf8.encode content) with
  | error cause =>
      left
      -- Where no file can be written, there is none that could be removed afterwards.
      have notRemoved : ∀ after, tree.remove (temporaryPath stamp path) ≠ .ok after := by
        intro after removed
        obtain ⟨place, _, leads, _⟩ := remove_eq_ok_iff.mp removed
        have succeeds : tree.write (temporaryPath stamp path) (Utf8.encode content) = .ok _ :=
          write_eq_ok_iff.mpr ⟨place, leads, rfl⟩
        rw [written] at succeeds
        exact absurd succeeds (by simp)
      cases removed : tree.remove (temporaryPath stamp path) with
      | error error => exact ⟨cause, rfl⟩
      | ok after => exact absurd removed (notRemoved after)
  | ok after =>
      right
      obtain ⟨place, leads, rfl⟩ := write_eq_ok_iff.mp written
      have same := SameDirectories.put tree place (Utf8.encode content)
      have present : (tree.put place (Utf8.encode content)).content? place =
          some (Utf8.encode content) := by
        rw [content?_put, Function.update_self]
      refine ⟨place, leads, ?_⟩
      dsimp only
      cases moved : (tree.put place (Utf8.encode content)).move (temporaryPath stamp path) path with
      | error cause =>
          left
          have removed : (tree.put place (Utf8.encode content)).remove
              (temporaryPath stamp path) = .ok _ :=
            remove_eq_ok_iff.mpr ⟨place, _, leads.congr same, present, rfl⟩
          refine ⟨cause, ?_⟩
          dsimp only
          rw [removed]
          rfl
      | ok after =>
          right
          -- What is moved is what was written: the temporary path still leads to that place.
          obtain ⟨old, location, moving, toOld, isMoving, toLocation, rfl⟩ :=
            move_eq_ok_iff.mp moved
          have isPlace := toOld.unique (leads.congr same)
          subst isPlace
          rw [present] at isMoving
          cases isMoving
          exact ⟨location, toLocation.congr same.symm, rfl⟩

/-! ## What a save does -/

/-- All or nothing: a failed save changes no file, and a successful one changes the file that its
path leads to and no other. -/
inductive Saves {ε : Type} (tree : FileTree) (path : Path) (content : Text) :
    Except ε Unit → FileTree → Prop
  | failed (failure : ε) {after : FileTree} (unchanged : after.content? = tree.content?) :
      Saves tree path content (.error failure) after
  | succeeded {location : Location} {after : FileTree} (leads : tree.LeadsTo path location)
      (changed : after.content? =
        Function.update tree.content? location (some (Utf8.encode content)))
      (readable : after.read path = .ok (Utf8.encode content)) :
      Saves tree path content (.ok ()) after

/-- A path leads to a file. -/
def HoldsFile (tree : FileTree) (path : Path) : Prop :=
  ∃ content, tree.read path = .ok content

instance (tree : FileTree) (path : Path) : Decidable (tree.HoldsFile path) :=
  match found : tree.read path with
  | .ok content => isTrue ⟨content, found⟩
  | .error _ => isFalse (by simp [HoldsFile, found])

theorem content?_eq_none {tree : FileTree} {path : Path} {location : Location}
    (leads : tree.LeadsTo path location) (free : ¬tree.HoldsFile path) :
    tree.content? location = none := by
  rw [Option.eq_none_iff_forall_ne_some]
  intro content present
  exact free ⟨content, read_eq_ok_iff.mpr ⟨location, leads, present⟩⟩

private theorem content?_put_erase {tree : FileTree} {place : Location}
    (nothing : tree.content? place = none) (content : Bytes) :
    ((tree.put place content).erase place).content? = tree.content? := by
  rw [content?_erase, content?_put, Function.update_idem, ← nothing, Function.update_eq_self]

theorem sameDirectories_save (tree : FileTree) (stamp : Nat) (path : Path) (content : Text) :
    SameDirectories tree (tree.save stamp path content).2 := by
  rcases tree.save_cases stamp path content with
    ⟨cause, result⟩ | ⟨place, _, ⟨cause, result⟩ | ⟨location, _, result⟩⟩ <;> rw [result]
  · exact SameDirectories.refl tree
  · exact ⟨rfl, rfl⟩
  · exact ⟨rfl, rfl⟩

theorem saves_save {tree : FileTree} {stamp : Nat} {path : Path}
    (free : ¬tree.HoldsFile (temporaryPath stamp path)) (content : Text) :
    Saves tree path content (tree.save stamp path content).1
      (tree.save stamp path content).2 := by
  have same := tree.sameDirectories_save stamp path content
  rcases tree.save_cases stamp path content with ⟨cause, result⟩ | ⟨place, toPlace, result⟩
  · rw [result]
    exact Saves.failed _ rfl
  · have nothing := content?_eq_none toPlace free
    rcases result with ⟨cause, result⟩ | ⟨location, toLocation, result⟩
    · rw [result]
      exact Saves.failed _ (content?_put_erase nothing _)
    · rw [result] at same ⊢
      have changed :
          (((tree.put place (Utf8.encode content)).erase place).put location
              (Utf8.encode content)).content? =
            Function.update tree.content? location (some (Utf8.encode content)) := by
        rw [content?_put, content?_put_erase nothing]
      refine Saves.succeeded toLocation changed (read_eq_ok_iff.mpr ?_)
      exact ⟨location, toLocation.congr same, by rw [changed, Function.update_self]⟩

/-- No temporary file is left. -/
theorem Saves.not_holdsFile {ε : Type} {tree after : FileTree} {stamp : Nat} {path : Path}
    {content : Text} {result : Except ε Unit} (saves : Saves tree path content result after)
    (same : SameDirectories tree after) (free : ¬tree.HoldsFile (temporaryPath stamp path)) :
    ¬after.HoldsFile (temporaryPath stamp path) := by
  rintro ⟨bytes, isRead⟩
  obtain ⟨place, toPlace, present⟩ := read_eq_ok_iff.mp isRead
  have toPlaceBefore := toPlace.congr same.symm
  have nothing := content?_eq_none toPlaceBefore free
  cases saves with
  | failed failure unchanged =>
      rw [unchanged, nothing] at present
      exact absurd present (by simp)
  | succeeded toLocation changed _ =>
      rw [changed, Function.update_of_ne (toPlaceBefore.temporary_ne toLocation), nothing]
        at present
      exact absurd present (by simp)

end FileTree

end MarkdownDialect
