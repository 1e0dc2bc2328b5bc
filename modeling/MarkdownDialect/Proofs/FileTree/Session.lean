import MarkdownDialect.Export.Saving
import MarkdownDialect.Proofs.FileTree.Reading
import MarkdownDialect.Proofs.FileTree.Saving

/-!
# Sessions

A session is a sequence of uses of the files of a tree. Every save in it is all or nothing, and
every file that is found was there at first or was given by a use: no temporary file is ever left.
-/

namespace MarkdownDialect

open Text

namespace FileTree

/-! ## Uses -/

/-- A text that is saved at a path, with the stamp of its temporary file. -/
structure Save where
  stamp : Nat
  path : Path
  content : Text

def Save.temporary (save : Save) : Path :=
  temporaryPath save.stamp save.path

/-- A use of the files of a tree. -/
inductive Use where
  | putFile (path : Path) (content : Bytes)
  | putDirectory (path : Path)
  | write (save : Save)
  | read (path : Path) (limit : Nat)
  | loadSettings (path : Path)
  | saveExport (stamp : Nat) (palette : Palette) (rendering : RenderOptions)
      (options : ExportOptions) (format : ExportFormat) (source : Text) (path : Path)

namespace Use

def action : Use → StateM FileTree (Except Failure Unit)
  | putFile path content => fun tree => (.ok (), tree.withFile path content)
  | putDirectory path => fun tree => (.ok (), tree.withDirectory path)
  | write save => do
    return (← writeAtomically save.stamp save.path save.content).mapError .file
  | read path limit => do
    return ((← readDocument path limit).mapError .file).map fun _ => ()
  | loadSettings path => do
    return ((← Settings.load path).mapError .settings).map fun _ => ()
  | saveExport stamp palette rendering options format source path => do
    let saved ← MarkdownDialect.saveExport stamp palette rendering options format source path
    return saved.mapError .exporting

def result (use : Use) (tree : FileTree) : Except Failure Unit :=
  (use.action.run tree).1

def after (use : Use) (tree : FileTree) : FileTree :=
  (use.action.run tree).2

/-- What a use saves, if it is for saving. -/
def save? : Use → Option Save
  | write save => some save
  | saveExport stamp palette rendering options format source path =>
    some { stamp, path, content := exportSource palette rendering options format source }
  | _ => none

end Use

/-! ## What one use does -/

private theorem Saves.mapError {ε δ : Type} {tree after : FileTree} {path : Path} {content : Text}
    {result : Except ε Unit} (saves : Saves tree path content result after) (convert : ε → δ) :
    Saves tree path content (result.mapError convert) after := by
  cases saves with
  | failed failure unchanged => exact Saves.failed _ unchanged
  | succeeded leads changed readable => exact Saves.succeeded leads changed readable

private theorem saveExport_run (stamp : Nat) (palette : Palette) (rendering : RenderOptions)
    (options : ExportOptions) (format : ExportFormat) (source : Text) (path : Path)
    (tree : FileTree) :
    (saveExport stamp palette rendering options format source path : StateM FileTree _).run tree =
      match path.fileName? with
      | none => (.error (.invalidPath path), tree)
      | some _ =>
          let saved := tree.save stamp path (exportSource palette rendering options format source)
          (saved.1.mapError .file, saved.2) := by
  unfold saveExport
  cases path.fileName? with
  | none => rfl
  | some name =>
      simp only [StateT.run_bind, save]
      generalize (writeAtomically (m := StateM FileTree) stamp path _).run tree = saved
      rcases saved with ⟨failure | _, after⟩ <;> rfl

/-- A save does all or nothing if its temporary file is not there yet. -/
theorem Use.saves {use : Use} {save : Save} (isSave : use.save? = some save) {tree : FileTree}
    (free : ¬tree.HoldsFile save.temporary) :
    Saves tree save.path save.content (use.result tree) (use.after tree) ∧
      SameDirectories tree (use.after tree) := by
  cases use with
  | putFile path content => simp [save?] at isSave
  | putDirectory path => simp [save?] at isSave
  | read path limit => simp [save?] at isSave
  | loadSettings path => simp [save?] at isSave
  | write written =>
      cases isSave
      exact ⟨(saves_save free save.content).mapError Failure.file,
        tree.sameDirectories_save save.stamp save.path save.content⟩
  | saveExport stamp palette rendering options format source path =>
      cases isSave
      have run := saveExport_run stamp palette rendering options format source path tree
      simp only [Use.result, Use.after, Use.action, StateT.run_bind, run]
      cases path.fileName? with
      | none => exact ⟨Saves.failed _ rfl, SameDirectories.refl tree⟩
      | some name =>
          exact ⟨((saves_save free _).mapError ExportFailure.file).mapError Failure.exporting,
            tree.sameDirectories_save stamp path _⟩

@[simp]
theorem content?_putDirectory (tree : FileTree) (location : Location) :
    (tree.putDirectory location).content? = tree.content? := by
  unfold putDirectory
  split <;> rfl

@[simp]
theorem content?_makeDirectories (names : List Text) :
    ∀ (tree : FileTree) (directory : Location),
      (tree.makeDirectories directory names).1.content? = tree.content? := by
  induction names with
  | nil => exact fun _ _ => rfl
  | cons name rest inductionHypothesis =>
      intro tree directory
      simp only [makeDirectories, inductionHypothesis, content?_putDirectory]

/-- The place in which a file is put, once the directories that lead there are made. -/
def filePlace (tree : FileTree) (path : Path) : Location :=
  (tree.makeDirectories (tree.start path) (names path).dropLast).2 ++ (names path).getLast?.toList

@[simp]
theorem content?_withFile (tree : FileTree) (path : Path) (content : Bytes) :
    (tree.withFile path content).content? =
      Function.update tree.content? (tree.filePlace path) (some content) := by
  simp only [withFile, content?_put, content?_makeDirectories, filePlace]

/-- A use in a tree puts bytes in a place. -/
inductive Use.Gives (tree : FileTree) : Use → Location → Bytes → Prop
  | put (path : Path) (content : Bytes) :
      Gives tree (putFile path content) (tree.filePlace path) content
  | saved {use : Use} {save : Save} {location : Location} (isSave : use.save? = some save)
      (leads : tree.LeadsTo save.path location) (succeeds : use.result tree = .ok ()) :
      Gives tree use location (Utf8.encode save.content)

/-- The saves of a use find no file that bears the name of their temporary file. -/
def Use.IsFresh (use : Use) (tree : FileTree) : Prop :=
  ∀ save ∈ use.save?, ¬tree.HoldsFile save.temporary

instance (use : Use) (tree : FileTree) : Decidable (use.IsFresh tree) :=
  inferInstanceAs (Decidable (∀ save ∈ use.save?, ¬tree.HoldsFile save.temporary))

/-- A use leaves every file as it was, or puts what it gives in one place. -/
private theorem Use.content?_after {use : Use} {tree : FileTree} (fresh : use.IsFresh tree) :
    (use.after tree).content? = tree.content? ∨
      ∃ place given, use.Gives tree place given ∧
        (use.after tree).content? = Function.update tree.content? place (some given) := by
  cases isSave : use.save? with
  | some save =>
      obtain ⟨saves, _⟩ := Use.saves isSave (fresh save isSave)
      generalize isResult : use.result tree = result at saves
      generalize use.after tree = after at saves
      cases saves with
      | failed failure unchanged => exact Or.inl unchanged
      | succeeded leads changed _ =>
          exact Or.inr ⟨_, _, Gives.saved isSave leads isResult, changed⟩
  | none =>
      -- Of the uses that save nothing, only the putting of a file changes what files there are.
      cases use with
      | write save => simp [save?] at isSave
      | saveExport => simp [save?] at isSave
      | putFile path content =>
          exact Or.inr ⟨_, _, Gives.put path content, tree.content?_withFile path content⟩
      | putDirectory path => exact Or.inl (content?_makeDirectories _ _ _)
      | read path limit =>
          have unchanged : (Use.read path limit).after tree = tree :=
            Observes.bind (Observes.readDocument path limit) (fun _ => Observes.pure _) tree
          exact Or.inl (congrArg content? unchanged)
      | loadSettings path =>
          have unchanged : (Use.loadSettings path).after tree = tree :=
            Observes.bind (Observes.loadSettings path) (fun _ => Observes.pure _) tree
          exact Or.inl (congrArg content? unchanged)

/-- A file that a use leaves was there before, or is given by the use. -/
private theorem Use.given_of_content?_after {use : Use} {tree : FileTree} (fresh : use.IsFresh tree)
    {location : Location} {bytes : Bytes}
    (present : (use.after tree).content? location = some bytes) :
    tree.content? location = some bytes ∨ use.Gives tree location bytes := by
  rcases Use.content?_after fresh with unchanged | ⟨place, given, gives, changed⟩
  · rw [unchanged] at present
    exact Or.inl present
  · rw [changed, Function.update_apply] at present
    by_cases same : location = place
    · rw [if_pos same, Option.some.injEq] at present
      rw [same, ← present]
      exact Or.inr gives
    · rw [if_neg same] at present
      exact Or.inl present

/-! ## Sessions -/

/-- The tree that a session leaves. -/
def afterAll (tree : FileTree) (uses : List Use) : FileTree :=
  uses.foldl (fun tree use => use.after tree) tree

@[simp]
theorem afterAll_append (tree : FileTree) (first second : List Use) :
    tree.afterAll (first ++ second) = (tree.afterAll first).afterAll second :=
  List.foldl_append

/-- No save of a session finds a file that bears the name of its temporary file. -/
def IsFresh : FileTree → List Use → Prop
  | _, [] => True
  | tree, use :: rest => use.IsFresh tree ∧ IsFresh (use.after tree) rest

instance decidableIsFresh : (tree : FileTree) → (uses : List Use) → Decidable (tree.IsFresh uses)
  | _, [] => isTrue trivial
  | tree, use :: rest =>
    have := decidableIsFresh (use.after tree) rest
    inferInstanceAs (Decidable (use.IsFresh tree ∧ IsFresh (use.after tree) rest))

theorem isFresh_append {first second : List Use} :
    ∀ {tree : FileTree}, tree.IsFresh (first ++ second) ↔
      tree.IsFresh first ∧ (tree.afterAll first).IsFresh second := by
  induction first with
  | nil => simp [IsFresh, afterAll]
  | cons use rest inductionHypothesis =>
      intro tree
      simp only [List.cons_append, IsFresh, inductionHypothesis, and_assoc]
      rfl

/-- Some use of a session puts bytes in a place. -/
def Given (tree : FileTree) (uses : List Use) (location : Location) (bytes : Bytes) : Prop :=
  ∃ before use rest, uses = before ++ use :: rest ∧
    use.Gives (tree.afterAll before) location bytes

/-- A file that a session leaves was there at first, or is given by a use. -/
private theorem given_of_content?_afterAll {uses : List Use} {location : Location} {bytes : Bytes} :
    ∀ {tree : FileTree}, tree.IsFresh uses →
      (tree.afterAll uses).content? location = some bytes →
      tree.content? location = some bytes ∨ tree.Given uses location bytes := by
  induction uses with
  | nil =>
      intro tree _ present
      exact Or.inl present
  | cons use rest inductionHypothesis =>
      intro tree fresh present
      obtain ⟨useFresh, restFresh⟩ := fresh
      rcases inductionHypothesis restFresh present with earlier | later
      · rcases Use.given_of_content?_after useFresh earlier with first | gives
        · exact Or.inl first
        · exact Or.inr ⟨[], use, rest, rfl, gives⟩
      · obtain ⟨before, giver, behind, split, gives⟩ := later
        exact Or.inr ⟨use :: before, giver, behind, by rw [split]; rfl, gives⟩

/-- In a session that meets no file with the name of a temporary file, every save is all or nothing
and leaves no temporary file, neither at once nor later: what is found in that place later on is
given by a later use. Every file was there at first or is given by a use. -/
theorem session_saves_all_or_nothing {start : FileTree} {before rest : List Use} {use : Use}
    (fresh : start.IsFresh (before ++ use :: rest)) :
    (∀ save, use.save? = some save →
      Saves (start.afterAll before) save.path save.content (use.result (start.afterAll before))
        (start.afterAll (before ++ [use])) ∧
      ¬(start.afterAll (before ++ [use])).HoldsFile save.temporary ∧
      ∀ place bytes, (start.afterAll before).LeadsTo save.temporary place →
        (start.afterAll (before ++ use :: rest)).content? place = some bytes →
        (start.afterAll (before ++ [use])).Given rest place bytes) ∧
    ∀ location bytes, (start.afterAll (before ++ [use])).content? location = some bytes →
      start.content? location = some bytes ∨ start.Given (before ++ [use]) location bytes := by
  have isNext : start.afterAll (before ++ [use]) = use.after (start.afterAll before) :=
    afterAll_append start before [use]
  obtain ⟨beforeFresh, useFresh, restFresh⟩ := isFresh_append.mp fresh
  constructor
  · intro save isSave
    have free := useFresh save isSave
    obtain ⟨saves, same⟩ := Use.saves isSave free
    have gone := saves.not_holdsFile same free
    rw [isNext]
    refine ⟨saves, gone, ?_⟩
    intro place bytes leads present
    rw [List.append_cons, afterAll_append, isNext] at present
    have nothing := content?_eq_none (leads.congr same) gone
    rcases given_of_content?_afterAll restFresh present with earlier | given
    · rw [nothing] at earlier
      exact absurd earlier (by simp)
    · exact given
  · intro location bytes present
    exact given_of_content?_afterAll
      (isFresh_append.mpr ⟨beforeFresh, useFresh, trivial⟩) present

/-- A save below a directory writes over the file that was there, after one that failed because the
directory itself was in its place, and before an export to a path without a file name. -/
theorem session_saves_below_directory :
    let start : FileTree :=
      { directories := [["work".toList]], workingDirectory := ["work".toList] }
    let failing : Save := { stamp := 7, path := "sub".toList, content := "text".toList }
    let save : Save := { stamp := 7, path := "sub/notes.md".toList, content := "text".toList }
    let before : List Use :=
      [.putDirectory "sub".toList, .putFile "sub/notes.md".toList [35, 32, 65], .write failing]
    let rest : List Use :=
      [.loadSettings "sub/notes.md".toList,
        .saveExport 7 .standard {} {} .markdown "text".toList "..".toList]
    start.IsFresh (before ++ .write save :: rest) ∧
      Saves (start.afterAll before) save.path save.content
        ((Use.write save).result (start.afterAll before))
        (start.afterAll (before ++ [.write save])) ∧
      (start.afterAll before).read save.path = .ok [35, 32, 65] ∧
      (Use.write save).result (start.afterAll before) = .ok () ∧
      (start.afterAll (before ++ [.write save])).content? ["work".toList, "sub".toList,
        "notes.md".toList] = some (Utf8.encode "text".toList) ∧
      (start.afterAll (before ++ [.write save])).read save.path =
        .ok (Utf8.encode "text".toList) ∧
      ¬(start.afterAll (before ++ [.write save])).HoldsFile save.temporary := by
  intro start failing save before rest
  have fresh : start.IsFresh (before ++ .write save :: rest) := by decide +kernel
  obtain ⟨saves, gone, _⟩ := (session_saves_all_or_nothing fresh).1 save rfl
  exact ⟨fresh, saves, by decide +kernel, by decide +kernel, by decide +kernel, by decide +kernel,
    gone⟩

end FileTree

end MarkdownDialect
