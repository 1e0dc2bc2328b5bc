import MarkdownDialect.FileTree.Access
import MarkdownDialect.Settings.Loading

/-!
# Reading changes nothing

An action observes a tree if it leaves the tree as it is. Reading documents and loading settings are
such actions, whether they succeed or fail.
-/

namespace MarkdownDialect

namespace FileTree

variable {α β : Type}

/-- An action leaves every tree as it is. -/
def Observes (action : StateM FileTree α) : Prop :=
  ∀ tree, (action.run tree).2 = tree

namespace Observes

theorem pure (value : α) : Observes (Pure.pure value) :=
  fun _ => rfl

/-- What follows an observing action runs in the same tree. -/
theorem run_bind {first : StateM FileTree α} (observes : Observes first)
    (next : α → StateM FileTree β) (tree : FileTree) :
    (first >>= next).run tree = (next (first.run tree).1).run tree := by
  change (next (first.run tree).1).run (first.run tree).2 = _
  rw [observes tree]

theorem bind {first : StateM FileTree α} {next : α → StateM FileTree β}
    (observes : Observes first) (nextObserves : ∀ value, Observes (next value)) :
    Observes (first >>= next) := by
  intro tree
  rw [run_bind observes]
  exact nextObserves _ tree

theorem status (path : Path) : Observes (FileAccess.status path) :=
  fun _ => rfl

theorem read (path : Path) : Observes (FileAccess.read path) :=
  fun _ => rfl

theorem readDocument (path : Path) (limit : Nat) :
    Observes (MarkdownDialect.readDocument path limit) := by
  refine bind (status path) fun found => ?_
  rcases found with error | ⟨size⟩ | _
  · exact pure _
  · dsimp only
    split
    · exact pure _
    · refine bind (read path) fun found => ?_
      cases found <;> exact pure _
  · exact pure _

theorem loadSettings (path : Path) : Observes (Settings.load path) := by
  refine bind (read path) fun found => ?_
  cases found with
  | error error => exact pure _
  | ok bytes =>
      dsimp only
      split <;> exact pure _

theorem loadUsualSettings (place : Option Path) : Observes (Settings.loadUsual place) := by
  cases place with
  | none => exact pure _
  | some path =>
      refine bind (status path) fun found => ?_
      cases found with
      | error error => exact pure _
      | ok status => exact loadSettings path

end Observes

end FileTree

end MarkdownDialect
