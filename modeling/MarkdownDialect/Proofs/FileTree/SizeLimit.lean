import MarkdownDialect.Proofs.Encoding.Reading
import MarkdownDialect.Proofs.FileTree.Place
import MarkdownDialect.Proofs.FileTree.Reading

/-!
# Limits on what is read

A file is refused before it is read, a stream after as many bytes as tell that it is too long. Both
are held to the same limit, and what is not refused becomes the same document.
-/

namespace MarkdownDialect

open Text

namespace FileTree

variable {tree : FileTree} {path : Path} {location : Location} {bytes : Bytes}

private theorem readDocument_run (leads : tree.LeadsTo path location)
    (holds : tree.content? location = some bytes) (limit : Nat) :
    (readDocument path limit : StateM FileTree _).run tree =
      (if limit < bytes.length then .error (.tooLarge path bytes.length limit)
        else .ok (Document.ofBytes bytes), tree) := by
  have found : tree.find path = .ok (.file bytes) := find_eq_file_iff.mpr ⟨location, leads, holds⟩
  have sized : tree.status path = .ok (.file bytes.length) := by
    rw [status, found]
  have isRead : tree.read path = .ok bytes := by
    rw [read, found]
  unfold readDocument
  rw [Observes.run_bind (Observes.status path)]
  have statusRun : ((FileAccess.status path : StateM FileTree _).run tree).1 =
      .ok (.file bytes.length) := sized
  rw [statusRun]
  dsimp only
  by_cases long : limit < bytes.length
  · rw [if_pos long, if_pos long]
    rfl
  · have readRun : ((FileAccess.read path : StateM FileTree _).run tree).1 = .ok bytes := isRead
    rw [if_neg long, if_neg long, Observes.run_bind (Observes.read path), readRun]
    rfl

end FileTree

/-- A stream longer than the limit is refused with one byte more than the limit, even if it would
fail afterwards. A file is read exactly if a stream of its bytes is, and becomes the same document;
otherwise it is refused with its size. -/
theorem readers_keep_the_limit {bytes : Bytes} (bounded : bytes.length < bound64 - 1)
    (source : Path) (limit : Nat) :
    (∀ error : SystemError, error.kind = .other →
      readStream { bytes, failure := some error } source limit =
        .error (if limit < bytes.length then .tooLarge source (limit + 1) limit
          else .unreadable source error)) ∧
    readStream { bytes } source limit =
      (if limit < bytes.length then .error (.tooLarge source (limit + 1) limit)
        else .ok (Document.ofBytes bytes)) ∧
    ∀ (tree : FileTree) (path : Path) (location : Location), tree.LeadsTo path location →
      tree.content? location = some bytes →
        (readDocument path limit : StateM FileTree _).run tree =
          (match readStream { bytes } source limit with
            | .ok document => .ok document
            | .error _ => .error (.tooLarge path bytes.length limit), tree) := by
  have ended : readStream { bytes } source limit =
      if limit < bytes.length then .error (.tooLarge source (limit + 1) limit)
      else .ok (Document.ofBytes bytes) :=
    readStream_eq bounded source limit
  refine ⟨?_, ended, ?_⟩
  · intro error isOther
    have failed : readStream { bytes, failure := some error } source limit =
        if limit < bytes.length then .error (.tooLarge source (limit + 1) limit)
        else .error (.ofReading source error) :=
      readStream_eq bounded source limit
    rw [failed]
    split
    · rfl
    · simp only [FileFailure.ofReading, isOther]
  · intro tree path location leads holds
    rw [FileTree.readDocument_run leads holds, ended]
    by_cases long : limit < bytes.length
    · simp only [if_pos long]
    · simp only [if_neg long]

/-- A tree with one file of two bytes. -/
def sampleTree : FileTree :=
  { files := [(["a".toList], [0x61, 0x62])] }

theorem readers_keep_the_limit_at_sampleTree :
    sampleTree.LeadsTo "/a".toList ["a".toList] ∧
      sampleTree.content? ["a".toList] = some [0x61, 0x62] ∧
      readStream { bytes := [0x61, 0x62], failure := some .busy } "input".toList 1 =
        .error (.tooLarge "input".toList 2 1) ∧
      readStream { bytes := [0x61, 0x62], failure := some .busy } "input".toList 2 =
        .error (.unreadable "input".toList .busy) ∧
      (readDocument "/a".toList 1 : StateM FileTree _).run sampleTree =
        (.error (.tooLarge "/a".toList 2 1), sampleTree) ∧
      (readDocument "/a".toList (bound64 - 1) : StateM FileTree _).run sampleTree =
        (.ok (Document.ofBytes [0x61, 0x62]), sampleTree) := by
  have leads : sampleTree.LeadsTo "/a".toList ["a".toList] :=
    FileTree.writable_eq_ok_iff.mp rfl
  have holds : sampleTree.content? ["a".toList] = some [0x61, 0x62] := by decide
  have bounded : ([0x61, 0x62] : Bytes).length < bound64 - 1 := by decide
  obtain ⟨shortFails, shortEnds, shortReads⟩ := readers_keep_the_limit bounded "input".toList 1
  obtain ⟨exactFails, -, -⟩ := readers_keep_the_limit bounded "input".toList 2
  obtain ⟨-, longEnds, longReads⟩ := readers_keep_the_limit bounded "input".toList (bound64 - 1)
  have refused := shortReads sampleTree "/a".toList ["a".toList] leads holds
  have accepted := longReads sampleTree "/a".toList ["a".toList] leads holds
  rw [shortEnds] at refused
  rw [longEnds] at accepted
  exact ⟨leads, holds, shortFails .busy rfl, exactFails .busy rfl, refused, accepted⟩

end MarkdownDialect
