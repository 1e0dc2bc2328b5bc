import MarkdownDialect.Text.Basic

/-!
Case mappings as runs: from `first` to `last` every `stride`th code point moves by the same
distance, the first of them to `image`.
-/

namespace MarkdownDialect.Text

structure CaseRun where
  first : Nat
  last : Nat
  stride : Nat
  image : Nat

/-- The image of a code point in the run that holds it. -/
def CaseRun.image? (run : CaseRun) (code : Nat) : Option Nat :=
  if run.first ≤ code && code ≤ run.last && (code - run.first) % run.stride = 0 then
    some (run.image + (code - run.first))
  else
    none

def mapByRuns (runs : List CaseRun) (c : Char) : Option Char :=
  (runs.findSome? fun run => run.image? c.toNat).map Char.ofNat

end MarkdownDialect.Text
