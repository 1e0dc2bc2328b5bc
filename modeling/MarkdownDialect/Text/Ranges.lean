/-!
Classes of characters given as ranges of code points.
-/

namespace MarkdownDialect.Text

def inRanges (ranges : List (Nat × Nat)) (c : Char) : Bool :=
  ranges.any fun (first, last) => first ≤ c.toNat && c.toNat ≤ last

end MarkdownDialect.Text
