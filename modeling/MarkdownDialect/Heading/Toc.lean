import MarkdownDialect.Heading
import MarkdownDialect.Text.Escape

/-!
A table of contents: nested lists in which one list is opened or closed for every step of the
level.
-/

namespace MarkdownDialect.Toc

open Text

def openList : Text :=
  "<ul>\n".toList

def closeList : Text :=
  "</ul>\n".toList

/-- The tags between an entry at level `current` and one at level `next`. -/
def climb (current next : Nat) : Text :=
  (List.replicate (next - current) openList).flatten
    ++ (List.replicate (current - next) closeList).flatten

def entry (heading : Heading) : Text :=
  "<li><a href=\"#".toList ++ heading.id ++ "\">".toList ++ escape heading.text
    ++ "</a></li>\n".toList

/-- The entries that follow one at level `current`, and the tags that close the lists below
`start`. -/
def entries (start : Nat) : (current : Nat) → List Heading → Text
  | current, [] => climb current start
  | current, heading :: rest =>
    climb current heading.level ++ entry heading ++ entries start heading.level rest

/-- Lists the headings at level `start` or deeper. There is no list without such headings. -/
def build (headings : List Heading) (start : Nat) : Text :=
  match headings.filter fun heading => start ≤ heading.level with
  | [] => []
  | listed =>
    "<ul class=\"toc-list\">\n".toList ++ entries start start listed ++ "</ul>".toList

end MarkdownDialect.Toc
