import MarkdownDialect.Text.Basic

/-!
What a document consists of: a forest of elements, and the same forest as a sequence of events in
document order.
-/

namespace MarkdownDialect.CommonMark

/-- How the cells of a table column are aligned. -/
inductive ColumnAlignment where
  | unset
  | left
  | center
  | right
  deriving DecidableEq, Repr

inductive LinkKind where
  | ordinary
  /-- An address between angle brackets; the destination lacks its scheme. -/
  | email
  deriving DecidableEq, Repr

/-- The elements that hold others. -/
inductive Tag where
  | paragraph
  | heading (level : Nat)
  | quote
  /-- A block of code: fenced with its info string, or indented. -/
  | codeBlock (info : Option Text)
  /-- A list, with the number of its first item if it is ordered. -/
  | list (first : Option Nat)
  | item
  | footnote (label : Text)
  | table (columns : List ColumnAlignment)
  | tableHead
  | tableRow
  | tableCell
  | emphasis
  | strong
  | strikethrough
  | link (kind : LinkKind) (destination title : Text)
  | image (destination title : Text)
  deriving DecidableEq, Repr

/-- The elements that hold no others. -/
inductive Leaf where
  | text (content : Text)
  | code (content : Text)
  /-- Raw HTML, which is passed through. -/
  | html (content : Text)
  | footnoteReference (label : Text)
  | softBreak
  | hardBreak
  | rule
  | taskMarker (checked : Bool)
  deriving DecidableEq, Repr

inductive Element where
  | node (tag : Tag) (children : List Element)
  | leaf (leaf : Leaf)
  deriving Repr

/-- A step of a walk through a document. -/
inductive Event where
  | enter (tag : Tag)
  | leave (tag : Tag)
  | leaf (leaf : Leaf)
  deriving DecidableEq, Repr

mutual

/-- The events of an element: its tag is entered before its children and left after them. -/
def Element.events : Element → List Event
  | .leaf leaf => [.leaf leaf]
  | .node tag children => .enter tag :: (eventsOf children ++ [.leave tag])

/-- The events of a forest. -/
def eventsOf : List Element → List Event
  | [] => []
  | element :: rest => element.events ++ eventsOf rest

end

end MarkdownDialect.CommonMark
