import MarkdownDialect.Proofs.Heading.Attribute
import MarkdownDialect.Proofs.Heading.Toc
import MarkdownDialect.Proofs.Text.HtmlToken
import Mathlib.Algebra.BigOperators.Group.List.Basic
import Mathlib.Algebra.Order.Ring.Int

/-!
# Reading nested lists

A reader of HTML counts the lists that are open and collects the items that hold a link to the same
page. How the lists are nested is told by the sums of the changes of that count.
-/

namespace MarkdownDialect

open Text

namespace HtmlToken

/-- The name of a tag; that of a closing tag begins with a slash. -/
def tagName (body : Text) : Text :=
  body.takeWhile fun c => !HeadingElement.isHtmlSpace c

/-- By how much a token changes the number of open lists, if it is a tag of a list. -/
def depthChange? : HtmlToken → Option Int
  | tag body =>
    if tagName body = "ul".toList then some 1
    else if tagName body = "/ul".toList then some (-1)
    else none
  | char _ => none

end HtmlToken

open HtmlToken

/-! ## The items -/

/-- An item that holds a link. -/
structure ListEntry where
  /-- How many lists are open where the item begins. -/
  depth : Nat
  /-- The id that the link names. -/
  target : Text
  text : Text
  deriving DecidableEq, Repr

/-- What a reader of nested lists knows. -/
structure ListReader where
  /-- How many lists are open. -/
  depth : Nat := 0
  /-- How many lists were open where the last item began. -/
  itemDepth : Nat := 0
  /-- The id that an open link names, and the text of the link so far. -/
  link : Option (Text × Text) := none
  entries : List ListEntry := []

namespace ListReader

def step (reader : ListReader) : HtmlToken → ListReader
  | char c => { reader with link := reader.link.map fun (target, text) => (target, text ++ [c]) }
  | tag body =>
    if tagName body = "ul".toList then { reader with depth := reader.depth + 1 }
    else if tagName body = "/ul".toList then { reader with depth := reader.depth - 1 }
    else if tagName body = "li".toList then { reader with itemDepth := reader.depth }
    else if tagName body = "a".toList then
      { reader with link := (Toc.targets body).head?.map fun target => (target, []) }
    else if tagName body = "/a".toList then
      match reader.link with
      | some (target, text) =>
        { reader with
          link := none
          entries := reader.entries ++ [⟨reader.itemDepth, target, unescape text⟩] }
      | none => reader
    else reader

def read (reader : ListReader) (html : Text) : ListReader :=
  (htmlTokens html).foldl step reader

variable {reader : ListReader}

theorem read_append {piece : Text} (whole : LeavesNoTagOpen piece) (reader : ListReader)
    (rest : Text) : reader.read (piece ++ rest) = (reader.read piece).read rest := by
  rw [read, whole, List.foldl_append]
  rfl

/-- What a piece does to the number of open lists, its repetition does again and again. -/
theorem read_replicate {piece : Text} (whole : LeavesNoTagOpen piece) {change : Nat → Nat}
    (reading : ∀ {reader : ListReader}, reader.link = none →
      reader.read piece = { reader with depth := change reader.depth })
    (noLink : reader.link = none) (count : Nat) :
    reader.read (List.replicate count piece).flatten =
      { reader with depth := change^[count] reader.depth } := by
  induction count generalizing reader with
  | zero => rfl
  | succ count inductionHypothesis =>
      have stillNoLink : { reader with depth := change reader.depth }.link = none := noLink
      rw [List.replicate_succ, List.flatten_cons, read_append whole, reading noLink,
        inductionHypothesis stillNoLink, Function.iterate_succ_apply]

theorem foldl_step_char {target text : Text} (isOpen : reader.link = some (target, text))
    (more : Text) :
    (more.map char).foldl step reader = { reader with link := some (target, text ++ more) } := by
  induction more generalizing reader text with
  | nil =>
      rw [List.append_nil, ← isOpen]
      rfl
  | cons c others inductionHypothesis =>
      have oneMore : (reader.step (char c)).link = some (target, text ++ [c]) := by
        rw [step, isOpen]
        rfl
      rw [List.map_cons, List.foldl_cons, inductionHypothesis oneMore, List.append_assoc,
        List.singleton_append]
      rfl

end ListReader

/-- The linked items in the lists of a text, in their order. -/
def listEntries (html : Text) : List ListEntry :=
  (({} : ListReader).read html).entries

/-! ## The nesting -/

def depthChanges (html : Text) : List Int :=
  (htmlTokens html).filterMap depthChange?

/-- Whether the last tag of a list closes the first list, and no tag before it does. -/
structure IsNested (changes : List Int) : Prop where
  closes : changes.sum = 0
  staysOpen : ∀ front, front <+: changes → front ≠ [] → front ≠ changes → 1 ≤ front.sum

/-- Whether the changes never add up to less than `low` on the way. -/
def StaysAbove (low : Int) (changes : List Int) : Prop :=
  ∀ front, front <+: changes → low ≤ front.sum

theorem depthChanges_append {piece : Text} (whole : LeavesNoTagOpen piece) (rest : Text) :
    depthChanges (piece ++ rest) = depthChanges piece ++ depthChanges rest := by
  rw [depthChanges, whole, List.filterMap_append]
  rfl

theorem depthChanges_replicate {piece : Text} (whole : LeavesNoTagOpen piece) {change : Int}
    (single : depthChanges piece = [change]) (count : Nat) :
    depthChanges (List.replicate count piece).flatten = List.replicate count change := by
  induction count with
  | zero => rfl
  | succ count inductionHypothesis =>
      rw [List.replicate_succ, List.flatten_cons, depthChanges_append whole, single,
        inductionHypothesis]
      rfl

namespace StaysAbove

variable {low : Int}

theorem append {first second : List Int} (firstStays : StaysAbove low first)
    (secondStays : StaysAbove (low - first.sum) second) : StaysAbove low (first ++ second) := by
  intro front ⟨back, split⟩
  rcases List.append_eq_append_iff.mp split with ⟨middle, isFirst, _⟩ | ⟨more, rfl, isSecond⟩
  · exact firstStays front ⟨middle, isFirst.symm⟩
  · have bound := secondStays more ⟨back, isSecond.symm⟩
    rw [List.sum_append]
    omega

theorem replicate {change : Int} {count : Nat} (notAbove : low ≤ 0)
    (bound : low ≤ count * change) : StaysAbove low (List.replicate count change) := by
  intro front isFront
  obtain ⟨atMost, isRepeated⟩ := List.prefix_replicate_iff.mp isFront
  rw [isRepeated, List.sum_replicate, nsmul_eq_mul]
  rcases le_total 0 change with rises | sinks
  · exact notAbove.trans (mul_nonneg (Int.natCast_nonneg _) rises)
  · have atMost : (front.length : Int) ≤ count := by
      exact_mod_cast atMost
    exact bound.trans (mul_le_mul_of_nonpos_right atMost sinks)

end StaysAbove

theorem IsNested.nil : IsNested [] where
  closes := rfl
  staysOpen := fun _ isFront nonempty _ => absurd (List.prefix_nil.mp isFront) nonempty

/-- A list around lists that are all closed again. -/
theorem IsNested.of_staysAbove {changes : List Int} (returns : changes.sum = 0)
    (stays : StaysAbove 0 changes) : IsNested (1 :: (changes ++ [-1])) where
  closes := by
    simp [returns]
  staysOpen := by
    intro front isFront nonempty unfinished
    rcases List.prefix_cons_iff.mp isFront with empty | ⟨inner, rfl, isInner⟩
    · exact absurd empty nonempty
    · rcases List.prefix_concat_iff.mp isInner with finished | before
      · exact absurd (congrArg (1 :: ·) finished) unfinished
      · have bound := stays inner before
        rw [List.sum_cons]
        omega

end MarkdownDialect
