import MarkdownDialect.Proofs.Stage.Settled

/-!
# A second pass of the block stages

The stages for whole lines and blocks change a text exactly if one of its lines opens a block, and
no line of their result does: whatever a header or a marker gives way to begins with a tag, and the
body of an admonition ends up behind it on the same line. So a second pass changes nothing.
-/

namespace MarkdownDialect

open Text

/-- Whether a line is the header of an admonition or a marker for a table of contents, apart from
a carriage return at its end. -/
def OpensBlock (line : Text) : Prop :=
  (Admonition.ofHeader? (stripReturn line).1).isSome = true ∨
    TocMarker.IsMarker (stripReturn line).1

theorem not_opensBlock_iff {line : Text} :
    ¬ OpensBlock line ↔ Admonition.ofHeader? (stripReturn line).1 = none ∧
      ¬ TocMarker.IsMarker (stripReturn line).1 := by
  unfold OpensBlock
  rw [not_or, Bool.not_eq_true, Option.isSome_eq_false_iff, Option.isNone_iff_eq_none]

/-- Admonitions are expanded first, and the markers in what they leave after them. -/
theorem expandBlocks_eq (text : Text) :
    expandBlocks text = onLines TocMarker.expandLine (Admonition.expand text) :=
  congrFun (Stage.apply_tocPlaceholder .standard) (Admonition.expand text)

/-- No line of the result opens a block. -/
theorem not_opensBlock_of_mem_lines_expandBlocks {text line : Text}
    (member : line ∈ lines (expandBlocks text)) : ¬ OpensBlock line := by
  have noHeader : ∀ line ∈ lines (expandBlocks text),
      Admonition.ofHeader? (stripReturn line).1 = none := by
    -- The placeholders that come in after the admonitions make no line a header.
    rw [expandBlocks_eq]
    exact Stage.settled_onLines Admonition.lasting_not_header TocMarker.staysInLine_expandLine
      TocMarker.marksUp_expandLine fun _ => Admonition.ofHeader?_eq_none_of_mem_lines_expand
  have noMarker : ∀ line ∈ lines (expandBlocks text),
      ¬ TocMarker.IsMarker (stripReturn line).1 := by
    rw [expandBlocks_eq]
    exact Stage.settled_of_expandLine TocMarker.staysInLine_expandLine
      TocMarker.not_isMarker_expandLine (Admonition.expand text)
  exact not_opensBlock_iff.mpr ⟨noHeader line member, noMarker line member⟩

theorem expandBlocks_eq_self {text : Text} (plain : ∀ line ∈ lines text, ¬ OpensBlock line) :
    expandBlocks text = text := by
  have noHeader : ∀ line ∈ lines text, Admonition.ofHeader? (stripReturn line).1 = none :=
    fun line member => (not_opensBlock_iff.mp (plain line member)).1
  have noMarker : ∀ line ∈ lines text, ¬ TocMarker.IsMarker (stripReturn line).1 :=
    fun line member => (not_opensBlock_iff.mp (plain line member)).2
  rw [expandBlocks_eq, Admonition.expand_eq_self noHeader]
  exact onLines_eq_self fun line member => TocMarker.expandLine_eq_self (noMarker line member)

/-- The block stages leave a text as it is exactly if none of its lines opens a block. -/
theorem expandBlocks_eq_self_iff (text : Text) :
    expandBlocks text = text ↔ ∀ line ∈ lines text, ¬ OpensBlock line := by
  constructor
  · intro unchanged line member
    rw [← unchanged] at member
    exact not_opensBlock_of_mem_lines_expandBlocks member
  · exact expandBlocks_eq_self

/-- Expanding the blocks of a text a second time changes nothing. -/
theorem expandBlocks_expandBlocks (text : Text) :
    expandBlocks (expandBlocks text) = expandBlocks text :=
  expandBlocks_eq_self fun _ => not_opensBlock_of_mem_lines_expandBlocks

end MarkdownDialect
