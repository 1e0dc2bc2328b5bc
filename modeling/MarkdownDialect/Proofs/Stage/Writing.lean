import MarkdownDialect.Proofs.Directive.UnderlineSpelling
import MarkdownDialect.Proofs.Stage.Composition
import MarkdownDialect.Proofs.Text.CharClass

/-!
# Documents as they are written

A line is written as a row of segments, each plain text or one directive, and may be wrapped as a
spoiler or an aligned line. The stages take up the directives kind by kind, so between two stages
some segments of a line are already HTML and the others are still as written; no stage is led
astray by either.
-/

namespace MarkdownDialect.Writing

open Text

/-! ## Segments -/

/-- The characters that directives and line endings are made of. -/
def specialChars : Text :=
  ['%', '=', '~', '!', '<', '>', '\r', '\n']

def IsPlain (text : Text) : Prop :=
  ∀ c ∈ specialChars, c ∉ text

instance (text : Text) : Decidable (IsPlain text) :=
  List.decidableBAll (fun c => c ∉ text) specialChars

/-- The slot of a colour. -/
def colorSlot : Color → Text
  | .named name => name
  | .hex literal => literal

/-- A word of ASCII letters, or a hexadecimal literal. -/
def IsSlotColor : Color → Prop
  | .named name => name ≠ [] ∧ ∀ c ∈ name, isAsciiLetter c = true
  | .hex literal => Color.isHexLiteral literal = true

/-- A piece of a line; the blanks around a coloured text belong to its directive. -/
inductive Segment where
  | plain (text : Text)
  | colored (color : Color) (before text after : Text)
  | highlighted (text : Text)
  | underlined (body : Text) (underline : Underline)

namespace Segment

def written : Segment → Text
  | plain text => text
  | colored color before text after =>
      '%' :: (colorSlot color ++ '%' :: (before ++ (text ++ (after ++ ['%', '%']))))
  | highlighted text => '=' :: '=' :: (text ++ ['=', '='])
  | underlined body _ => '!' :: '~' :: (body ++ ['~', '!'])

def rendered (palette : Palette) : Segment → Text
  | plain text => text
  | colored color _ text _ => ColoredText.html (color.css palette) text
  | highlighted text => Highlight.html text
  | underlined _ underline => underline.html palette

def IsWellFormed : Segment → Prop
  | plain text => IsPlain text
  | colored color before text after =>
      IsSlotColor color ∧ IsPlain text ∧ text ≠ [] ∧ trim text = text ∧
        (∀ c ∈ before, isBlank c = true) ∧ ∀ c ∈ after, isBlank c = true
  | highlighted text => IsPlain text ∧ text ≠ []
  | underlined body underline => IsPlain body ∧ Underline.Spells body underline

/-- A segment once the coloured texts are expanded. -/
def afterColors (palette : Palette) : Segment → Text
  | colored color before text after => (colored color before text after).rendered palette
  | other => other.written

/-- A segment once the highlights are expanded, too. -/
def afterHighlights (palette : Palette) : Segment → Text
  | highlighted text => (highlighted text).rendered palette
  | other => other.afterColors palette

end Segment

/-! ## Lines -/

inductive Wrapping where
  | bare
  | spoiler
  | aligned (alignment : Alignment)

namespace Wrapping

def written (content : Text) : Wrapping → Text
  | bare => content
  | spoiler => '!' :: '>' :: content
  | aligned alignment => '-' :: '>' :: ' ' :: (content ++ ' ' :: alignment.closingArrow)

def rendered (content : Text) : Wrapping → Text
  | bare => content
  | spoiler => Spoiler.html content
  | aligned alignment => alignment.html content

/-- Only something that neither begins nor ends with a blank can be wrapped. -/
def Admits (content : Text) : Wrapping → Prop
  | bare => True
  | spoiler | aligned _ =>
      content ≠ [] ∧ (∀ c, content.head? = some c → isBlank c = false) ∧
        ∀ c, content.getLast? = some c → isBlank c = false

/-- What stands before the content once the spoilers are expanded. -/
def opening : Wrapping → Text
  | bare => []
  | spoiler => "<span class=\"spoiler\">".toList
  | aligned _ => ['-', '>', ' ']

/-- What stands behind the content once the spoilers are expanded. -/
def closing : Wrapping → Text
  | bare => []
  | spoiler => "</span>".toList
  | aligned alignment => ' ' :: alignment.closingArrow

end Wrapping

structure Line where
  wrapping : Wrapping
  segments : List Segment

namespace Line

def written (line : Line) : Text :=
  line.wrapping.written (line.segments.flatMap Segment.written)

def rendered (palette : Palette) (line : Line) : Text :=
  line.wrapping.rendered (line.segments.flatMap (Segment.rendered palette))

def IsWellFormed (line : Line) : Prop :=
  (∀ segment ∈ line.segments, segment.IsWellFormed) ∧
    line.wrapping.Admits (line.segments.flatMap Segment.written)

end Line

/-- Whether no value of a palette holds a character that directives are made of. -/
def HasPlainValues (palette : Palette) : Prop :=
  ∀ entry ∈ palette.entries, IsPlain entry.2

instance (palette : Palette) : Decidable (HasPlainValues palette) :=
  inferInstanceAs (Decidable (∀ entry ∈ palette.entries, IsPlain entry.2))

/-! ## Colours in their slots -/

theorem isSlot_colorSlot {color : Color} (isSlotColor : IsSlotColor color) :
    ColoredText.IsSlot (colorSlot color) := by
  cases color with
  | named name => exact Or.inr isSlotColor
  | hex literal => exact Or.inl isSlotColor

theorem isHexLiteral_eq_cons {literal : Text} (isHex : Color.isHexLiteral literal = true) :
    ∃ digits, literal = '#' :: digits ∧ ∀ c ∈ digits, isHexDigit c = true := by
  unfold Color.isHexLiteral at isHex
  split at isHex
  · next digits =>
      simp only [Bool.and_eq_true, List.all_eq_true] at isHex
      exact ⟨digits, rfl, isHex.2⟩
  · simp at isHex

/-- A colour is read from its slot. -/
theorem ofText_colorSlot {color : Color} (isSlotColor : IsSlotColor color) :
    Color.ofText (colorSlot color) = color := by
  unfold Color.ofText
  cases color with
  | named name =>
      obtain ⟨_, letters⟩ := isSlotColor
      have trimmed : trim name = name :=
        trim_of_no_space fun c member => isSpace_eq_false_of_isAsciiLetter (letters c member)
      have noHex : ¬ Color.isHexLiteral name = true := by
        intro isHex
        obtain ⟨digits, rfl, _⟩ := isHexLiteral_eq_cons isHex
        exact absurd (letters '#' List.mem_cons_self) (by decide)
      rw [colorSlot, trimmed, if_neg noHex]
  | hex literal =>
      have isHex : Color.isHexLiteral literal = true := isSlotColor
      obtain ⟨digits, rfl, areDigits⟩ := isHexLiteral_eq_cons isHex
      have trimmed : trim ('#' :: digits) = '#' :: digits := by
        apply trim_of_no_space
        intro c member
        rcases List.mem_cons.mp member with rfl | inDigits
        · decide
        · exact isSpace_eq_false_of_isHexDigit (areDigits c inDigits)
      rw [colorSlot, trimmed, if_pos isHex]

theorem not_mem_css {color : Color} (isSlotColor : IsSlotColor color) {palette : Palette}
    (plainValues : HasPlainValues palette) {c : Char} (special : c ∈ specialChars) :
    c ∉ color.css palette := by
  have absentInSlot : c ∉ colorSlot color := by
    simp only [specialChars, List.mem_cons, List.not_mem_nil, or_false] at special
    rcases special with rfl | rfl | rfl | rfl | rfl | rfl | rfl | rfl <;>
      exact (isSlot_colorSlot isSlotColor).not_mem (by decide) (by decide) (by decide)
  rw [← ofText_colorSlot isSlotColor]
  exact Color.not_mem_css (fun entry member => plainValues entry member c special) absentInSlot

/-! ## Segments from stage to stage -/

namespace Segment

variable {palette : Palette} {segment : Segment}

theorem not_mem_written (wellFormed : segment.IsWellFormed) {c : Char}
    (lineEnd : c = '>' ∨ c = '\r' ∨ c = '\n') : c ∉ segment.written := by
  have special : c ∈ specialChars := by
    rcases lineEnd with rfl | rfl | rfl <;> decide
  have noDelimiter : c ≠ '%' ∧ c ≠ '=' ∧ c ≠ '~' ∧ c ≠ '!' := by
    rcases lineEnd with rfl | rfl | rfl <;> decide
  have noBlank : ∀ {blanks : Text}, (∀ d ∈ blanks, isBlank d = true) → c ∉ blanks := by
    intro blanks areBlank member
    have blank := areBlank c member
    rcases lineEnd with rfl | rfl | rfl <;> exact absurd blank (by decide)
  cases segment with
  | plain text => exact wellFormed c special
  | colored color before text after =>
      obtain ⟨isSlotColor, plain, _, _, beforeBlank, afterBlank⟩ := wellFormed
      have absentInSlot : c ∉ colorSlot color := by
        rcases lineEnd with rfl | rfl | rfl <;>
          exact (isSlot_colorSlot isSlotColor).not_mem (by decide) (by decide) (by decide)
      simp only [written, List.mem_cons, List.mem_append, List.not_mem_nil, not_or, or_false]
      exact ⟨noDelimiter.1, absentInSlot, noDelimiter.1, noBlank beforeBlank, plain c special,
        noBlank afterBlank, noDelimiter.1, noDelimiter.1⟩
  | highlighted text =>
      simp only [written, List.mem_cons, List.mem_append, List.not_mem_nil, not_or, or_false]
      exact ⟨noDelimiter.2.1, noDelimiter.2.1, wellFormed.1 c special, noDelimiter.2.1,
        noDelimiter.2.1⟩
  | underlined body underline =>
      simp only [written, List.mem_cons, List.mem_append, List.not_mem_nil, not_or, or_false]
      exact ⟨noDelimiter.2.2.2, noDelimiter.2.2.1, wellFormed.1 c special, noDelimiter.2.2.1,
        noDelimiter.2.2.2⟩

/-- Coloured texts are expanded, and nothing else in a line holds a percent sign. -/
theorem colors_step (palette : Palette) (wellFormed : segment.IsWellFormed) :
    Inert (ColoredText.find? palette) segment.written ∧
        segment.afterColors palette = segment.written ∨
      ∀ rest, ColoredText.find? palette (segment.written ++ rest) =
        some (segment.afterColors palette, rest) := by
  have inert : ∀ {piece : Text}, '%' ∉ piece → Inert (ColoredText.find? palette) piece :=
    fun absent =>
      inert_of_not_mem (fun _ rest => ColoredText.find?_eq_none_of_ne palette rest) absent
  cases segment with
  | plain text => exact Or.inl ⟨inert (wellFormed '%' (by decide)), rfl⟩
  | colored color before text after =>
      right
      intro rest
      obtain ⟨isSlotColor, plain, nonempty, trimmed, beforeBlank, afterBlank⟩ := wellFormed
      have reading := ColoredText.find?_eq_some palette rest (isSlot_colorSlot isSlotColor) nonempty
        (plain '\r' (by decide)) (plain '%' (by decide)) trimmed beforeBlank afterBlank
      rw [ofText_colorSlot isSlotColor] at reading
      simpa [written, afterColors, rendered] using reading
  | highlighted text =>
      refine Or.inl ⟨inert ?_, rfl⟩
      have absent := wellFormed.1 '%' (by decide)
      simp [written, absent]
  | underlined body underline =>
      refine Or.inl ⟨inert ?_, rfl⟩
      have absent := wellFormed.1 '%' (by decide)
      simp [written, absent]

/-- Highlights are expanded. The equals sign in the HTML of a coloured text stands alone. -/
theorem highlights_step (plainValues : HasPlainValues palette)
    (wellFormed : segment.IsWellFormed) :
    Inert Highlight.find? (segment.afterColors palette) ∧
        segment.afterHighlights palette = segment.afterColors palette ∨
      ∀ rest, Highlight.find? (segment.afterColors palette ++ rest) =
        some (segment.afterHighlights palette, rest) := by
  cases segment with
  | plain text => exact Or.inl ⟨Highlight.inert_of_not_mem (wellFormed '=' (by decide)), rfl⟩
  | colored color before text after =>
      refine Or.inl ⟨?_, rfl⟩
      obtain ⟨isSlotColor, plain, _⟩ := wellFormed
      have absentInColor := not_mem_css isSlotColor plainValues (by decide : '=' ∈ specialChars)
      have absentInText := plain '=' (by decide)
      have split : (colored color before text after).afterColors palette =
          "<span style".toList ++ (['=', '\x22'] ++
            ("color: ".toList ++
              (color.css palette ++ ("\">".toList ++ (text ++ "</span>".toList))))) := by
        unfold afterColors rendered ColoredText.html
        simp only [List.append_assoc]
        rfl
      rw [split]
      exact (Highlight.inert_of_not_mem (by decide)).append (Highlight.inert_attribute.append
        ((Highlight.inert_of_not_mem (by decide)).append
        ((Highlight.inert_of_not_mem absentInColor).append
        ((Highlight.inert_of_not_mem (by decide)).append
        ((Highlight.inert_of_not_mem absentInText).append
        (Highlight.inert_of_not_mem (by decide)))))))
  | highlighted text =>
      right
      intro rest
      have reading := Highlight.find?_eq_some rest wellFormed.2 (wellFormed.1 '\r' (by decide))
        (wellFormed.1 '=' (by decide))
      simpa [written, afterColors, afterHighlights, rendered] using reading
  | underlined body underline =>
      refine Or.inl ⟨Highlight.inert_of_not_mem ?_, rfl⟩
      have absent := wellFormed.1 '=' (by decide)
      simp [written, afterColors, absent]

/-- Underlines are expanded, and no HTML in a line holds an exclamation mark. -/
theorem underlines_step (plainValues : HasPlainValues palette)
    (wellFormed : segment.IsWellFormed) :
    Inert (Underline.find? palette) (segment.afterHighlights palette) ∧
        segment.rendered palette = segment.afterHighlights palette ∨
      ∀ rest, Underline.find? palette (segment.afterHighlights palette ++ rest) =
        some (segment.rendered palette, rest) := by
  have inert : ∀ {piece : Text}, '!' ∉ piece → Inert (Underline.find? palette) piece :=
    fun absent => inert_of_not_mem (fun _ rest => Underline.find?_eq_none_of_ne palette rest) absent
  cases segment with
  | plain text => exact Or.inl ⟨inert (wellFormed '!' (by decide)), rfl⟩
  | colored color before text after =>
      refine Or.inl ⟨inert ?_, rfl⟩
      have absentInColor := not_mem_css wellFormed.1 plainValues (by decide : '!' ∈ specialChars)
      have absentInText := wellFormed.2.1 '!' (by decide)
      exact (ColoredText.mem_html (by decide)).not.mpr (not_or.mpr ⟨absentInColor, absentInText⟩)
  | highlighted text =>
      refine Or.inl ⟨inert ?_, rfl⟩
      exact (Highlight.mem_html (by decide)).not.mpr (wellFormed.1 '!' (by decide))
  | underlined body underline =>
      right
      intro rest
      have inside : ∀ c ∈ body, Underline.isBodyChar c = true := by
        intro c member
        have noTilde : c ≠ '~' := fun equal => wellFormed.1 '~' (by decide) (equal ▸ member)
        have noReturn : c ≠ '\r' := fun equal => wellFormed.1 '\r' (by decide) (equal ▸ member)
        simp [Underline.isBodyChar, noTilde, noReturn]
      have reading := Underline.find?_eq_some palette rest inside
        (Underline.ofBody?_of_spells wellFormed.2)
      simpa [written, afterColors, afterHighlights, rendered] using reading

theorem return_not_mem_rendered (plainValues : HasPlainValues palette)
    (wellFormed : segment.IsWellFormed) : '\r' ∉ segment.rendered palette := by
  cases segment with
  | plain text => exact wellFormed '\r' (by decide)
  | colored color before text after =>
      have absentInColor := not_mem_css wellFormed.1 plainValues (by decide : '\r' ∈ specialChars)
      have absentInText := wellFormed.2.1 '\r' (by decide)
      exact (ColoredText.mem_html (by decide)).not.mpr (not_or.mpr ⟨absentInColor, absentInText⟩)
  | highlighted text =>
      exact (Highlight.mem_html (by decide)).not.mpr (wellFormed.1 '\r' (by decide))
  | underlined body underline =>
      exact Underline.not_mem_html (by decide)
        (fun entry member => plainValues entry member '\r' (by decide))
        (wellFormed.1 '\r' (by decide)) (Underline.ofBody?_of_spells wellFormed.2)

end Segment

end MarkdownDialect.Writing
