import MarkdownDialect.Proofs.Text.LetterCase
import MarkdownDialect.Proofs.Text.Trimming
import MarkdownDialect.Text.Number

/-!
# Classes of characters

Letters and digits of ASCII are visible: none of them is white space.
-/

namespace MarkdownDialect.Text

theorem toNat_le_of_le {c d : Char} (below : c ≤ d) : c.toNat ≤ d.toNat :=
  UInt32.le_iff_toNat_le.mp below

/-- White space lies before the visible ASCII characters or behind them. -/
theorem isSpace_eq_false_of_bounds {c : Char} (low : 32 < c.toNat) (high : c.toNat ≤ 127) :
    isSpace c = false := by
  have outside : isSpace c = true → c.toNat ≤ 32 ∨ 127 < c.toNat := by
    intro space
    simp only [isSpace, Bool.or_eq_true, Bool.and_eq_true, decide_eq_true_eq] at space
    rcases space with
      ((((((((((⟨_, isLow⟩ | rfl) | rfl) | rfl) | rfl) | ⟨isHigh, _⟩) | rfl) | rfl) | rfl) | rfl) |
        rfl)
    · have bound := toNat_le_of_le isLow
      exact Or.inl (bound.trans (by decide))
    · exact Or.inl (by decide)
    · exact Or.inr (by decide)
    · exact Or.inr (by decide)
    · exact Or.inr (by decide)
    · have bound := toNat_le_of_le isHigh
      exact Or.inr (Nat.lt_of_lt_of_le (by decide) bound)
    · exact Or.inr (by decide)
    · exact Or.inr (by decide)
    · exact Or.inr (by decide)
    · exact Or.inr (by decide)
    · exact Or.inr (by decide)
  by_contra space
  rw [Bool.not_eq_false] at space
  have position := outside space
  omega

theorem toLower_of_isSpace {c : Char} (space : isSpace c = true) : c.toLower = c := by
  rcases toLower_eq_self_or_capital c with same | capital
  · exact same
  · rw [isSpace_eq_false_of_bounds (by omega) (by omega)] at space
    exact absurd space (by decide)

theorem isAsciiLetter_bounds {c : Char} (letter : isAsciiLetter c = true) :
    65 ≤ c.toNat ∧ c.toNat ≤ 122 := by
  have capitals : 'A'.val.toNat = 65 ∧ 'Z'.val.toNat = 90 := by decide
  have smalls : 'a'.val.toNat = 97 ∧ 'z'.val.toNat = 122 := by decide
  have inRanges : (decide ('A'.val ≤ c.val ∧ c.val ≤ 'Z'.val) ||
      ('a'.val ≤ c.val && c.val ≤ 'z'.val)) = true := letter
  simp only [Bool.or_eq_true, Bool.and_eq_true, decide_eq_true_eq, UInt32.le_iff_toNat_le]
    at inRanges
  show 65 ≤ c.val.toNat ∧ c.val.toNat ≤ 122
  omega

theorem isHexDigit_bounds {c : Char} (digit : isHexDigit c = true) :
    48 ≤ c.toNat ∧ c.toNat ≤ 102 := by
  have digits : '0'.val.toNat = 48 ∧ '9'.val.toNat = 57 := by decide
  have smalls : 'a'.val.toNat = 97 ∧ 'f'.val.toNat = 102 := by decide
  have capitals : 'A'.val.toNat = 65 ∧ 'F'.val.toNat = 70 := by decide
  simp only [isHexDigit, Char.isDigit, Bool.or_eq_true, Bool.and_eq_true, decide_eq_true_eq,
    ge_iff_le, UInt32.le_iff_toNat_le, Char.le_def] at digit
  show 48 ≤ c.val.toNat ∧ c.val.toNat ≤ 102
  omega

theorem isSpace_eq_false_of_isAsciiLetter {c : Char} (letter : isAsciiLetter c = true) :
    isSpace c = false := by
  have bounds := isAsciiLetter_bounds letter
  exact isSpace_eq_false_of_bounds (by omega) (by omega)

theorem isBlank_eq_false_of_isAsciiLetter {c : Char} (letter : isAsciiLetter c = true) :
    isBlank c = false := by
  by_contra blank
  simp only [isBlank, Bool.not_eq_false, Bool.or_eq_true, decide_eq_true_eq] at blank
  rcases blank with rfl | rfl <;> exact absurd letter (by decide)

theorem isSpace_eq_false_of_isHexDigit {c : Char} (digit : isHexDigit c = true) :
    isSpace c = false := by
  have bounds := isHexDigit_bounds digit
  exact isSpace_eq_false_of_bounds (by omega) (by omega)

theorem isSpace_eq_false_of_isDigit {c : Char} (digit : c.isDigit = true) : isSpace c = false :=
  isSpace_eq_false_of_isHexDigit (by rw [isHexDigit, digit]; rfl)

/-- A text without white space is trimmed. -/
theorem trim_of_no_space {text : Text} (visible : ∀ c ∈ text, isSpace c = false) :
    trim text = text :=
  hasVisibleEnds_iff.mp (.of_visible visible)

end MarkdownDialect.Text
