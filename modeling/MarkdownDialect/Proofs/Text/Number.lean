import MarkdownDialect.Text.Number

/-!
# Numbers in decimal digits

What a number is read from, and what it is written with, holds only digits. A number below ten is
one digit, and no other number is written with a leading zero.
-/

namespace MarkdownDialect.Text

theorem isDigit_bounds {c : Char} (isDigit : c.isDigit = true) :
    48 ≤ c.toNat ∧ c.toNat ≤ 57 := by
  simp only [Char.isDigit, Bool.and_eq_true, decide_eq_true_eq] at isDigit
  exact ⟨UInt32.le_iff_toNat_le.mp isDigit.1, UInt32.le_iff_toNat_le.mp isDigit.2⟩

/-- A row of digits ends where something else follows. -/
theorem isDigit_append {digits rest : Text} (areDigits : ∀ c ∈ digits, c.isDigit = true)
    (stops : ∀ c ∈ rest.head?, c.isDigit = false) :
    (digits ++ rest).takeWhile Char.isDigit = digits ∧
      (digits ++ rest).dropWhile Char.isDigit = rest := by
  rw [List.takeWhile_append_of_pos areDigits, List.dropWhile_append_of_pos areDigits]
  cases rest with
  | nil => simp
  | cons c others =>
      have noDigit := stops c rfl
      simp [noDigit]

theorem isDigit_of_mem_ofNat (n : Nat) : ∀ c ∈ ofNat n, c.isDigit = true :=
  fun _ member => Nat.isDigit_of_mem_toDigits (by decide) (by decide) member

theorem not_mem_ofNat {c : Char} (noDigit : c.isDigit = false) (n : Nat) : c ∉ ofNat n := by
  intro member
  have isDigit := isDigit_of_mem_ofNat n c member
  rw [noDigit] at isDigit
  exact absurd isDigit (by decide)

theorem ofNat_of_lt_ten {n : Nat} (small : n < 10) : ofNat n = [Nat.digitChar n] :=
  Nat.toDigits_of_lt_base small

@[simp]
theorem decimalValue_ofNat (n : Nat) : decimalValue (ofNat n) = n :=
  Nat.ofDigitChars_toDigits (by decide) (by decide)

/-- Numbers are written without leading zeros. -/
theorem head?_ofNat_ne_zero {n : Nat} (positive : 0 < n) : (ofNat n).head? ≠ some '0' := by
  induction n using Nat.strongRecOn with
  | ind n inductionHypothesis =>
      by_cases small : n < 10
      · rw [ofNat_of_lt_ten small]
        have digits : ∀ digit < 10, 0 < digit → [Nat.digitChar digit].head? ≠ some '0' := by
          decide
        exact digits n small positive
      · have large : 10 ≤ n := Nat.le_of_not_lt small
        have shorter : (ofNat n).head? = (ofNat (n / 10)).head? := by
          rw [ofNat, ofNat, Nat.toDigits_of_base_le (by decide) large]
          cases digits : Nat.toDigits 10 (n / 10) with
          | nil => exact absurd digits Nat.toDigits_ne_nil
          | cons first others => rfl
        rw [shorter]
        exact inductionHypothesis (n / 10) (by omega) (by omega)

theorem readDecimal_eq_some_iff {bound n : Nat} {text : Text} :
    readDecimal bound text = some n ↔
      text ≠ [] ∧ (∀ c ∈ text, c.isDigit = true) ∧ decimalValue text = n ∧ n < bound := by
  unfold readDecimal
  constructor
  · intro reading
    split at reading
    · next accepted =>
        simp only [Bool.and_eq_true, Bool.not_eq_true', List.isEmpty_eq_false_iff, List.all_eq_true,
          decide_eq_true_eq] at accepted
        obtain rfl := Option.some.inj reading
        exact ⟨accepted.1.1, accepted.1.2, rfl, accepted.2⟩
    · contradiction
  · rintro ⟨nonempty, areDigits, rfl, fits⟩
    rw [if_pos]
    simpa [nonempty, fits] using areDigits

private theorem isDigit_of_readDecimal {bound n : Nat} {text : Text}
    (reading : readDecimal bound text = some n) : ∀ c ∈ text, c.isDigit = true :=
  (readDecimal_eq_some_iff.mp reading).2.1

/-- A single character is read as a number exactly if it is an ASCII digit. -/
theorem readSignedDecimal_singleton {c : Char} (noPlus : c ≠ '+') {bound : Nat}
    (large : 9 < bound) :
    readSignedDecimal bound [c] = if c.isDigit then some (digitValue c) else none := by
  have unsigned : readSignedDecimal bound [c] = readDecimal bound [c] := by
    unfold readSignedDecimal
    split
    · next digits split => exact absurd (List.cons.inj split).1 noPlus
    · rfl
  have value : decimalValue [c] = digitValue c := by
    simp [decimalValue]
  rw [unsigned]
  by_cases isDigit : c.isDigit = true
  · have small : digitValue c < bound := by
      have zero : '0'.toNat = 48 := rfl
      have bounds := isDigit_bounds isDigit
      unfold digitValue
      omega
    simp [readDecimal, isDigit, value, small]
  · simp [readDecimal, isDigit]

theorem not_mem_of_readSignedDecimal {bound n : Nat} {c : Char} {text : Text}
    (noDigit : c.isDigit = false) (noPlus : c ≠ '+')
    (reading : readSignedDecimal bound text = some n) : c ∉ text := by
  have absent : ∀ {digits : Text}, readDecimal bound digits = some n → c ∉ digits := by
    intro digits digitsReading member
    have isDigit := isDigit_of_readDecimal digitsReading c member
    rw [noDigit] at isDigit
    exact absurd isDigit (by decide)
  unfold readSignedDecimal at reading
  split at reading
  · next digits =>
      exact List.not_mem_cons_of_ne_of_not_mem noPlus (absent reading)
  · exact absent reading

end MarkdownDialect.Text
