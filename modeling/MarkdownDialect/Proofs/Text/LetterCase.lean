import MarkdownDialect.Text.LetterCase

/-!
# Lower case of ASCII

Lower case leaves an ASCII character that is no capital letter where it is, so such a character is
in a text exactly if it is in the lower case of the text. No other character becomes one of ASCII,
except that the sign of kelvins becomes a `k`.
-/

namespace MarkdownDialect.Text

private theorem lowerAfter_ascii {text : Text} (ascii : ∀ c ∈ text, c.toNat < 128) (before : Text) :
    lowerAfter before text = toLowerAscii text := by
  induction text generalizing before with
  | nil => rfl
  | cons c rest inductionHypothesis =>
      have small : c.toNat < 128 := ascii c List.mem_cons_self
      have noSigma : c ≠ 'Σ' := by
        rintro rfl
        exact absurd small (by decide)
      have smallRest : ∀ d ∈ rest, d.toNat < 128 :=
        fun d member => ascii d (List.mem_cons_of_mem c member)
      rw [lowerAfter, if_neg noSigma, lowerChar, if_pos small, inductionHypothesis smallRest]
      rfl

/-- On ASCII the two ways to lower a text agree. -/
theorem toLower_of_ascii {text : Text} (ascii : ∀ c ∈ text, c.toNat < 128) :
    toLower text = toLowerAscii text :=
  lowerAfter_ascii ascii []

private theorem mem_lowerAfter {c : Char} (small : c.toNat < 128) (isLower : c.toLower = c)
    {text : Text} (member : c ∈ text) (before : Text) : c ∈ lowerAfter before text := by
  induction text generalizing before with
  | nil => exact member
  | cons d rest inductionHypothesis =>
      rw [lowerAfter]
      rcases List.mem_cons.mp member with rfl | inRest
      · have noSigma : c ≠ 'Σ' := by
          rintro rfl
          exact absurd small (by decide)
        have lowered : lowerChar c = [c] := by
          rw [lowerChar, if_pos small, isLower]
        rw [if_neg noSigma, lowered]
        exact List.mem_append_left _ (List.mem_singleton_self c)
      · exact List.mem_append_right _ (inductionHypothesis inRest (d :: before))

theorem mem_toLower {c : Char} (small : c.toNat < 128) (isLower : c.toLower = c)
    {text : Text} (member : c ∈ text) : c ∈ toLower text :=
  mem_lowerAfter small isLower member []

theorem mem_toLowerAscii {c : Char} (isLower : c.toLower = c) {text : Text}
    (member : c ∈ text) : c ∈ toLowerAscii text := by
  unfold toLowerAscii
  rw [List.mem_map]
  exact ⟨c, member, isLower⟩

/-- Only the capital letters of ASCII are changed. -/
theorem toLower_eq_self_or_capital (c : Char) :
    c.toLower = c ∨ 65 ≤ c.toNat ∧ c.toNat ≤ 90 := by
  by_cases capital : c.val ≥ 'A'.val ∧ c.val ≤ 'Z'.val
  · exact Or.inr ⟨UInt32.le_iff_toNat_le.mp capital.1, UInt32.le_iff_toNat_le.mp capital.2⟩
  · left
    unfold Char.toLower
    rw [dif_neg capital]

private theorem toNat_lt_of_toLower {c : Char} (small : c.toLower.toNat < 128) : c.toNat < 128 := by
  rcases toLower_eq_self_or_capital c with same | capital
  · rwa [same] at small
  · omega

/-- A spelling of an ASCII word in any letter case has the word as its full lower case, too. -/
theorem toLower_of_toLowerAscii {raw word : Text} (ascii : word.all fun c => c.toNat < 128)
    (spelled : toLowerAscii raw = word) : toLower raw = word := by
  rw [← spelled]
  apply toLower_of_ascii
  intro c member
  apply toNat_lt_of_toLower
  apply of_decide_eq_true
  apply List.all_eq_true.mp ascii
  rw [← spelled]
  exact List.mem_map_of_mem member

/-! ## No capital letter is left -/

theorem isUpper_of_le {c : Char} (large : 91 ≤ c.toNat) : c.isUpper = false := by
  rw [Bool.eq_false_iff]
  intro capital
  have bounds : c.val ≥ 'A'.val ∧ c.val ≤ 'Z'.val := of_decide_eq_true capital
  have bound : c.toNat ≤ 90 := UInt32.le_iff_toNat_le.mp bounds.2
  omega

private theorem isUpper_ofNat {n : Nat} (large : 91 ≤ n) : (Char.ofNat n).isUpper = false := by
  by_cases valid : n.isValidChar
  · have isChar : Char.ofNat n = Char.ofNatAux n valid := dif_pos valid
    rw [isChar]
    exact isUpper_of_le large
  · have isNull : Char.ofNat n = '\x00' := dif_neg valid
    rw [isNull]
    decide

private theorem isUpper_toLower {c : Char} (small : c.toNat < 128) : c.toLower.isUpper = false := by
  have each : ∀ n < 128, (Char.ofNat n).toLower.isUpper = false := by
    decide
  have ofCode := each c.toNat small
  rwa [Char.ofNat_toNat] at ofCode

set_option maxRecDepth 1000 in
/-- Every run leads to characters beyond ASCII, except that the sign of kelvins becomes a `k`. -/
theorem image_isForeign_of_mem_loweringRuns {run : CaseRun} (member : run ∈ loweringRuns) :
    (128 ≤ run.image ∨ run.image = 'k'.toNat ∧ run.first = run.last) ∧
      (run.image + (run.last - run.first) < 0xD800 ∨
        0xDFFF < run.image ∧ run.image + (run.last - run.first) < 0x110000) := by
  have images : loweringRuns.all (fun run =>
      decide ((128 ≤ run.image ∨ run.image = 'k'.toNat ∧ run.first = run.last) ∧
        (run.image + (run.last - run.first) < 0xD800 ∨
          0xDFFF < run.image ∧ run.image + (run.last - run.first) < 0x110000))) = true := by
    decide
  exact of_decide_eq_true (List.all_eq_true.mp images run member)

private theorem image_of_mem_loweringRuns {run : CaseRun} (member : run ∈ loweringRuns) :
    91 ≤ run.image := by
  rcases (image_isForeign_of_mem_loweringRuns member).1 with large | ⟨isKelvin, -⟩
  · omega
  · rw [isKelvin]
    decide

private theorem isUpper_of_mapByRuns {c lower : Char}
    (lowered : mapByRuns loweringRuns c = some lower) :
    lower.isUpper = false := by
  obtain ⟨code, found, rfl⟩ := Option.map_eq_some_iff.mp lowered
  obtain ⟨run, member, inRun⟩ := List.exists_of_findSome?_eq_some found
  have large := image_of_mem_loweringRuns member
  rw [CaseRun.image?] at inRun
  split at inRun
  · apply isUpper_ofNat
    rw [← Option.some.inj inRun]
    omega
  · contradiction

private theorem isUpper_of_mem_lowerChar {c lower : Char} (member : lower ∈ lowerChar c) :
    lower.isUpper = false := by
  unfold lowerChar at member
  split at member
  · next small =>
      rw [List.mem_singleton.mp member]
      exact isUpper_toLower small
  · next notSmall =>
      split at member
      · have isPlain : ['i', '\u0307'].all (fun c => !c.isUpper) = true := by
          decide
        simpa using List.all_eq_true.mp isPlain lower member
      · rw [List.mem_singleton.mp member]
        cases lowered : mapByRuns loweringRuns c with
        | none =>
            have large : 91 ≤ c.toNat := by
              omega
            exact isUpper_of_le large
        | some image => exact isUpper_of_mapByRuns lowered

private theorem isUpper_of_mem_lowerAfter {c : Char} {before text : Text}
    (member : c ∈ lowerAfter before text) : c.isUpper = false := by
  induction text generalizing before with
  | nil => exact absurd member List.not_mem_nil
  | cons d rest inductionHypothesis =>
      rw [lowerAfter, List.mem_append] at member
      cases member with
      | inl inFirst =>
          split at inFirst
          · split at inFirst
            · rw [List.mem_singleton.mp inFirst]
              decide
            · rw [List.mem_singleton.mp inFirst]
              decide
          · exact isUpper_of_mem_lowerChar inFirst
      | inr inRest => exact inductionHypothesis inRest

theorem isUpper_of_mem_toLower {c : Char} {text : Text} (member : c ∈ toLower text) :
    c.isUpper = false :=
  isUpper_of_mem_lowerAfter member

/-! ## Spellings of ASCII words -/

private theorem isForeign_of_mapByRuns {c lower : Char}
    (lowered : mapByRuns loweringRuns c = some lower) :
    lower = 'k' ∨ 128 ≤ lower.toNat := by
  obtain ⟨code, found, rfl⟩ := Option.map_eq_some_iff.mp lowered
  obtain ⟨run, member, inRun⟩ := List.exists_of_findSome?_eq_some found
  obtain ⟨foreign, isScalar⟩ := image_isForeign_of_mem_loweringRuns member
  rw [CaseRun.image?] at inRun
  split at inRun
  · next within =>
      simp only [Bool.and_eq_true, decide_eq_true_eq] at within
      rw [← Option.some.inj inRun]
      rcases foreign with large | ⟨isKelvin, single⟩
      · right
        have valid : (run.image + (c.toNat - run.first)).isValidChar := by
          unfold Nat.isValidChar
          omega
        have isChar : Char.ofNat (run.image + (c.toNat - run.first)) = Char.ofNatAux _ valid :=
          dif_pos valid
        rw [isChar]
        exact Nat.le_add_right_of_le large
      · left
        have isFirst : c.toNat - run.first = 0 := by omega
        rw [isKelvin, isFirst, Nat.add_zero, Char.ofNat_toNat]
  · contradiction

/-- The lower case of a character beyond ASCII shows that it is not of ASCII, unless it is `k`. -/
private theorem exists_foreign_mem_lowerAfter {c : Char} (large : 128 ≤ c.toNat) {text : Text}
    (member : c ∈ text) (before : Text) :
    ∃ lower ∈ lowerAfter before text, lower = 'k' ∨ 128 ≤ lower.toNat := by
  induction text generalizing before with
  | nil => exact absurd member List.not_mem_nil
  | cons d rest inductionHypothesis =>
      rw [lowerAfter]
      rcases List.mem_cons.mp member with rfl | inRest
      · suffices inFirst : ∃ lower ∈ (if c = 'Σ' then
            if seesCased before && !seesCased rest then ['ς'] else ['σ'] else lowerChar c),
            lower = 'k' ∨ 128 ≤ lower.toNat by
          obtain ⟨lower, isLower, foreign⟩ := inFirst
          exact ⟨lower, List.mem_append_left _ isLower, foreign⟩
        split
        · split
          · exact ⟨'ς', by simp, by decide⟩
          · exact ⟨'σ', by simp, by decide⟩
        · unfold lowerChar
          rw [if_neg (Nat.not_lt.mpr large)]
          split
          · exact ⟨'\u0307', by simp, by decide⟩
          · cases lowered : mapByRuns loweringRuns c with
            | none => exact ⟨c, by simp, Or.inr large⟩
            | some image => exact ⟨image, by simp, isForeign_of_mapByRuns lowered⟩
      · obtain ⟨lower, isLower, foreign⟩ := inductionHypothesis inRest (d :: before)
        exact ⟨lower, List.mem_append_right _ isLower, foreign⟩

/-- A text whose full lower case is an ASCII word without `k` is a spelling of that word. -/
theorem toLowerAscii_of_toLower {raw word : Text}
    (ascii : word.all fun c => c ≠ 'k' && c.toNat < 128) (lowered : toLower raw = word) :
    toLowerAscii raw = word := by
  rw [← lowered, toLower_of_ascii]
  intro c member
  refine Nat.lt_of_not_le fun large => ?_
  obtain ⟨lower, isLower, foreign⟩ := exists_foreign_mem_lowerAfter large member []
  have isAscii := List.all_eq_true.mp ascii lower (lowered ▸ isLower)
  simp only [Bool.and_eq_true, decide_eq_true_eq] at isAscii
  rcases foreign with isKelvin | isLarge
  · exact isAscii.1 isKelvin
  · omega

/-! ## No text disappears -/

theorem lowerChar_ne_nil (c : Char) : lowerChar c ≠ [] := by
  unfold lowerChar
  split
  · simp
  · split
    · simp
    · simp

theorem toLower_ne_nil {text : Text} (nonempty : text ≠ []) : toLower text ≠ [] := by
  cases text with
  | nil => exact absurd rfl nonempty
  | cons c rest =>
      have firstNonempty : (if c = 'Σ' then
          if seesCased [] && !seesCased rest then ['ς'] else ['σ'] else lowerChar c) ≠ [] := by
        by_cases sigma : c = 'Σ'
        · rw [if_pos sigma]
          split
          · simp
          · simp
        · rw [if_neg sigma]
          exact lowerChar_ne_nil c
      rw [toLower, lowerAfter]
      exact List.append_ne_nil_of_left_ne_nil firstNonempty _

end MarkdownDialect.Text
