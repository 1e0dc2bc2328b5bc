import MarkdownDialect.Proofs.Directive.InlinePattern
import MarkdownDialect.Proofs.Directive.UnderlineSpelling
import MarkdownDialect.Proofs.Text.CharClass
import MarkdownDialect.Stage
import Mathlib.Data.Bool.AllAny

/-!
# Underlines as they are written

The body of an underline is written slot by slot, each slot and the text with any white space
around it. Reading accepts exactly the bodies that are written in this way and gives back what was
written. A directive with such a body is drawn, and with any other it stays as it is.
-/

namespace MarkdownDialect

open Text

namespace Underline

/-! ## Parts of a body -/

/-- What can stand in a part of a body, apart from the white space around it. -/
structure IsContent (content : Text) : Prop where
  nonempty : content ≠ []
  visibleEnds : HasVisibleEnds content
  noSemicolon : ';' ∉ content

theorem isContent_of_visible {content : Text} (nonempty : content ≠ [])
    (visible : ∀ c ∈ content, isSpace c = false ∧ c ≠ ';') : IsContent content :=
  ⟨nonempty, .of_visible fun c member => (visible c member).1,
    fun member => (visible ';' member).2 rfl⟩

/-- A spelling of a keyword in any letter case. -/
theorem isContent_of_toLowerAscii {raw word : Text}
    (visible : word ≠ [] ∧ word.all fun c => isSpace c = false ∧ c ≠ ';')
    (spelled : toLowerAscii raw = word) : IsContent raw := by
  have visibleInWord := List.all_iff_forall_prop.mp visible.2
  apply isContent_of_visible
  · rintro rfl
    exact visible.1 spelled.symm
  · intro c member
    refine ⟨?_, ?_⟩
    · by_contra space
      rw [Bool.not_eq_false] at space
      have kept := mem_toLowerAscii (toLower_of_isSpace space) member
      rw [(visibleInWord c (spelled ▸ kept)).1] at space
      exact absurd space (by decide)
    · rintro rfl
      have kept := mem_toLowerAscii (by decide) member
      exact (visibleInWord ';' (spelled ▸ kept)).2 rfl

/-- A spelling of the word that asks for the default of a slot. -/
def IsDefaultWord (word : Text) : Prop :=
  toLowerAscii word = "default".toList

theorem isContent_of_isDefaultWord {word : Text} (isDefault : IsDefaultWord word) :
    IsContent word :=
  isContent_of_toLowerAscii (by decide) isDefault

/-! ## Values of slots -/

/-- A number sign with six hexadecimal digits. -/
def IsHexCode (token : Text) : Prop :=
  ∃ digits, token = '#' :: digits ∧ digits.length = 6 ∧ ∀ c ∈ digits, isHexDigit c = true

/-- A colour is written as one token, which may be any content but the word for the default. -/
structure WritesColor (token : Text) (color : Color) : Prop where
  isContent : IsContent token
  notDefault : ¬IsDefaultWord token
  classified : IsHexCode token ∧ color = .hex token ∨ ¬IsHexCode token ∧ color = .named token

/-- What is written in the slot for a value that may be left out. -/
inductive WritesSlot {α : Type} (writes : Text → α → Prop) : Option Text → Option α → Prop
  /-- The slots end before this one. -/
  | missing : WritesSlot writes none none
  | blank {part : Text} : IsPadded [] part → WritesSlot writes (some part) none
  | default {word part : Text} :
      IsDefaultWord word → IsPadded word part → WritesSlot writes (some part) none
  | value {content part : Text} {value : α} :
      writes content value → IsPadded content part → WritesSlot writes (some part) (some value)

/-- How the parts of a body are written: up to four slots and the text. -/
structure WritesParts (slots : List Text) (text : Text) (underline : Underline) : Prop where
  fewSlots : slots.length ≤ slotCount
  color : WritesSlot WritesColor slots[0]? underline.color
  style : WritesSlot SpellsStyle slots[1]? underline.style
  decoration : WritesSlot SpellsDecoration slots[2]? underline.decoration
  thickness : WritesSlot SpellsThickness slots[3]? underline.thickness
  isText : IsContent underline.text
  text : IsPadded underline.text text

/-- A body that is written for an underline. -/
def Writes (body : Text) (underline : Underline) : Prop :=
  ∃ slots text, body = joinWith [';'] (slots ++ [text]) ∧ WritesParts slots text underline

/-! ## What is written is read -/

theorem isHexLiteral_iff {token : Text} : Color.isHexLiteral token = true ↔ IsHexCode token := by
  unfold Color.isHexLiteral IsHexCode
  split
  · simp
  · next notHex =>
      refine iff_of_false Bool.false_ne_true ?_
      rintro ⟨digits, rfl, -⟩
      exact notHex digits rfl

/-- The content of a slot that is not left out. -/
def IsValue (content : Text) : Prop :=
  IsContent content ∧ ¬IsDefaultWord content

theorem isValue_of_spellsStyle {raw : Text} {style : LineStyle} (spelled : SpellsStyle raw style) :
    IsValue raw := by
  refine ⟨isContent_of_toLowerAscii ?_ spelled, fun isDefault => ?_⟩
  · cases style <;> decide
  · have same := spelled.symm.trans isDefault
    cases style <;> exact absurd same (by decide)

theorem isValue_of_spellsDecoration {raw : Text} {decoration : Decoration}
    (spelled : SpellsDecoration raw decoration) : IsValue raw := by
  refine ⟨isContent_of_toLowerAscii ?_ spelled, fun isDefault => ?_⟩
  · cases decoration <;> decide
  · have same := spelled.symm.trans isDefault
    cases decoration <;> exact absurd same (by decide)

theorem isValue_of_spellsThickness {raw : Text} {thickness : Nat}
    (spelled : SpellsThickness raw thickness) : IsValue raw := by
  obtain ⟨digits, written, nonempty, areDigits, -⟩ := spelled
  have signs : ∀ c ∈ raw, c.isDigit = true ∨ c = '+' := by
    rcases written with rfl | rfl
    · exact fun c member => Or.inl (areDigits c member)
    · intro c member
      rcases List.mem_cons.mp member with rfl | inDigits
      · exact Or.inr rfl
      · exact Or.inl (areDigits c inDigits)
  have rawNonempty : raw ≠ [] := by
    rcases written with rfl | rfl
    · exact nonempty
    · exact List.cons_ne_nil _ _
  constructor
  · apply isContent_of_visible rawNonempty
    intro c member
    rcases signs c member with isDigit | rfl
    · refine ⟨isSpace_eq_false_of_isDigit isDigit, ?_⟩
      rintro rfl
      exact absurd isDigit (by decide)
    · decide
  · intro isDefault
    obtain ⟨c, rest, rfl⟩ := List.exists_cons_of_ne_nil rawNonempty
    have isD : c.toLower = 'd' := (List.cons.inj isDefault).1
    rcases signs c List.mem_cons_self with isDigit | rfl
    · have bounds := isDigit_bounds isDigit
      rcases toLower_eq_self_or_capital c with same | capital
      · rw [← same, isD] at isDigit
        exact absurd isDigit (by decide)
      · omega
    · exact absurd isD (by decide)

section

variable {α : Type} {writes spells : Text → α → Prop} {slot : Option Text} {value : Option α}

private theorem WritesSlot.noSemicolon
    (areValues : ∀ content value, writes content value → IsValue content)
    (written : WritesSlot writes slot value) : ∀ part ∈ slot, ';' ∉ part := by
  have visible : isSpace ';' = false := by decide
  intro part isPart
  cases written with
  | missing => exact absurd isPart (by simp)
  | blank padded =>
      cases isPart
      exact padded.not_mem visible List.not_mem_nil
  | default isDefault padded =>
      cases isPart
      exact padded.not_mem visible (isContent_of_isDefaultWord isDefault).noSemicolon
  | value written padded =>
      cases isPart
      exact padded.not_mem visible (areValues _ _ written).1.noSemicolon

private theorem WritesSlot.spellsSlot
    (areValues : ∀ content value, writes content value → IsValue content)
    (areSpelled : ∀ content value, writes content value → spells content value)
    (written : WritesSlot writes slot value) : SpellsSlot spells slot value := by
  cases written with
  | missing => exact .absent
  | blank padded => exact .default (Or.inl (padded.trim_eq ⟨nofun, nofun⟩))
  | default isDefault padded =>
      apply SpellsSlot.default
      right
      rw [padded.trim_eq (isContent_of_isDefaultWord isDefault).visibleEnds]
      exact isDefault
  | value written padded =>
      obtain ⟨isContent, notDefault⟩ := areValues _ _ written
      have trimmed := padded.trim_eq isContent.visibleEnds
      apply SpellsSlot.value
      · rw [AsksForDefault, trimmed, not_or]
        exact ⟨isContent.nonempty, notDefault⟩
      · rw [trimmed]
        exact areSpelled _ _ written

end

private theorem WritesParts.noSemicolon {slots : List Text} {text : Text} {underline : Underline}
    (written : WritesParts slots text underline) : ∀ part ∈ slots ++ [text], ';' ∉ part := by
  intro part member
  rcases List.mem_append.mp member with inSlots | isText
  · obtain ⟨index, inRange, found⟩ := List.mem_iff_getElem.mp inSlots
    have isPart : part ∈ slots[index]? := by simp [inRange, found]
    have fewSlots := written.fewSlots
    rw [slotCount] at fewSlots
    have position : index = 0 ∨ index = 1 ∨ index = 2 ∨ index = 3 := by omega
    rcases position with rfl | rfl | rfl | rfl
    · exact written.color.noSemicolon
        (fun _ _ isColor => ⟨isColor.isContent, isColor.notDefault⟩) part isPart
    · exact written.style.noSemicolon (fun _ _ => isValue_of_spellsStyle) part isPart
    · exact written.decoration.noSemicolon (fun _ _ => isValue_of_spellsDecoration) part isPart
    · exact written.thickness.noSemicolon (fun _ _ => isValue_of_spellsThickness) part isPart
  · rw [List.mem_singleton.mp isText]
    exact written.text.not_mem (by decide) written.isText.noSemicolon

private theorem Writes.spells {body : Text} {underline : Underline}
    (written : Writes body underline) :
    Spells body underline := by
  obtain ⟨slots, text, rfl, parts⟩ := written
  have trimmed := parts.text.trim_eq parts.isText.visibleEnds
  refine ⟨slots, text, rfl, parts.noSemicolon, parts.fewSlots, ?_, trimmed.symm, ?_, ?_, ?_, ?_⟩
  · rw [trimmed]
    exact parts.isText.nonempty
  · refine parts.color.spellsSlot
      (fun _ _ isColor => ⟨isColor.isContent, isColor.notDefault⟩) fun token color isColor => ?_
    rcases isColor.classified with ⟨isHex, isLiteral⟩ | ⟨noHex, isName⟩
    · exact Or.inl ⟨isLiteral, isHexLiteral_iff.mpr isHex⟩
    · exact Or.inr ⟨isName, Bool.eq_false_iff.mpr (mt isHexLiteral_iff.mp noHex)⟩
  · exact parts.style.spellsSlot (fun _ _ => isValue_of_spellsStyle) fun _ _ => id
  · exact parts.decoration.spellsSlot (fun _ _ => isValue_of_spellsDecoration) fun _ _ => id
  · exact parts.thickness.spellsSlot (fun _ _ => isValue_of_spellsThickness) fun _ _ => id

/-! ## What is read was written -/

private theorem writesColor_ofText {token : Text} (isContent : IsContent token)
    (notDefault : ¬IsDefaultWord token) : WritesColor token (Color.ofText token) := by
  refine ⟨isContent, notDefault, ?_⟩
  rw [Color.ofText, hasVisibleEnds_iff.mp isContent.visibleEnds, ← isHexLiteral_iff]
  by_cases isHex : Color.isHexLiteral token = true
  · exact Or.inl ⟨isHex, if_pos isHex⟩
  · exact Or.inr ⟨isHex, if_neg isHex⟩

private theorem spellsStyle_of_reading {raw : Text} {style : LineStyle}
    (reading : LineStyle.ofText? raw = some style) : SpellsStyle raw style := by
  have lowered : style.css = toLower raw := by simpa using List.find?_some reading
  apply toLowerAscii_of_toLower _ lowered.symm
  cases style <;> decide

private theorem spellsDecoration_of_reading {raw : Text} {decoration : Decoration}
    (reading : Decoration.ofText? raw = some decoration) : SpellsDecoration raw decoration := by
  have lowered : decoration.keyword = toLower raw := by simpa using List.find?_some reading
  apply toLowerAscii_of_toLower _ lowered.symm
  cases decoration <;> decide

private theorem spellsThickness_of_reading {raw : Text} {thickness : Nat}
    (reading : readThickness? raw = some thickness) : SpellsThickness raw thickness := by
  rw [readThickness?, Option.filter_eq_some_iff, decide_eq_true_eq] at reading
  obtain ⟨signedReading, positive⟩ := reading
  have exists_digits : ∃ digits, (raw = digits ∨ raw = '+' :: digits) ∧
      readDecimal bound32 digits = some thickness := by
    unfold readSignedDecimal at signedReading
    split at signedReading
    · next digits => exact ⟨digits, Or.inr rfl, signedReading⟩
    · exact ⟨raw, Or.inl rfl, signedReading⟩
  obtain ⟨digits, written, digitsReading⟩ := exists_digits
  obtain ⟨nonempty, areDigits, isValue, fits⟩ := readDecimal_eq_some_iff.mp digitsReading
  exact ⟨digits, written, nonempty, areDigits, isValue, positive, fits⟩

section

variable {α : Type} {writes : Text → α → Prop} {slots : List Text} {position : Nat}
  {value : Option α}

/-- A slot is left out, or its content is what the slot holds without the white space around it. -/
theorem writesSlot_of_slot? (noSemicolon : ∀ part ∈ slots, ';' ∉ part)
    (leftOut : slot? (slots.map trim) position = none → value = none)
    (given : ∀ content, IsContent content → ¬IsDefaultWord content →
      slot? (slots.map trim) position = some content →
        ∃ found, value = some found ∧ writes content found) :
    WritesSlot writes slots[position]? value := by
  cases present : slots[position]? with
  | none =>
      rw [leftOut (slot?_of_absent present)]
      exact .missing
  | some part =>
      have isPart : part ∈ slots := List.mem_of_getElem? present
      have reading := slot?_of_present present
      by_cases asks : AsksForDefault part
      · rw [leftOut (by rw [reading, if_pos asks])]
        have padded := isPadded_trim part
        rcases asks with isBlank | isDefault
        · rw [isBlank] at padded
          exact .blank padded
        · exact .default isDefault padded
      · obtain ⟨nonempty, notDefault⟩ := not_or.mp asks
        have isContent : IsContent (trim part) :=
          ⟨nonempty, hasVisibleEnds_iff.mpr (trim_trim part),
            fun member => noSemicolon part isPart (mem_of_mem_trim member)⟩
        obtain ⟨found, rfl, written⟩ :=
          given (trim part) isContent notDefault (by rw [reading, if_neg asks])
        exact .value written (isPadded_trim part)

private theorem writesSlot_of_readSlot? {read : Text → Option α}
    (inverts : ∀ raw value, read raw = some value → writes raw value)
    (noSemicolon : ∀ part ∈ slots, ';' ∉ part)
    (reading : readSlot? read (slot? (slots.map trim) position) = some value) :
    WritesSlot writes slots[position]? value := by
  apply writesSlot_of_slot? noSemicolon
  · intro leftOut
    rw [leftOut] at reading
    exact (Option.some.inj reading).symm
  · intro content _ _ isGiven
    rw [isGiven, readSlot?, Option.map_eq_some_iff] at reading
    obtain ⟨found, contentReading, isValue⟩ := reading
    exact ⟨found, isValue.symm, inverts content found contentReading⟩

end

/-- Reading accepts exactly the bodies that are written, and gives what they are written for. -/
theorem ofBody?_eq_some_iff_writes {body : Text} {underline : Underline} :
    ofBody? body = some underline ↔ Writes body underline := by
  constructor
  · intro reading
    obtain ⟨slots, text, split⟩ := exists_splitOn_eq_concat body
    obtain ⟨fewSlots, nonempty, isText, color, style, decoration, thickness⟩ :=
      (ofBody?_eq_some_iff split).mp reading
    have noSemicolon : ∀ part ∈ slots ++ [text], ';' ∉ part := by
      rw [← split]
      exact fun part => not_mem_of_mem_splitOn
    obtain ⟨noneInSlots, noneInText⟩ := List.forall_mem_append.mp noSemicolon
    refine ⟨slots, text, by rw [← split, joinWith_splitOn], fewSlots, ?_,
      writesSlot_of_readSlot? (fun _ _ => spellsStyle_of_reading) noneInSlots style,
      writesSlot_of_readSlot? (fun _ _ => spellsDecoration_of_reading) noneInSlots decoration,
      writesSlot_of_readSlot? (fun _ _ => spellsThickness_of_reading) noneInSlots thickness,
      ⟨?_, ?_, ?_⟩, ?_⟩
    · rw [color]
      apply writesSlot_of_slot? noneInSlots
      · intro leftOut
        rw [leftOut, Option.map_none]
      · intro token isContent notDefault isGiven
        exact ⟨Color.ofText token, by rw [isGiven, Option.map_some],
          writesColor_ofText isContent notDefault⟩
    · rwa [isText]
    · rw [isText, hasVisibleEnds_iff, trim_trim]
    · rw [isText]
      exact fun member => noneInText text (List.mem_singleton_self text) (mem_of_mem_trim member)
    · rw [isText]
      exact isPadded_trim text
  · exact fun written => ofBody?_of_spells written.spells

/-! ## Every underline can be written -/

/-- An underline that a body can be written for. -/
structure IsWellFormed (underline : Underline) : Prop where
  color : ∀ color ∈ underline.color, ∃ token, WritesColor token color
  thickness : ∀ thickness ∈ underline.thickness, 0 < thickness ∧ thickness < bound32
  text : IsContent underline.text

private theorem spellsStyle_css (style : LineStyle) : SpellsStyle style.css style := by
  cases style <;> rfl

private theorem spellsDecoration_keyword (decoration : Decoration) :
    SpellsDecoration decoration.keyword decoration := by
  cases decoration <;> rfl

private theorem spellsThickness_ofNat {thickness : Nat}
    (inRange : 0 < thickness ∧ thickness < bound32) :
    SpellsThickness (ofNat thickness) thickness :=
  ⟨ofNat thickness, Or.inl rfl, Nat.toDigits_ne_nil, isDigit_of_mem_ofNat thickness,
    decimalValue_ofNat thickness, inRange⟩

private theorem exists_writesSlot {α : Type} {writes : Text → α → Prop} {value : Option α}
    (writable : ∀ found ∈ value, ∃ content, writes content found) :
    ∃ part, WritesSlot writes (some part) value := by
  cases value with
  | none => exact ⟨[], .blank (isPadded_self [])⟩
  | some found =>
      obtain ⟨content, written⟩ := writable found rfl
      exact ⟨content, .value written (isPadded_self content)⟩

private theorem exists_writes {underline : Underline} (wellFormed : underline.IsWellFormed) :
    ∃ body, Writes body underline := by
  obtain ⟨color, colorWritten⟩ := exists_writesSlot wellFormed.color
  obtain ⟨style, styleWritten⟩ := exists_writesSlot fun style (_ : style ∈ underline.style) =>
    ⟨style.css, spellsStyle_css style⟩
  obtain ⟨decoration, decorationWritten⟩ :=
    exists_writesSlot fun decoration (_ : decoration ∈ underline.decoration) =>
      ⟨decoration.keyword, spellsDecoration_keyword decoration⟩
  obtain ⟨thickness, thicknessWritten⟩ :=
    exists_writesSlot fun thickness (member : thickness ∈ underline.thickness) =>
      ⟨ofNat thickness, spellsThickness_ofNat (wellFormed.thickness thickness member)⟩
  exact ⟨_, [color, style, decoration, thickness], underline.text, rfl, Nat.le_refl 4,
    colorWritten, styleWritten, decorationWritten, thicknessWritten, wellFormed.text,
    isPadded_self underline.text⟩

/-! ## Directives -/

/-- What can stand between the delimiters of a directive. -/
structure IsDirectiveBody (body : Text) : Prop where
  nonempty : body ≠ []
  noTilde : '~' ∉ body
  noReturn : '\r' ∉ body
  noLineFeed : '\n' ∉ body

/-- A directive that stands alone is replaced as a whole. -/
private theorem apply_directive (palette : Palette) {body : Text} (isBody : IsDirectiveBody body) :
    Stage.underline.apply palette ("!~".toList ++ body ++ "~!".toList) =
      replacement palette body := by
  have inside : ∀ c ∈ body, isBodyChar c = true := by
    intro c member
    have noTilde : c ≠ '~' := fun equal => isBody.noTilde (equal ▸ member)
    have noReturn : c ≠ '\r' := fun equal => isBody.noReturn (equal ▸ member)
    simp [isBodyChar, noTilde, noReturn]
  have reading : readBody? ("!~".toList ++ body ++ "~!".toList) = some (body, []) := by
    rw [readBody?_eq_some_iff, List.append_assoc]
    exact ⟨rfl, isBody.nonempty, inside⟩
  have found : find? palette ("!~".toList ++ body ++ "~!".toList) =
      some (replacement palette body, []) := by
    rw [find?, reading, Option.map_some]
  have single : '\n' ∉ "!~".toList ++ body ++ "~!".toList :=
    List.not_mem_append (List.not_mem_append (by decide) isBody.noLineFeed) (by decide)
  calc
    Stage.underline.apply palette ("!~".toList ++ body ++ "~!".toList)
      = onLines (expandLine palette) ("!~".toList ++ body ++ "~!".toList) := by
        rw [Stage.apply, expand_eq_onLines]
    _ = expandLine palette ("!~".toList ++ body ++ "~!".toList) :=
        onLines_of_not_mem (expandLine palette) single
    _ = replacement palette body ++ [] := replaceMatches_of_some (advances palette) found
    _ = replacement palette body := List.append_nil _

/-- Reading undoes writing, for every underline and every way to write it, and the stage draws a
directive exactly if its body is written for an underline. -/
theorem reading_undoes_writing (palette : Palette) :
    (∀ underline : Underline, underline.IsWellFormed → ∃ body, Writes body underline) ∧
    (∀ body underline, Writes body underline ↔ ofBody? body = some underline) ∧
    (∀ body underline, IsDirectiveBody body → Writes body underline →
      Stage.underline.apply palette ("!~".toList ++ body ++ "~!".toList) =
        underline.html palette) ∧
    (∀ body, IsDirectiveBody body → ofBody? body = none →
      Stage.underline.apply palette ("!~".toList ++ body ++ "~!".toList) =
        "!~".toList ++ body ++ "~!".toList) := by
  refine ⟨fun _ => exists_writes, fun _ _ => ofBody?_eq_some_iff_writes.symm, ?_, ?_⟩
  · intro body underline isBody written
    rw [apply_directive palette isBody, replacement, ofBody?_eq_some_iff_writes.mpr written]
  · intro body isBody rejected
    rw [apply_directive palette isBody, replacement, rejected]

/-- A body with a blank slot, one that asks for its default, and white space around its parts. -/
def sampleBody : Text :=
  joinWith [';'] [" #A1b2C3\t".toList, [], "dEFault ".toList, " +007".toList,
    "\u3000two words ".toList]

def sampleUnderline : Underline :=
  { color := some (.hex "#A1b2C3".toList), style := none, decoration := none,
    thickness := some 7, text := "two words".toList }

theorem reading_undoes_writing_at_sampleBody :
    sampleUnderline.IsWellFormed ∧ Writes sampleBody sampleUnderline ∧
      IsDirectiveBody sampleBody ∧ ofBody? sampleBody = some sampleUnderline ∧
      Stage.underline.apply .standard ("!~".toList ++ sampleBody ++ "~!".toList) =
        sampleUnderline.html .standard ∧
      IsDirectiveBody ";zigzag;x".toList ∧ ofBody? ";zigzag;x".toList = none ∧
      Stage.underline.apply .standard ("!~".toList ++ ";zigzag;x".toList ++ "~!".toList) =
        "!~".toList ++ ";zigzag;x".toList ++ "~!".toList := by
  have isColor : WritesColor "#A1b2C3".toList (.hex "#A1b2C3".toList) := by
    have visible : ∀ c ∈ "#A1b2C3".toList, isSpace c = false ∧ c ≠ ';' :=
      List.all_iff_forall_prop.mp (by decide)
    refine ⟨isContent_of_visible (by decide) visible, ?_, Or.inl ⟨?_, rfl⟩⟩
    · rw [IsDefaultWord]
      decide
    · exact ⟨"A1b2C3".toList, rfl, rfl, List.all_eq_true.mp (by decide)⟩
  have isThickness : SpellsThickness "+007".toList 7 :=
    ⟨"007".toList, Or.inr rfl, by decide, List.all_eq_true.mp (by decide), by decide, by decide,
      by decide⟩
  have isText : IsContent "two words".toList :=
    ⟨by decide, hasVisibleEnds_iff.mpr (by decide), by decide⟩
  have wellFormed : sampleUnderline.IsWellFormed := by
    refine ⟨?_, ?_, isText⟩
    · rintro color ⟨⟩
      exact ⟨_, isColor⟩
    · rintro thickness ⟨⟩
      decide
  have isDefault : IsDefaultWord "dEFault".toList := by
    rw [IsDefaultWord]
    decide
  have written : Writes sampleBody sampleUnderline := by
    refine ⟨[" #A1b2C3\t".toList, [], "dEFault ".toList, " +007".toList], "\u3000two words ".toList,
      rfl, by decide, .value isColor ?_, .blank (isPadded_self []), .default isDefault ?_,
      .value isThickness ?_, isText, ?_⟩
    · exact ⟨[' '], ['\t'], rfl, List.all_eq_true.mp rfl, List.all_eq_true.mp rfl⟩
    · exact ⟨[], [' '], rfl, List.all_eq_true.mp rfl, List.all_eq_true.mp rfl⟩
    · exact ⟨[' '], [], rfl, List.all_eq_true.mp rfl, List.all_eq_true.mp rfl⟩
    · exact ⟨['\u3000'], [' '], rfl, List.all_eq_true.mp rfl, List.all_eq_true.mp rfl⟩
  have isBody : IsDirectiveBody sampleBody := ⟨by decide, by decide, by decide, by decide⟩
  have isOtherBody : IsDirectiveBody ";zigzag;x".toList :=
    ⟨by decide, by decide, by decide, by decide⟩
  have rejected : ofBody? ";zigzag;x".toList = none := by decide
  obtain ⟨-, reads, draws, keeps⟩ := reading_undoes_writing .standard
  exact ⟨wellFormed, written, isBody, (reads _ _).mp written, draws _ _ isBody written,
    isOtherBody, rejected, keeps _ isOtherBody rejected⟩

end Underline

end MarkdownDialect
