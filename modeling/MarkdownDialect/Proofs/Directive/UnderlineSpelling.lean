import MarkdownDialect.Proofs.Directive.Underline

/-!
# How underlines are spelled

The body of an underline writes its slots and its text with semicolons between them. A slot that is
left to the default is blank, spelled `default` or, at the end of the slots, not there at all;
keywords stand in any letter case, and white space around a part does not count. Every spelling is
read back.
-/

namespace MarkdownDialect.Underline

open Text

/-! ## Slots -/

/-- Whether a part asks for the default. -/
def AsksForDefault (part : Text) : Prop :=
  trim part = [] ∨ toLowerAscii (trim part) = "default".toList

instance (part : Text) : Decidable (AsksForDefault part) :=
  inferInstanceAs (Decidable (trim part = [] ∨ toLowerAscii (trim part) = "default".toList))

/-- A slot as it is written, or not written, for a value that may be left out. -/
inductive SpellsSlot {α : Type} (spells : Text → α → Prop) : Option Text → Option α → Prop
  | absent : SpellsSlot spells none none
  | default {part : Text} : AsksForDefault part → SpellsSlot spells (some part) none
  | value {part : Text} {value : α} :
      ¬ AsksForDefault part → spells (trim part) value → SpellsSlot spells (some part) (some value)

def SpellsColor (raw : Text) (color : Color) : Prop :=
  color = .hex raw ∧ Color.isHexLiteral raw = true ∨
    color = .named raw ∧ Color.isHexLiteral raw = false

def SpellsStyle (raw : Text) (style : LineStyle) : Prop :=
  toLowerAscii raw = style.css

def SpellsDecoration (raw : Text) (decoration : Decoration) : Prop :=
  toLowerAscii raw = decoration.keyword

/-- A thickness is written in decimal digits, with leading zeros and a plus sign if one likes. -/
def SpellsThickness (raw : Text) (thickness : Nat) : Prop :=
  ∃ digits, (raw = digits ∨ raw = '+' :: digits) ∧ digits ≠ [] ∧
    (∀ c ∈ digits, c.isDigit = true) ∧ decimalValue digits = thickness ∧
    0 < thickness ∧ thickness < bound32

/-- A body that writes an underline. -/
def Spells (body : Text) (underline : Underline) : Prop :=
  ∃ slots text, body = joinWith [';'] (slots ++ [text]) ∧
    (∀ part ∈ slots ++ [text], ';' ∉ part) ∧ slots.length ≤ slotCount ∧
    trim text ≠ [] ∧ underline.text = trim text ∧
    SpellsSlot SpellsColor slots[0]? underline.color ∧
    SpellsSlot SpellsStyle slots[1]? underline.style ∧
    SpellsSlot SpellsDecoration slots[2]? underline.decoration ∧
    SpellsSlot SpellsThickness slots[3]? underline.thickness

/-! ## Reading a spelling -/

theorem slot?_of_absent {slots : List Text} {position : Nat} (absent : slots[position]? = none) :
    slot? (slots.map trim) position = none := by
  rw [slot?, List.getElem?_map, absent]
  rfl

theorem slot?_of_present {slots : List Text} {position : Nat} {part : Text}
    (present : slots[position]? = some part) :
    slot? (slots.map trim) position = if AsksForDefault part then none else some (trim part) := by
  have leftOut :
      ((trim part).isEmpty || decide (toLowerAscii (trim part) = "default".toList)) = true ↔
        AsksForDefault part := by
    simp only [AsksForDefault, Bool.or_eq_true, List.isEmpty_iff, decide_eq_true_eq]
  rw [slot?, List.getElem?_map, present, Option.map_some, Option.bind_eq_bind, Option.bind_some]
  exact if_congr leftOut rfl rfl

theorem slot?_of_spells {α : Type} {spells : Text → α → Prop} {slots : List Text} {position : Nat}
    {value : Option α} (written : SpellsSlot spells slots[position]? value) :
    slot? (slots.map trim) position = none ∧ value = none ∨
      ∃ raw found, slot? (slots.map trim) position = some raw ∧ value = some found ∧
        spells raw found := by
  generalize present : slots[position]? = slot at written
  cases written with
  | absent => exact Or.inl ⟨slot?_of_absent present, rfl⟩
  | default asks =>
      left
      rw [slot?_of_present present, if_pos asks]
      exact ⟨rfl, rfl⟩
  | @value part found asksNot spelled =>
      right
      refine ⟨trim part, found, ?_, rfl, spelled⟩
      rw [slot?_of_present present, if_neg asksNot]

private theorem readSlot?_of_spells {α : Type} {spells : Text → α → Prop} {read : Text → Option α}
    (reads : ∀ raw value, spells raw value → read raw = some value)
    {slots : List Text} {position : Nat} {value : Option α}
    (written : SpellsSlot spells slots[position]? value) :
    readSlot? read (slot? (slots.map trim) position) = some value := by
  rcases slot?_of_spells written with ⟨nothing, rfl⟩ | ⟨raw, found, something, rfl, spelled⟩
  · rw [nothing]
    rfl
  · rw [something, readSlot?, reads raw found spelled, Option.map_some]

private theorem styleReading_of_spells (raw : Text) (style : LineStyle)
    (spelled : SpellsStyle raw style) :
    LineStyle.ofText? raw = some style := by
  have lowered : toLower raw = style.css := by
    apply toLower_of_toLowerAscii _ spelled
    cases style <;> decide
  unfold LineStyle.ofText?
  rw [lowered]
  cases style <;> decide

private theorem decorationReading_of_spells (raw : Text) (decoration : Decoration)
    (spelled : SpellsDecoration raw decoration) : Decoration.ofText? raw = some decoration := by
  have lowered : toLower raw = decoration.keyword := by
    apply toLower_of_toLowerAscii _ spelled
    cases decoration <;> decide
  unfold Decoration.ofText?
  rw [lowered]
  cases decoration <;> decide

private theorem readThickness?_of_spells (raw : Text) (thickness : Nat)
    (spelled : SpellsThickness raw thickness) : readThickness? raw = some thickness := by
  obtain ⟨digits, written, nonempty, areDigits, rfl, positive, fits⟩ := spelled
  have digitsReading : readDecimal bound32 digits = some (decimalValue digits) :=
    readDecimal_eq_some_iff.mpr ⟨nonempty, areDigits, rfl, fits⟩
  have reading : readSignedDecimal bound32 raw = some (decimalValue digits) := by
    rcases written with rfl | rfl
    · cases raw with
      | nil => exact absurd rfl nonempty
      | cons c rest =>
          have noSign : c ≠ '+' := by
            rintro rfl
            exact absurd (areDigits '+' List.mem_cons_self) (by decide)
          unfold readSignedDecimal
          split
          · next others shape => exact absurd (List.cons.inj shape).1 noSign
          · exact digitsReading
    · exact digitsReading
  rw [readThickness?, reading, Option.filter_some, if_pos (by simpa using positive)]

private theorem ofText_of_spells {raw : Text} {color : Color} (trimmed : trim raw = raw)
    (spelled : SpellsColor raw color) : Color.ofText raw = color := by
  unfold Color.ofText
  rw [trimmed]
  rcases spelled with ⟨rfl, isHex⟩ | ⟨rfl, noHex⟩
  · rw [if_pos isHex]
  · rw [if_neg (by simp [noHex])]

/-- Reading undoes writing, whichever spelling was chosen. -/
theorem ofBody?_of_spells {body : Text} {underline : Underline} (spelled : Spells body underline) :
    ofBody? body = some underline := by
  obtain ⟨slots, text, rfl, noSemicolon, fewSlots, nonempty, textEqual, color, style, decoration,
    thickness⟩ := spelled
  have split : splitOn ';' (joinWith [';'] (slots ++ [text])) = slots ++ [text] :=
    splitOn_joinWith noSemicolon (by simp)
  rw [ofBody?_eq_some_iff split]
  refine ⟨fewSlots, nonempty, textEqual, ?_,
    readSlot?_of_spells styleReading_of_spells style,
    readSlot?_of_spells decorationReading_of_spells decoration,
    readSlot?_of_spells readThickness?_of_spells thickness⟩
  rcases slot?_of_spells color with ⟨nothing, leftOut⟩ | ⟨raw, found, something, given, spelled⟩
  · rw [nothing, leftOut]
    rfl
  · have trimmed : trim raw = raw := by
      obtain ⟨part, _, rfl⟩ := List.mem_map.mp (mem_of_slot? something)
      exact trim_trim part
    rw [something, given, Option.map_some, ofText_of_spells trimmed spelled]

end MarkdownDialect.Underline
