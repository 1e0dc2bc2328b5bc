import MarkdownDialect.Json
import MarkdownDialect.Proofs.Encoding.Utf16
import MarkdownDialect.Proofs.Text.Number
import MarkdownDialect.Proofs.Text.Occurrence

/-!
# Spellings of JSON values

A value can be written in many ways: with any white space between its tokens, and with each
character of a string as it is or as one of its escapes. Every spelling is read back as its value,
whatever follows it. Arrays and the numbers that are not digits alone are left out, since settings
have none.
-/

namespace MarkdownDialect.Json

open Text

/-! ## Strings -/

/-- The characters that need no escape. -/
def isPlain (c : Char) : Bool :=
  ' ' ≤ c && c ≠ '\x22' && c ≠ '\\'

/-- The ways to write a character of a string. -/
inductive SpellsChar : Text → Char → Prop
  | plain {c : Char} : isPlain c = true → SpellsChar [c] c
  | short {letter c : Char} : (letter, c) ∈ simpleEscapes → SpellsChar ['\\', letter] c
  /-- One code unit, or the two of a surrogate pair, each in four hexadecimal digits. -/
  | units {forms : List Text} {c : Char} :
      (∀ form ∈ forms, form.length = 4 ∧ form.all isHexDigit = true) →
      Utf16.Spells (forms.map hexValue) c →
      SpellsChar (forms.flatMap fun form => '\\' :: 'u' :: form) c

/-- The ways to write what stands between the quotes of a string. -/
inductive SpellsText : Text → Text → Prop
  | nil : SpellsText [] []
  | cons {form forms : Text} {c : Char} {content : Text} :
      SpellsChar form c → SpellsText forms content → SpellsText (form ++ forms) (c :: content)

/-- Puts a part before the parts that were read. -/
def withPart (part : StringPart) (read : List StringPart × Text) : List StringPart × Text :=
  (part :: read.1, read.2)

private theorem readParts?_plain {c : Char} (plain : isPlain c = true) (rest : Text) :
    readParts? (c :: rest) = (readParts? rest).map (withPart (.char c)) := by
  simp only [isPlain, Bool.and_eq_true, decide_eq_true_eq, ← Char.not_lt] at plain
  obtain ⟨⟨printable, noQuote⟩, noBackslash⟩ := plain
  rw [readParts?, if_neg printable]
  · rfl
  · exact fun equality => noQuote equality
  · intro a b d e after equality
    exact absurd equality noBackslash
  · intro other after equality
    exact absurd equality noBackslash

private theorem readParts?_short {letter c : Char} (known : (letter, c) ∈ simpleEscapes)
    (rest : Text) :
    readParts? ('\\' :: letter :: rest) = (readParts? rest).map (withPart (.char c)) := by
  simp only [simpleEscapes, List.mem_cons, Prod.mk.injEq, List.not_mem_nil, or_false] at known
  rcases known with ⟨rfl, rfl⟩ | ⟨rfl, rfl⟩ | ⟨rfl, rfl⟩ | ⟨rfl, rfl⟩ | ⟨rfl, rfl⟩ | ⟨rfl, rfl⟩ |
    ⟨rfl, rfl⟩ | ⟨rfl, rfl⟩ <;> rfl

private theorem readParts?_unit {form : Text} (four : form.length = 4)
    (digits : form.all isHexDigit = true) (rest : Text) :
    readParts? ('\\' :: 'u' :: (form ++ rest)) =
      (readParts? rest).map (withPart (partOfUnit (hexValue form))) := by
  match form with
  | [a, b, c, d] =>
      rw [List.cons_append, List.cons_append, List.cons_append, List.cons_append, List.nil_append,
        readParts?, if_pos digits]
      rfl

/-- A spelled character is read as parts that are joined to this character again. -/
private theorem SpellsChar.exists_parts {form : Text} {c : Char} (spells : SpellsChar form c) :
    ∃ parts : List StringPart,
      (∀ rest, readParts? (form ++ rest) =
        (readParts? rest).map fun read => (parts ++ read.1, read.2)) ∧
      ∀ more, joinHalves (parts ++ more) = (joinHalves more).map (c :: ·) := by
  cases spells with
  | plain plain =>
      exact ⟨[.char c], readParts?_plain plain, fun more => rfl⟩
  | short known =>
      exact ⟨[.char c], readParts?_short known, fun more => rfl⟩
  | @units forms c wellFormed spelled =>
      generalize row : forms.map hexValue = units at spelled
      cases spelled with
      | @one unit notSurrogate small =>
          obtain ⟨form, rfl, rfl⟩ := List.map_eq_singleton_iff.mp row
          have atForm := wellFormed form List.mem_cons_self
          have isChar : partOfUnit (hexValue form) = .char (Char.ofNat (hexValue form)) :=
            if_neg (Bool.not_eq_true _ ▸ notSurrogate)
          refine ⟨[.char (Char.ofNat (hexValue form))], fun rest => ?_, fun more => rfl⟩
          rw [List.flatMap_singleton, List.cons_append, List.cons_append,
            readParts?_unit atForm.1 atForm.2, isChar]
          rfl
      | @pair high low isHigh isLow =>
          obtain ⟨first, others, rfl, rfl, rowOfOthers⟩ := List.map_eq_cons_iff.mp row
          obtain ⟨second, rfl, rfl⟩ := List.map_eq_singleton_iff.mp rowOfOthers
          have atFirst := wellFormed first (by simp)
          have atSecond := wellFormed second (by simp)
          have firstHalf : partOfUnit (hexValue first) = .half (hexValue first) :=
            if_pos (Bool.or_eq_true_iff.mpr (.inl isHigh))
          have secondHalf : partOfUnit (hexValue second) = .half (hexValue second) :=
            if_pos (Bool.or_eq_true_iff.mpr (.inr isLow))
          refine ⟨[.half (hexValue first), .half (hexValue second)], fun rest => ?_,
            fun more => if_pos (Bool.and_eq_true_iff.mpr ⟨isHigh, isLow⟩)⟩
          rw [List.flatMap_cons, List.flatMap_singleton, List.append_assoc, List.cons_append,
            List.cons_append, readParts?_unit atFirst.1 atFirst.2, List.cons_append,
            List.cons_append, readParts?_unit atSecond.1 atSecond.2, firstHalf, secondHalf,
            Option.map_map]
          rfl

theorem readString?_of_spells {forms content : Text} (spells : SpellsText forms content)
    (rest : Text) : readString? (forms ++ '\x22' :: rest) = some (some content, rest) := by
  have reading : ∃ parts, readParts? (forms ++ '\x22' :: rest) = some (parts, rest) ∧
      joinHalves parts = some content := by
    induction spells with
    | nil => exact ⟨[], rfl, rfl⟩
    | cons spellsFirst _ inductionHypothesis =>
        obtain ⟨parts, readsFirst, joinsFirst⟩ := spellsFirst.exists_parts
        obtain ⟨others, readsOthers, joinsOthers⟩ := inductionHypothesis
        refine ⟨parts ++ others, ?_, ?_⟩
        · rw [List.append_assoc, readsFirst, readsOthers, Option.map_some]
        · rw [joinsFirst, joinsOthers, Option.map_some]
  obtain ⟨parts, reads, joins⟩ := reading
  rw [readString?, reads, ← joins]
  rfl

/-! ## Numbers -/

/-- What follows a number does not continue it. -/
def EndsNumber (rest : Text) : Prop :=
  ∀ c ∈ rest.head?, c.isDigit = false ∧ c ≠ '.' ∧ c ≠ 'e' ∧ c ≠ 'E'

private theorem readInteger?_ofNat (n : Nat) {rest : Text} (ends : EndsNumber rest) :
    readInteger? (ofNat n ++ rest) = some (n, rest) := by
  obtain ⟨taken, left⟩ := isDigit_append (isDigit_of_mem_ofNat n) fun c isNext => (ends c isNext).1
  rw [readInteger?, taken, left]
  split
  · next isEmpty => exact absurd isEmpty Nat.toDigits_ne_nil
  · next second others leadingZero =>
      rcases Nat.eq_zero_or_pos n with rfl | positive
      · exact absurd leadingZero (by simp [ofNat])
      · exact absurd (congrArg List.head? leadingZero) (head?_ofNat_ne_zero positive)
  · rw [decimalValue_ofNat]

private theorem skipFraction?_of_ends {rest : Text} (ends : EndsNumber rest) :
    skipFraction? rest = some (false, rest) := by
  unfold skipFraction?
  split
  · next after => exact absurd rfl (ends '.' rfl).2.1
  · rfl

private theorem skipExponent?_of_ends {rest : Text} (ends : EndsNumber rest) :
    skipExponent? rest = some (false, rest) := by
  unfold skipExponent?
  split
  · next after => exact absurd rfl (ends 'e' rfl).2.2.1
  · next after => exact absurd rfl (ends 'E' rfl).2.2.2
  · rfl

private theorem readNumber?_ofNat (n : Nat) {rest : Text} (ends : EndsNumber rest) :
    readNumber? (ofNat n ++ rest) = some (.natural n, rest) := by
  have unsigned : ['-'].isPrefixOf? (ofNat n ++ rest) = none := by
    rw [isPrefixOf?_eq_none_iff]
    intro after signed
    cases digits : ofNat n with
    | nil => exact absurd digits Nat.toDigits_ne_nil
    | cons c others =>
        rw [digits] at signed
        have isSign : c = '-' := (List.cons.inj signed).1
        have noSign : '-' ∉ ofNat n := not_mem_ofNat (by decide) n
        exact noSign (by rw [digits, isSign]; exact List.mem_cons_self)
  simp [readNumber?, unsigned, readInteger?_ofNat n ends, skipFraction?_of_ends ends,
    skipExponent?_of_ends ends]

/-! ## White space -/

def IsBlank (blank : Text) : Prop :=
  ∀ c ∈ blank, isWhite c = true

theorem isBlank_nil : IsBlank [] :=
  fun _ isMember => absurd isMember List.not_mem_nil

theorem skipWhite_append {blank : Text} (isBlank : IsBlank blank) (text : Text) :
    skipWhite (blank ++ text) = skipWhite text :=
  List.dropWhile_append_of_pos isBlank

theorem skipWhite_cons {c : Char} (notWhite : isWhite c = false) (rest : Text) :
    skipWhite (c :: rest) = c :: rest :=
  List.dropWhile_cons_of_neg (by simp [notWhite])

theorem EndsNumber.append {blank rest : Text} (ends : EndsNumber rest)
    (isBlank : IsBlank blank) : EndsNumber (blank ++ rest) := by
  cases blank with
  | nil => exact ends
  | cons c blank =>
      have white := isBlank c List.mem_cons_self
      simp only [isWhite, Bool.or_eq_true, decide_eq_true_eq] at white
      rintro _ ⟨⟩
      rcases white with ((rfl | rfl) | rfl) | rfl <;> decide

theorem readValue?_blank {blank : Text} (isBlank : IsBlank blank) (rounds : Nat) (text : Text) :
    readValue? rounds (blank ++ text) = readValue? rounds text := by
  cases rounds with
  | zero => rfl
  | succ rounds => rw [readValue?, readValue?, skipWhite_append isBlank]

theorem readMembers?_blank {blank : Text} (isBlank : IsBlank blank) (rounds : Nat)
    (text : Text) : readMembers? rounds (blank ++ text) = readMembers? rounds text := by
  cases rounds with
  | zero => rfl
  | succ rounds => rw [readMembers?, readMembers?, skipWhite_append isBlank]

/-! ## Values -/

mutual

/-- The ways to write a value, without the white space around it. -/
inductive Spells : Text → Json → Prop
  | null : Spells "null".toList .null
  | true : Spells "true".toList (.bool true)
  | false : Spells "false".toList (.bool false)
  | natural (n : Nat) : Spells (ofNat n) (.natural n)
  | string {forms content : Text} : SpellsText forms content →
      Spells ('\x22' :: (forms ++ ['\x22'])) (.string (some content))
  | emptyObject {blank : Text} : IsBlank blank →
      Spells ('\x7b' :: (blank ++ ['\x7d'])) (.object [])
  | object {forms : Text} {members : List (Option Text × Json)} : SpellsMembers forms members →
      Spells ('\x7b' :: (forms ++ ['\x7d'])) (.object members)

/-- The ways to write a member of an object, with the white space around it. -/
inductive SpellsMember : Text → Option Text × Json → Prop
  | mk {before name content afterName beforeValue form after : Text} {value : Json} :
      IsBlank before → SpellsText name content → IsBlank afterName → IsBlank beforeValue →
      Spells form value → IsBlank after →
      SpellsMember
        (before ++ '\x22' :: (name ++ '\x22' ::
          (afterName ++ ':' :: (beforeValue ++ (form ++ after))))) (some content, value)

/-- The ways to write the members of an object that has some, with commas between them. -/
inductive SpellsMembers : Text → List (Option Text × Json) → Prop
  | last {form : Text} {member : Option Text × Json} : SpellsMember form member →
      SpellsMembers form [member]
  | cons {form forms : Text} {member : Option Text × Json}
      {members : List (Option Text × Json)} : SpellsMember form member →
      SpellsMembers forms members → SpellsMembers (form ++ ',' :: forms) (member :: members)

end

/-- The ways to write a text that is a single value. -/
inductive SpellsDocument : Text → Json → Prop
  | mk {before form after : Text} {value : Json} : IsBlank before → Spells form value →
      IsBlank after → SpellsDocument (before ++ (form ++ after)) value

/-! ## One round of reading -/

variable {rounds : Nat}

theorem readValue?_natural (n : Nat) {rest : Text} (ends : EndsNumber rest) :
    readValue? (rounds + 1) (ofNat n ++ rest) = some (.natural n, rest) := by
  rw [← readNumber?_ofNat n ends]
  cases digits : ofNat n with
  | nil => exact absurd digits Nat.toDigits_ne_nil
  | cons c others =>
      have noDigit : ∀ {other : Char}, other.isDigit = false → c ≠ other := by
        rintro other noDigit rfl
        exact not_mem_ofNat noDigit n (digits ▸ List.mem_cons_self)
      have notWhite : isWhite c = false := by
        simp [isWhite, noDigit]
      rw [List.cons_append, readValue?, skipWhite_cons notWhite]
      -- What begins any other value is no digit.
      split <;>
        first
        | rfl
        | next equality => exact absurd (List.cons.inj equality).1 (noDigit rfl)

theorem readValue?_string {forms content : Text} (spells : SpellsText forms content)
    (rest : Text) :
    readValue? (rounds + 1) ('\x22' :: (forms ++ '\x22' :: rest)) =
      some (.string (some content), rest) := by
  rw [readValue?, skipWhite_cons rfl]
  simp only [readString?_of_spells spells, Option.map_some]

theorem readValue?_emptyObject {blank : Text} (isBlank : IsBlank blank) (rest : Text) :
    readValue? (rounds + 1) ('\x7b' :: (blank ++ '\x7d' :: rest)) =
      some (.object [], rest) := by
  have brace : skipWhite ('\x7d' :: rest) = '\x7d' :: rest := skipWhite_cons rfl rest
  rw [readValue?, skipWhite_cons rfl]
  simp only [skipWhite_append isBlank, brace]

/-- The members of an object begin with the quote of a name. -/
theorem SpellsMembers.begins {forms : Text} {members : List (Option Text × Json)}
    (spells : SpellsMembers forms members) :
    ∃ blank tail, IsBlank blank ∧ forms = blank ++ '\x22' :: tail := by
  cases spells with
  | last spellsMember =>
      obtain ⟨isBlank, -, -, -, -, -⟩ := spellsMember
      exact ⟨_, _, isBlank, rfl⟩
  | cons spellsMember _ =>
      obtain ⟨isBlank, -, -, -, -, -⟩ := spellsMember
      exact ⟨_, _, isBlank, by rw [List.append_assoc, List.cons_append]⟩

theorem readValue?_object {forms rest : Text} {members : List (Option Text × Json)}
    (spells : SpellsMembers forms members)
    (reading : readMembers? rounds (forms ++ '\x7d' :: rest) = some (members, rest)) :
    readValue? (rounds + 1) ('\x7b' :: (forms ++ '\x7d' :: rest)) =
      some (.object members, rest) := by
  obtain ⟨blank, tail, isBlank, rfl⟩ := spells.begins
  have quote : skipWhite ('\x22' :: (tail ++ '\x7d' :: rest)) =
      '\x22' :: (tail ++ '\x7d' :: rest) := skipWhite_cons rfl _
  rw [List.append_assoc, List.cons_append] at reading ⊢
  rw [readMembers?_blank isBlank] at reading
  rw [readValue?, skipWhite_cons rfl]
  simp only [skipWhite_append isBlank, quote]
  change (readMembers? rounds _).map _ = _
  rw [reading, Option.map_some]

/-- Reads what follows the first of several members. -/
def readMore? (rounds : Nat) (member : Option Text × Json) (text : Text) :
    Option (List (Option Text × Json) × Text) := do
  match skipWhite text with
  | ',' :: rest =>
    let (members, last) ← readMembers? rounds rest
    return (member :: members, last)
  | '\x7d' :: last => return ([member], last)
  | _ => none

/-- Values of fewer characters than there are rounds are read. -/
def ReadsShortValues (rounds : Nat) : Prop :=
  ∀ {form : Text} {value : Json}, Spells form value → form.length < rounds →
    ∀ rest, EndsNumber rest → readValue? rounds (form ++ rest) = some (value, rest)

theorem readMembers?_member {form rest : Text} {member : Option Text × Json}
    (spells : SpellsMember form member) (short : form.length ≤ rounds)
    (ends : EndsNumber rest) (reads : ReadsShortValues rounds) :
    readMembers? (rounds + 1) (form ++ rest) = readMore? rounds member rest := by
  obtain @⟨before, name, content, afterName, beforeValue, form, after, value, isBlank,
    spellsName, isBlankAfterName, isBlankBeforeValue, spellsValue, isBlankAfter⟩ := spells
  have shortValue : form.length < rounds := by
    simp only [List.length_append, List.length_cons] at short
    omega
  have quote : ∀ tail, skipWhite ('\x22' :: tail) = '\x22' :: tail := skipWhite_cons rfl
  have colon : ∀ tail, skipWhite (':' :: tail) = ':' :: tail := skipWhite_cons rfl
  simp only [List.append_assoc, List.cons_append]
  rw [readMembers?_blank isBlank, readMembers?, quote]
  simp only [readString?_of_spells spellsName, skipWhite_append isBlankAfterName, colon,
    readValue?_blank isBlankBeforeValue,
    reads spellsValue shortValue (after ++ rest) (ends.append isBlankAfter),
    skipWhite_append isBlankAfter, Option.bind_eq_bind, Option.bind_some]
  rfl

/-! ## All rounds -/

theorem endsNumber_cons {c : Char} (isEnd : c = ',' ∨ c = '\x7d') (rest : Text) :
    EndsNumber (c :: rest) := by
  rintro _ ⟨⟩
  rcases isEnd with rfl | rfl <;> decide

theorem reads_of_spells (rounds : Nat) :
    ReadsShortValues rounds ∧
      ∀ {forms : Text} {members : List (Option Text × Json)}, SpellsMembers forms members →
        forms.length < rounds → ∀ rest,
          readMembers? rounds (forms ++ '\x7d' :: rest) = some (members, rest) := by
  -- An object is longer than its members, and these are longer than each of their values.
  induction rounds with
  | zero =>
      exact ⟨fun _ short => absurd short (Nat.not_lt_zero _),
        fun _ short => absurd short (Nat.not_lt_zero _)⟩
  | succ rounds inductionHypothesis =>
      obtain ⟨readsValues, readsMembers⟩ := inductionHypothesis
      constructor
      · intro form value spells short rest ends
        cases spells with
        | null => rfl
        | true => rfl
        | false => rfl
        | natural n => exact readValue?_natural n ends
        | string spellsText =>
            simp only [List.cons_append, List.append_assoc, List.nil_append]
            exact readValue?_string spellsText rest
        | emptyObject isBlank =>
            simp only [List.cons_append, List.append_assoc, List.nil_append]
            exact readValue?_emptyObject isBlank rest
        | object spellsMembers =>
            simp only [List.length_cons, List.length_append, List.length_nil] at short
            simp only [List.cons_append, List.append_assoc, List.nil_append]
            exact readValue?_object spellsMembers (readsMembers spellsMembers (by omega) rest)
      · intro forms members spells short rest
        cases spells with
        | last spellsMember =>
            rw [readMembers?_member spellsMember (Nat.le_of_lt_succ short)
              (endsNumber_cons (.inr rfl) rest) readsValues, readMore?, skipWhite_cons rfl]
            rfl
        | cons spellsMember spellsMembers =>
            simp only [List.length_append, List.length_cons] at short
            rw [List.append_assoc, List.cons_append,
              readMembers?_member spellsMember (by omega) (endsNumber_cons (.inl rfl) _)
                readsValues, readMore?, skipWhite_cons rfl]
            simp only [readsMembers spellsMembers (by omega) rest]
            rfl

/-- Every spelling of a value is read as this value. -/
theorem ofText?_of_spells {text : Text} {value : Json} (spells : SpellsDocument text value) :
    ofText? text = some value := by
  obtain @⟨before, form, after, value, isBlank, spellsValue, isBlankAfter⟩ := spells
  have readsValues : ReadsShortValues (2 * (before ++ (form ++ after)).length + 2) :=
    (reads_of_spells _).1
  have nothingFollows : EndsNumber after := by
    rw [← List.append_nil after]
    exact EndsNumber.append (fun c isHead => nomatch isHead) isBlankAfter
  have short : form.length < 2 * (before ++ (form ++ after)).length + 2 := by
    simp only [List.length_append]
    omega
  have allRead : skipWhite after = [] := by
    rw [← List.append_nil after, skipWhite_append isBlankAfter]
    rfl
  rw [ofText?, readValue?_blank isBlank, readsValues spellsValue short after nothingFollows]
  simp [allRead]

/-! ## Compact spellings -/

theorem spellsText_self {content : Text} (plain : content.all isPlain = true) :
    SpellsText content content := by
  induction content with
  | nil => exact .nil
  | cons c content inductionHypothesis =>
      rw [List.all_cons, Bool.and_eq_true] at plain
      exact .cons (.plain plain.1) (inductionHypothesis plain.2)

theorem SpellsMember.compact {name content form : Text} {value : Json}
    (spellsName : SpellsText name content) (spells : Spells form value) :
    SpellsMember ('\x22' :: (name ++ '\x22' :: ':' :: form)) (some content, value) := by
  have member :=
    SpellsMember.mk isBlank_nil spellsName isBlank_nil isBlank_nil spells isBlank_nil
  simpa using member

/-- The escape of a control character, in four digits. -/
def controlForm (code : Nat) : Text :=
  ['0', '0', hexDigit (code / 16), hexDigit (code % 16)]

theorem controlForm_spec : ∀ code < 32, (controlForm code).all isHexDigit = true ∧
    hexValue (controlForm code) = code := by
  decide

theorem exists_spellsChar (c : Char) : ∃ form, SpellsChar form c := by
  by_cases control : c < ' '
  · have small : c.toNat < 32 := control
    obtain ⟨digits, value⟩ := controlForm_spec c.toNat small
    have spells : Utf16.Spells ([controlForm c.toNat].map hexValue) c := by
      have one : Utf16.Spells [c.toNat] (Char.ofNat c.toNat) :=
        .one (by simp [Utf16.isHighSurrogate, Utf16.isLowSurrogate]; omega) (by omega)
      rwa [Char.ofNat_toNat, ← value] at one
    exact ⟨_, .units (List.forall_mem_singleton.mpr ⟨rfl, digits⟩) spells⟩
  · by_cases isQuote : c = '\x22'
    · exact ⟨['\\', '\x22'], .short (by rw [isQuote]; decide)⟩
    · by_cases isBackslash : c = '\\'
      · exact ⟨['\\', '\\'], .short (by rw [isBackslash]; decide)⟩
      · have plain : isPlain c = true := by
          simp [isPlain, ← Char.not_lt, control, isQuote, isBackslash]
        exact ⟨[c], .plain plain⟩

theorem exists_spellsText (content : Text) : ∃ forms, SpellsText forms content := by
  induction content with
  | nil => exact ⟨[], .nil⟩
  | cons c content inductionHypothesis =>
      obtain ⟨form, spells⟩ := exists_spellsChar c
      obtain ⟨forms, spellsOthers⟩ := inductionHypothesis
      exact ⟨form ++ forms, .cons spells spellsOthers⟩

theorem exists_spells_object {members : List (Option Text × Json)}
    (spelled : ∀ member ∈ members, ∃ form, SpellsMember form member) :
    ∃ form, Spells form (.object members) := by
  by_cases noMembers : members = []
  · rw [noMembers]
    exact ⟨_, .emptyObject isBlank_nil⟩
  · have spelledMembers : ∃ forms, SpellsMembers forms members := by
      induction members with
      | nil => exact absurd rfl noMembers
      | cons member rest inductionHypothesis =>
          obtain ⟨form, spells⟩ := spelled member List.mem_cons_self
          cases rest with
          | nil => exact ⟨form, .last spells⟩
          | cons next rest =>
              obtain ⟨forms, spellsRest⟩ := inductionHypothesis
                (fun other isLater => spelled other (List.mem_cons_of_mem _ isLater))
                (List.cons_ne_nil _ _)
              exact ⟨_, .cons spells spellsRest⟩
    obtain ⟨forms, spells⟩ := spelledMembers
    exact ⟨_, .object spells⟩

end MarkdownDialect.Json
