import MarkdownDialect.Proofs.Heading.Injection
import Mathlib.Data.List.TakeWhile

/-!
# The attributes of tags

Attributes are read from a tag one after the other, and the first of a name counts.
-/

namespace MarkdownDialect.HeadingElement

open Text

/-- The white space of HTML. -/
def isHtmlSpace (c : Char) : Bool :=
  c = ' ' || c = '\t' || c = '\n' || c = '\x0c' || c = '\r'

def isNameChar (c : Char) : Bool :=
  !isHtmlSpace c && c != '/' && c != '=' && c != '\x22' && c != '\x27'

/-- A value in quotation marks, and what follows it. It is missing if it reaches over the end of
the tag. -/
def readQuoted (mark : Char) (text : Text) : Option Text × Text :=
  match breakOn [mark] text with
  | some (value, after) => (some value, after)
  | none => (none, [])

def readValue (text : Text) : Option Text × Text :=
  match text.dropWhile isHtmlSpace with
  | '\x22' :: rest => readQuoted '\x22' rest
  | '\x27' :: rest => readQuoted '\x27' rest
  | rest => (some (rest.takeWhile fun c => !isHtmlSpace c), rest.dropWhile fun c => !isHtmlSpace c)

/-- An attribute at the front of a text: its name in lower case and its value. -/
def readAttribute? (text : Text) : Option ((Text × Option Text) × Text) :=
  match (text.takeWhile isNameChar).map Char.toLower with
  | [] => none
  | name =>
    let behindName := text.dropWhile isNameChar
    match behindName.dropWhile isHtmlSpace with
    | '=' :: rest => let (value, after) := readValue rest; some ((name, value), after)
    | _ => some ((name, none), behindName)

/-- The value of the first `id` among the attributes of a tag. -/
def idValue? (attributes : Text) : Option Text :=
  ((findMatches readAttribute? attributes).lookup ['i', 'd']).join

private theorem readQuoted_suffix (mark : Char) (text : Text) :
    (readQuoted mark text).2 <:+ text := by
  unfold readQuoted
  cases found : breakOn [mark] text with
  | none => exact List.nil_suffix
  | some result =>
      obtain ⟨value, after⟩ := result
      exact ⟨value ++ [mark], by rw [breakOn_sound found, List.append_assoc]⟩

private theorem readValue_suffix (text : Text) : (readValue text).2 <:+ text := by
  have trimmed : text.dropWhile isHtmlSpace <:+ text := List.dropWhile_suffix isHtmlSpace
  unfold readValue
  split
  · next rest split =>
      have behindMark : rest <:+ text := (split ▸ List.suffix_cons '\x22' rest).trans trimmed
      exact (readQuoted_suffix '\x22' rest).trans behindMark
  · next rest split =>
      have behindMark : rest <:+ text := (split ▸ List.suffix_cons '\x27' rest).trans trimmed
      exact (readQuoted_suffix '\x27' rest).trans behindMark
  · exact (List.dropWhile_suffix _).trans trimmed

private theorem advances_attribute : Advances readAttribute? := by
  intro text found after reading
  have whole : text.takeWhile isNameChar ++ text.dropWhile isNameChar = text :=
    List.takeWhile_append_dropWhile
  have nonempty : text.takeWhile isNameChar ≠ [] := by
    intro empty
    rw [readAttribute?, empty] at reading
    simp at reading
  have behind : after <:+ text.dropWhile isNameChar := by
    unfold readAttribute? at reading
    split at reading
    · simp at reading
    · dsimp only at reading
      split at reading
      · next rest split =>
          rw [Option.some.injEq, Prod.mk.injEq] at reading
          have behindSign : rest <:+ text.dropWhile isNameChar :=
            (split ▸ List.suffix_cons '=' rest).trans (List.dropWhile_suffix isHtmlSpace)
          rw [← reading.2]
          exact (readValue_suffix rest).trans behindSign
      · rw [Option.some.injEq, Prod.mk.injEq] at reading
        rw [← reading.2]
  obtain ⟨front, split⟩ := behind
  refine ⟨text.takeWhile isNameChar ++ front, ?_, ?_⟩
  · intro empty
    exact nonempty (List.append_eq_nil_iff.mp empty).1
  · rw [List.append_assoc, split, whole]

private theorem readAttribute?_quoted {name value : Text} (isName : ∀ c ∈ name, isNameChar c = true)
    (nonempty : name ≠ []) (noQuote : '\x22' ∉ value) (attributes : Text) :
    readAttribute? (name ++ '=' :: '\x22' :: (value ++ '\x22' :: attributes)) =
      some ((name.map Char.toLower, some value), attributes) := by
  have found : breakOn ['\x22'] (value ++ '\x22' :: attributes) = some (value, attributes) :=
    breakOn_singleton_eq_some_iff.mpr ⟨rfl, noQuote⟩
  have front (rest : Text) : (name ++ '=' :: rest).takeWhile isNameChar = name := by
    rw [List.takeWhile_append_of_pos isName, List.takeWhile_cons_of_neg (by decide),
      List.append_nil]
  have back (rest : Text) : (name ++ '=' :: rest).dropWhile isNameChar = '=' :: rest := by
    rw [List.dropWhile_append_of_pos isName, List.dropWhile_cons_of_neg (by decide)]
  simp [readAttribute?, front, back, isHtmlSpace, readValue, readQuoted, found, nonempty]

/-- An attribute in front of all others is the first that is read. -/
theorem findMatches_attribute {name value : Text} (isName : ∀ c ∈ name, isNameChar c = true)
    (nonempty : name ≠ []) (noQuote : '\x22' ∉ value) (attributes : Text) :
    findMatches readAttribute? (' ' :: (name ++ '=' :: '\x22' :: (value ++ '\x22' :: attributes))) =
      (name.map Char.toLower, some value) :: findMatches readAttribute? attributes := by
  have blank (rest : Text) : readAttribute? (' ' :: rest) = none := by
    simp [readAttribute?, isNameChar, isHtmlSpace]
  rw [findMatches_of_none (blank _),
    findMatches_of_some advances_attribute (readAttribute?_quoted isName nonempty noQuote _)]

/-- An id attribute in front of all others is the one that counts. -/
private theorem idValue?_idAttribute {id : Text} (noQuote : '\x22' ∉ id) (attributes : Text) :
    idValue? (idAttribute id ++ attributes) = some id := by
  have isName : ∀ c ∈ ['i', 'd'], isNameChar c = true :=
    List.all_eq_true.mp (by decide)
  have shape : idAttribute id ++ attributes =
      ' ' :: (['i', 'd'] ++ '=' :: '\x22' :: (id ++ '\x22' :: attributes)) := by
    simp [idAttribute]
  rw [idValue?, shape, findMatches_attribute isName (by simp) noQuote]
  rfl

/-! ## The ids of headings -/

/-- The ids that the heading elements of a text carry, in their order. -/
def ids (html : Text) : List Text :=
  (elements html).filterMap fun element => idValue? element.attributes

/-- The id that an element carries once the headings are given theirs. -/
def Element.finalId? (element : Element) : Option Text :=
  if element.ReceivesId then some (idOf element.content) else idValue? element.attributes

@[simp]
theorem Element.idValue?_withId (element : Element) :
    idValue? element.withId.attributes = element.finalId? := by
  have noQuote : '\x22' ∉ idOf element.content := not_mem_slug (by decide) _
  rw [withId, newId_eq, finalId?]
  by_cases receives : element.ReceivesId
  · rw [if_pos receives, if_pos receives]
    exact idValue?_idAttribute noQuote element.attributes
  · rw [if_neg receives, if_neg receives]
    rfl

theorem ids_injectIds (html : Text) :
    ids (injectIds html) = (elements html).filterMap Element.finalId? := by
  rw [ids, elements_injectIds, List.filterMap_map]
  apply List.filterMap_congr
  intro element _
  exact element.idValue?_withId

end MarkdownDialect.HeadingElement
