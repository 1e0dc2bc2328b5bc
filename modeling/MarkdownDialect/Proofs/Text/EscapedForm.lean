import MarkdownDialect.Proofs.Text.Unescape

/-!
# The form of escaped text

Escaping writes every character on its own, five of them as entities. An ampersand in escaped text
therefore begins the entity of some character, and what stands before it and behind that entity is
the escaped text on the two sides of the character.
-/

namespace MarkdownDialect.Text

def specialChars : List Char :=
  ['&', '<', '>', '\x22', '\x27']

/-- How a character is written in HTML. -/
def charHtml : Char → Text
  | '&' => "&amp;".toList
  | '<' => "&lt;".toList
  | '>' => "&gt;".toList
  | '\x22' => "&quot;".toList
  | '\x27' => "&#39;".toList
  | c => [c]

theorem charHtml_eq_self {c : Char} (ordinary : c ∉ specialChars) : charHtml c = [c] := by
  simp only [specialChars, List.mem_cons, List.not_mem_nil, or_false, not_or] at ordinary
  unfold charHtml
  split
  · exact absurd rfl ordinary.1
  · exact absurd rfl ordinary.2.1
  · exact absurd rfl ordinary.2.2.1
  · exact absurd rfl ordinary.2.2.2.1
  · exact absurd rfl ordinary.2.2.2.2
  · rfl

private theorem entityOf_eq_charHtml (c : Char) : entityOf c = charHtml c := by
  by_cases special : c ∈ specialChars
  · have sameEntities : specialChars.all fun d => entityOf d = charHtml d := by
      decide
    exact of_decide_eq_true (List.all_eq_true.mp sameEntities c special)
  · rw [charHtml_eq_self special, entityOf_eq_self special]

theorem escape_eq_flatMap_charHtml (text : Text) : escape text = text.flatMap charHtml := by
  rw [escape_eq_flatMap]
  exact List.flatMap_congr fun c _ => entityOf_eq_charHtml c

@[simp]
theorem escape_cons (c : Char) (rest : Text) : escape (c :: rest) = charHtml c ++ escape rest := by
  simp only [escape_eq_flatMap_charHtml, List.flatMap_cons]

/-- Only the first character of an entity is an ampersand. -/
theorem charHtml_cases (c : Char) :
    (c ∈ specialChars ∧ ∃ name, charHtml c = '&' :: name ∧ '&' ∉ name) ∨
      (c ≠ '&' ∧ charHtml c = [c]) := by
  by_cases special : c ∈ specialChars
  · left
    have begun : specialChars.all fun d =>
        charHtml d = '&' :: (charHtml d).tail ∧ '&' ∉ (charHtml d).tail := by
      decide
    exact ⟨special, (charHtml c).tail, of_decide_eq_true (List.all_eq_true.mp begun c special)⟩
  · right
    refine ⟨?_, charHtml_eq_self special⟩
    rintro rfl
    exact special (by decide)

private theorem split_of_not_mem {c : Char} {front rest before after : Text} (absent : c ∉ front)
    (split : front ++ rest = before ++ c :: after) :
    ∃ between, before = front ++ between ∧ rest = between ++ c :: after := by
  rcases List.append_eq_append_iff.mp split with
    ⟨between, isBefore, isRest⟩ | ⟨inFront, isFront, isAfter⟩
  · exact ⟨between, isBefore, isRest⟩
  · cases inFront with
    | nil => exact ⟨[], by simpa using isFront.symm, by simpa using isAfter.symm⟩
    | cons d others =>
        have isFirst : c = d := (List.cons.inj isAfter).1
        exact absurd (by simp [isFront, isFirst]) absent

/-- Every ampersand of an escaped text begins the entity of a character of the text. -/
private theorem exists_special_of_ampersand {text before after : Text}
    (split : escape text = before ++ '&' :: after) :
    ∃ front c back, text = front ++ c :: back ∧ c ∈ specialChars ∧ before = escape front ∧
      '&' :: after = charHtml c ++ escape back := by
  induction text generalizing before with
  | nil => exact absurd split (by simp [escape_eq_flatMap])
  | cons c rest inductionHypothesis =>
      -- Past the entity of the first character the ampersand belongs to the rest of the text.
      have behind {between : Text} (isBefore : before = charHtml c ++ between)
          (splitRest : escape rest = between ++ '&' :: after) :
          ∃ front d back, c :: rest = front ++ d :: back ∧ d ∈ specialChars ∧
            before = escape front ∧ '&' :: after = charHtml d ++ escape back := by
        obtain ⟨front, d, back, rfl, special, rfl, isEntity⟩ := inductionHypothesis splitRest
        exact ⟨c :: front, d, back, rfl, special, by rw [isBefore, escape_cons], isEntity⟩
      rw [escape_cons] at split
      rcases charHtml_cases c with ⟨special, name, isEntity, noAmpersand⟩ | ⟨different, isSelf⟩
      · cases before with
        | nil => exact ⟨[], c, rest, rfl, special, rfl, split.symm⟩
        | cons d between =>
            rw [isEntity, List.cons_append, List.cons_append] at split
            obtain ⟨rfl, splitName⟩ := List.cons.inj split
            obtain ⟨others, rfl, splitRest⟩ := split_of_not_mem noAmpersand splitName
            exact behind (by rw [isEntity, List.cons_append]) splitRest
      · have absent : '&' ∉ charHtml c := by
          simpa [isSelf] using different.symm
        obtain ⟨between, isBefore, splitRest⟩ := split_of_not_mem absent split
        exact behind isBefore splitRest

/-- Escaping is one pass over the characters, leaves nothing in the text that means something in
HTML except the entities themselves, and can be undone. -/
theorem escaping_is_exact (text : Text) :
    escape text = text.flatMap charHtml ∧
      (∀ c ∈ ['<', '>', '\x22', '\x27'], c ∉ escape text) ∧
      (∀ before after, escape text = before ++ '&' :: after →
        ∃ front c back, text = front ++ c :: back ∧ c ∈ specialChars ∧ before = escape front ∧
          '&' :: after = charHtml c ++ escape back) ∧
      unescape (escape text) = text := by
  refine ⟨escape_eq_flatMap_charHtml text, ?_, ?_, unescape_escape text⟩
  · intro c isMarkup
    exact not_mem_escape isMarkup text
  · intro before after split
    exact exists_special_of_ampersand split

/-- A text that holds an entity has its ampersand written as one. -/
theorem escaping_is_exact_at_entity :
    escape "\"&lt;'".toList = "&quot;&amp;lt;&#39;".toList ∧
      (∃ front c back, "\"&lt;'".toList = front ++ c :: back ∧ c ∈ specialChars ∧
        "&quot;".toList = escape front ∧ "&amp;lt;&#39;".toList = charHtml c ++ escape back) ∧
      unescape (escape "\"&lt;'".toList) = "\"&lt;'".toList := by
  have isEscaped : escape "\"&lt;'".toList = "&quot;".toList ++ '&' :: "amp;lt;&#39;".toList := by
    decide
  have isExact := escaping_is_exact "\"&lt;'".toList
  exact ⟨isEscaped, isExact.2.2.1 _ _ isEscaped, isExact.2.2.2⟩

end MarkdownDialect.Text
