import MarkdownDialect.Directive.Highlight
import MarkdownDialect.Proofs.Text.LineChange
import MarkdownDialect.Proofs.Text.Markup

/-!
# Reading highlights

A highlight ends at the first `==` that follows its first character, which is no equals sign.
-/

namespace MarkdownDialect.Highlight

open Text

/-- What stands before and after the next delimiter, with no carriage return before it. -/
def readRest? (line : Text) : Option (Text × Text) := do
  let (body, after) ← breakOn delimiter line
  if '\r' ∈ body then none else return (body, after)

/-- A highlight at the front of a line, as its HTML. Its body is not empty, begins with no equals
sign and ends at the first delimiter after its first character. -/
def find? (line : Text) : Option (Text × Text) := do
  match ← delimiter.isPrefixOf? line with
  | [] => none
  | first :: rest =>
    if first = '=' || first = '\r' then
      none
    else
      let (body, after) ← readRest? rest
      return (html (first :: body), after)

def expandLine (line : Text) : Text :=
  replaceMatches find? line

theorem readRest?_eq_some_iff {text body after : Text} :
    readRest? text = some (body, after) ↔
      breakOn delimiter text = some (body, after) ∧ '\r' ∉ body := by
  simp only [readRest?, Option.bind_eq_bind, Option.bind_eq_some_iff, Prod.exists]
  constructor
  · rintro ⟨before, following, found, reading⟩
    split at reading
    · simp at reading
    · next noReturn =>
        simp only [Option.pure_def, Option.some.injEq, Prod.mk.injEq] at reading
        obtain ⟨rfl, rfl⟩ := reading
        exact ⟨found, noReturn⟩
  · rintro ⟨found, noReturn⟩
    exact ⟨body, after, found, if_neg noReturn⟩

theorem readRest?_sound {text body after : Text}
    (reading : readRest? text = some (body, after)) :
    text = body ++ '=' :: '=' :: after ∧ '\r' ∉ body := by
  obtain ⟨found, noReturn⟩ := readRest?_eq_some_iff.mp reading
  exact ⟨breakOn_sound found, noReturn⟩

theorem find?_eq_some_iff {text replacement after : Text} :
    find? text = some (replacement, after) ↔
      ∃ first rest body, text = '=' :: '=' :: first :: rest ∧ first ≠ '=' ∧ first ≠ '\r' ∧
        readRest? rest = some (body, after) ∧ replacement = html (first :: body) := by
  have opening (rest : Text) : delimiter.isPrefixOf? text = some rest ↔ text = '=' :: '=' :: rest :=
    isPrefixOf?_eq_some_iff
  simp only [find?, Option.bind_eq_bind, Option.bind_eq_some_iff, opening]
  constructor
  · rintro ⟨rest, rfl, reading⟩
    cases rest with
    | nil => simp at reading
    | cons first others =>
        dsimp only at reading
        split at reading
        · simp at reading
        · next ordinary =>
            simp only [Option.bind_eq_some_iff, Option.pure_def, Option.some.injEq,
              Prod.mk.injEq, Prod.exists] at reading
            obtain ⟨body, following, found, rfl, rfl⟩ := reading
            simp only [Bool.or_eq_true, decide_eq_true_eq, not_or] at ordinary
            exact ⟨first, others, body, rfl, ordinary.1, ordinary.2, found, rfl⟩
  · rintro ⟨first, rest, body, rfl, noEquals, noReturn, found, rfl⟩
    refine ⟨first :: rest, rfl, ?_⟩
    simp [noEquals, noReturn, found]

theorem find?_sound {text replacement after : Text}
    (reading : find? text = some (replacement, after)) :
    ∃ first body, first ≠ '=' ∧ '\r' ∉ first :: body ∧
      text = '=' :: '=' :: first :: (body ++ '=' :: '=' :: after) ∧
      replacement = html (first :: body) := by
  obtain ⟨first, rest, body, rfl, noEquals, firstNoReturn, found, rfl⟩ :=
    find?_eq_some_iff.mp reading
  obtain ⟨rfl, noReturn⟩ := readRest?_sound found
  refine ⟨first, body, noEquals, ?_, rfl, rfl⟩
  exact List.not_mem_cons_of_ne_of_not_mem (Ne.symm firstNoReturn) noReturn

theorem find?_complete {first : Char} {body : Text} (after : Text)
    (different : first ≠ '=') (noReturn : '\r' ∉ first :: body) :
    (find? ('=' :: '=' :: first :: (body ++ '=' :: '=' :: after))).isSome = true := by
  obtain ⟨before, following, found, isPrefix⟩ := breakOn_complete delimiter body after
  replace noReturn := List.ne_and_not_mem_of_not_mem_cons noReturn
  have rest : readRest? (body ++ '=' :: '=' :: after) = some (before, following) :=
    readRest?_eq_some_iff.mpr ⟨found, fun member => noReturn.2 (isPrefix.subset member)⟩
  have reading := find?_eq_some_iff.mpr
    ⟨first, _, before, rfl, different, Ne.symm noReturn.1, rest, rfl⟩
  rw [reading, Option.isSome_some]

/-- A highlight whose text holds no equals sign. -/
theorem find?_eq_some {text : Text} (after : Text) (nonempty : text ≠ []) (noReturn : '\r' ∉ text)
    (noEquals : '=' ∉ text) :
    find? ('=' :: '=' :: (text ++ '=' :: '=' :: after)) = some (html text, after) := by
  cases text with
  | nil => exact absurd rfl nonempty
  | cons first body =>
      simp only [List.mem_cons, not_or] at noReturn noEquals
      have closing : breakOn delimiter (body ++ '=' :: '=' :: after) = some (body, after) :=
        breakOn_of_not_mem after noEquals.2
      have rest : readRest? (body ++ '=' :: '=' :: after) = some (body, after) :=
        readRest?_eq_some_iff.mpr ⟨closing, noReturn.2⟩
      exact find?_eq_some_iff.mpr
        ⟨first, _, body, rfl, Ne.symm noEquals.1, Ne.symm noReturn.1, rest, rfl⟩

/-- A highlight begins with two equals signs. -/
theorem find?_eq_none {text : Text} (opens : ∀ rest, text ≠ '=' :: '=' :: rest) :
    find? text = none := by
  rw [Option.eq_none_iff_forall_ne_some]
  intro ⟨replacement, after⟩ reading
  obtain ⟨first, body, _, _, shape, _⟩ := find?_sound reading
  exact opens _ shape

theorem inert_of_not_mem {piece : Text} (noEquals : '=' ∉ piece) : Inert find? piece :=
  Text.inert_of_not_mem (fun _ _ different => find?_eq_none fun _ shape =>
    different (List.cons.inj shape).1) noEquals

/-- An equals sign before a quotation mark, as attributes have it, begins no highlight. -/
theorem inert_attribute : Inert find? ['=', '\x22'] := by
  intro back suffix nonempty rest
  apply find?_eq_none
  intro others shape
  simp only [List.suffix_cons_iff, List.suffix_nil] at suffix
  rcases suffix with rfl | rfl | rfl
  · simp at shape
  · simp at shape
  · exact nonempty rfl

theorem advances : Advances find? := by
  intro text replacement after reading
  obtain ⟨first, body, _, _, rfl, _⟩ := find?_sound reading
  exact ⟨'=' :: '=' :: first :: (body ++ ['=', '=']), by simp, by simp⟩

theorem isHtml_html (body : Text) : IsHtml (html body) := by
  refine ⟨"mark>".toList ++ (body ++ "</mar".toList), 'k', ?_, by decide⟩
  unfold html
  simp only [List.append_assoc]
  rfl

/-- Highlighting marks up a line. -/
theorem marksUp_expandLine (line : Text) : MarksUp line (expandLine line) := by
  apply MarksUp.replaceMatches advances
  intro text replacement after reading
  obtain ⟨first, body, _, noReturn, rfl, rfl⟩ := find?_sound reading
  refine ⟨'=' :: '=' :: first :: (body ++ ['=', '=']), by simp, Or.inr ⟨by simp, ?_, ?_⟩⟩
  · simpa using noReturn
  · exact isHtml_html _

/-! ## What highlighting brings in -/

theorem count_lt_of_find? {text replacement after : Text}
    (reading : find? text = some (replacement, after)) :
    text.count '<' < (replacement ++ after).count '<' := by
  obtain ⟨first, body, _, _, rfl, rfl⟩ := find?_sound reading
  have opening : "<mark>".toList.count '<' = 1 := by decide
  unfold html
  simp only [List.count_append, List.count_cons, opening]
  simp only [beq_iff_eq, Char.reduceEq, if_false]
  omega

theorem addsTags_expandLine : AddsTags expandLine :=
  replaceMatches_eq_self_or_count_lt advances '<'
    fun _ _ _ reading => Or.inr (count_lt_of_find? reading)

@[simp]
theorem mem_html {c : Char} (foreign : isMarkupChar c = false) {body : Text} :
    c ∈ html body ↔ c ∈ body := by
  have opening : "<mark>".toList.all isMarkupChar = true := by decide
  have closing : "</mark>".toList.all isMarkupChar = true := by decide
  unfold html
  rw [mem_append_markup foreign closing, mem_markup_append foreign opening]

theorem keepsOut_expandLine {c : Char} (foreign : isMarkupChar c = false) :
    KeepsOut c expandLine := by
  intro line
  apply not_mem_replaceMatches advances
  intro text replacement after reading absent
  obtain ⟨first, body, _, _, rfl, rfl⟩ := find?_sound reading
  simp only [List.mem_cons, List.mem_append, not_or] at absent
  simp [foreign, absent]

theorem staysInLine_expandLine : StaysInLine expandLine :=
  keepsOut_expandLine (by decide)

/-- Whether a highlight is written somewhere in a line. -/
def OccursIn (line : Text) : Prop :=
  ∃ before first body after, first ≠ '=' ∧ '\r' ∉ first :: body ∧
    line = before ++ '=' :: '=' :: first :: (body ++ '=' :: '=' :: after)

/-- Highlighting leaves a line as it is exactly if no highlight is written in it. -/
theorem expandLine_eq_self_iff (line : Text) : expandLine line = line ↔ ¬ OccursIn line := by
  have noMatch : expandLine line = line ↔ ∀ back, back <:+ line → find? back = none :=
    replaceMatches_eq_self_iff advances '<' (fun _ _ _ reading => count_lt_of_find? reading) line
  rw [noMatch]
  constructor
  · rintro missing ⟨before, first, body, after, different, noReturn, rfl⟩
    have found := find?_complete after different noReturn
    rw [missing _ (List.suffix_append before _)] at found
    exact absurd found (by simp)
  · rintro noHighlight back ⟨before, rfl⟩
    rw [Option.eq_none_iff_forall_ne_some]
    rintro ⟨replacement, after⟩ reading
    obtain ⟨first, body, different, noReturn, rfl, _⟩ := find?_sound reading
    exact noHighlight ⟨before, first, body, after, different, noReturn, rfl⟩

end MarkdownDialect.Highlight
