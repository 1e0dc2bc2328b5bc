import MarkdownDialect.Proofs.Text.Escape

/-!
# The way back from escaped text

The entities are decoded one after the other. As long as the ampersand is not decoded, every
ampersand begins one of the entities that were written, so a replacement meets these and nothing
else.
-/

namespace MarkdownDialect.Text

/-- What stands for a character once the entities of the characters `decoded` are decoded. -/
def partlyDecoded (decoded : List Char) (c : Char) : Text :=
  if c ∈ decoded then [c] else entityOf c

/-- An entity other than the one that is decoded, at any place in it, is not taken for that. -/
private theorem inert_entityOf {c d : Char} (isSpecial : c ∈ entities.map Prod.fst)
    (alsoSpecial : d ∈ entities.map Prod.fst) (different : c ≠ d) :
    Inert (fun rest => ((entityOf d).isPrefixOf? rest).map fun after => ([d], after))
      (entityOf c) := by
  have unlike : ∀ c ∈ entities.map Prod.fst, ∀ d ∈ entities.map Prod.fst, c ≠ d →
      ∀ back ∈ (entityOf c).tails, back ≠ [] →
        ¬entityOf d <+: back ∧ ¬back <+: entityOf d := by
    simp only [List.forall_mem_map]
    decide
  intro back suffix nonempty rest
  obtain ⟨notShorter, notLonger⟩ :=
    unlike c isSpecial d alsoSpecial different back ((List.mem_tails back _).mpr suffix) nonempty
  dsimp only
  rw [isPrefixOf?_append_eq_none notShorter notLonger]
  rfl

/-- A single character other than the ampersand is not taken for an entity. -/
private theorem inert_singleton {c d : Char} (alsoSpecial : d ∈ entities.map Prod.fst)
    (different : c ≠ '&') :
    Inert (fun rest => ((entityOf d).isPrefixOf? rest).map fun after => ([d], after)) [c] := by
  have beginning : ∀ d ∈ entities.map Prod.fst, (entityOf d).head? = some '&' := by
    rw [List.forall_mem_map]
    decide
  obtain ⟨name, isEntity⟩ := List.head?_eq_some_iff.mp (beginning d alsoSpecial)
  refine @inert_of_not_mem _ _ '&' ?_ [c] ?_
  · intro e rest noAmpersand
    simp [isEntity, List.isPrefixOf?, noAmpersand.symm]
  · simpa using different.symm

/-- One replacement decodes the entity of one character, wherever it was written. -/
private theorem replaceAll_entityOf {decoded : List Char} {d : Char}
    (isSpecial : d ∈ entities.map Prod.fst) (noAmpersand : '&' ∉ decoded) (text : Text) :
    replaceAll (entityOf d) [d] (text.flatMap (partlyDecoded decoded)) =
      text.flatMap (partlyDecoded (decoded ++ [d])) := by
  have entityNonempty : ∀ d ∈ entities.map Prod.fst, entityOf d ≠ [] := by
    rw [List.forall_mem_map]
    decide
  have advances := @advances_fixed (entityOf d) [d] (entityNonempty d isSpecial)
  suffices each : ∀ c ∈ text,
      Inert (fun rest => ((entityOf d).isPrefixOf? rest).map fun after => ([d], after))
          (partlyDecoded decoded c) ∧
        partlyDecoded (decoded ++ [d]) c = partlyDecoded decoded c ∨
      ∀ rest, ((entityOf d).isPrefixOf? (partlyDecoded decoded c ++ rest)).map
        (fun after => ([d], after)) = some (partlyDecoded (decoded ++ [d]) c, rest) by
    simpa [replaceAll] using replaceMatches_flatMap advances each []
  intro c _
  by_cases already : c ∈ decoded
  · left
    have different : c ≠ '&' := by
      rintro rfl
      exact noAmpersand already
    have later : c ∈ decoded ++ [d] := List.mem_append_left _ already
    rw [partlyDecoded, partlyDecoded, if_pos already, if_pos later]
    exact ⟨inert_singleton isSpecial different, rfl⟩
  · by_cases same : c = d
    · right
      intro rest
      have later : c ∈ decoded ++ [d] := by simp [same]
      rw [partlyDecoded, partlyDecoded, if_neg already, if_pos later, same, isPrefixOf?_append]
      rfl
    · left
      have notLater : c ∉ decoded ++ [d] := by simp [already, same]
      rw [partlyDecoded, partlyDecoded, if_neg already, if_neg notLater]
      refine ⟨?_, rfl⟩
      by_cases special : c ∈ entities.map Prod.fst
      · exact inert_entityOf special isSpecial same
      · rw [entityOf_eq_self special]
        apply inert_singleton isSpecial
        rintro rfl
        exact special (by decide)

/-- The replacements of a table decode its characters, if the ampersand is the last of all. -/
private theorem foldl_replaceAll_entityOf {table : List (Char × Text)}
    (known : ∀ entry ∈ table, entry.1 ∈ entities.map Prod.fst ∧ entry.2 = entityOf entry.1)
    {decoded : List Char} (ampersandLast : '&' ∉ (decoded ++ table.map Prod.fst).dropLast)
    (text : Text) :
    table.foldl (fun decoded (c, entity) => replaceAll entity [c] decoded)
        (text.flatMap (partlyDecoded decoded)) =
      text.flatMap (partlyDecoded (decoded ++ table.map Prod.fst)) := by
  induction table generalizing decoded with
  | nil => simp
  | cons entry others inductionHypothesis =>
      obtain ⟨c, entity⟩ := entry
      obtain ⟨isSpecial, rfl⟩ : c ∈ entities.map Prod.fst ∧ entity = entityOf c :=
        known (c, entity) List.mem_cons_self
      have noAmpersand : '&' ∉ decoded := by
        intro member
        apply ampersandLast
        rw [List.map_cons, List.dropLast_append_of_ne_nil (by simp)]
        exact List.mem_append_left _ member
      have regrouped : decoded ++ ((c, entityOf c) :: others).map Prod.fst =
          (decoded ++ [c]) ++ others.map Prod.fst := by
        simp
      have knownOthers : ∀ entry ∈ others,
          entry.1 ∈ entities.map Prod.fst ∧ entry.2 = entityOf entry.1 :=
        fun entry member => known entry (List.mem_cons_of_mem _ member)
      rw [List.foldl_cons, regrouped]
      dsimp only
      rw [replaceAll_entityOf isSpecial noAmpersand,
        inductionHypothesis knownOthers (regrouped ▸ ampersandLast)]

@[simp]
theorem unescape_escape (text : Text) : unescape (escape text) = text := by
  have known : ∀ entry ∈ decodingOrder,
      entry.1 ∈ entities.map Prod.fst ∧ entry.2 = entityOf entry.1 := by
    decide
  have allDecoded : ∀ c ∈ entities.map Prod.fst, c ∈ decodingOrder.map Prod.fst := by
    rw [List.forall_mem_map]
    decide
  have atFirst : escape text = text.flatMap (partlyDecoded []) := by
    rw [escape_eq_flatMap]
    rfl
  have atLast : partlyDecoded ([] ++ decodingOrder.map Prod.fst) = fun c => [c] := by
    funext c
    rw [List.nil_append, partlyDecoded]
    split
    · rfl
    · next notDecoded => exact entityOf_eq_self fun special => notDecoded (allDecoded c special)
  rw [unescape, atFirst, foldl_replaceAll_entityOf known (by decide), atLast,
    List.flatMap_singleton']

end MarkdownDialect.Text
