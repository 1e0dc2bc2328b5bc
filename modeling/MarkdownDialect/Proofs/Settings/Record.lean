import Mathlib.Data.List.Nodup
import MarkdownDialect.Settings

/-!
# Records that are written and read again

A record is written as an object with its fields in any order, in which fields that have their
default may be left out. Read into a record of defaults, such an object gives every field the value
that was written: each member sets its own field and leaves the others as they are.
-/

namespace MarkdownDialect.Settings

open Text

variable {σ : Type}

/-- A field as it is written: its name, its value in a record, and the JSON values that stand for
the value that it has there. -/
structure Slot (σ : Type) where
  name : Text
  Value : Type
  value : σ → Value
  Writes : σ → Json → Prop

/-- A field whose value is written in one way. -/
def Slot.leaf {α : Type} (name : Text) (value : σ → α) (encode : α → Json) : Slot σ :=
  { name, Value := α, value, Writes := fun record json => json = encode (value record) }

/-- The members of an object that writes a record. No field is written twice, and a field that is
left out has the same value as in `initial`. -/
structure WritesMembers (slots : List (Slot σ)) (initial record : σ)
    (members : List (Option Text × Json)) : Prop where
  known : ∀ member ∈ members, ∃ slot ∈ slots,
    member.1 = some slot.name ∧ slot.Writes record member.2
  once : (members.map Prod.fst).Nodup
  leftOut : ∀ slot ∈ slots, some slot.name ∉ members.map Prod.fst →
    slot.value record = slot.value initial

/-- The objects that write a record. -/
def WritesRecord (slots : List (Slot σ)) (initial record : σ) (json : Json) : Prop :=
  ∃ members, json = .object members ∧ WritesMembers slots initial record members

/-- What writes the value of a field is put into this field and no other, in every record that has
the initial value there. -/
def Slot.IsPut (slots : List (Slot σ)) (fields : List (Field σ)) (initial record : σ)
    (slot : Slot σ) : Prop :=
  ∃ field, fields.find? (fun field => field.name = slot.name) = some field ∧
    ∀ current json, slot.Writes record json → slot.value current = slot.value initial →
      ∃ next, field.put current json = some next ∧ slot.value next = slot.value record ∧
        ∀ other ∈ slots, other.name ≠ slot.name → other.value next = other.value current

section Reading

variable {slots : List (Slot σ)} {fields : List (Field σ)} {initial record : σ}

theorem isPut_leaf {α : Type} {name : Text} {value : σ → α} {encode : α → Json}
    {field : Field σ} (found : fields.find? (fun field => field.name = name) = some field)
    (set : σ → σ)
    (puts : ∀ current, field.put current (encode (value record)) = some (set current))
    (sets : ∀ current, value (set current) = value record)
    (leaves : ∀ current, ∀ other ∈ slots, other.name ≠ name →
      other.value (set current) = other.value current) :
    (Slot.leaf name value encode).IsPut slots fields initial record := by
  refine ⟨field, found, ?_⟩
  rintro current _ rfl -
  exact ⟨set current, puts current, sets current, leaves current⟩

private theorem putMembers_of_writes (distinct : (slots.map Slot.name).Nodup)
    (isPut : ∀ slot ∈ slots, slot.IsPut slots fields initial record)
    {members : List (Option Text × Json)}
    (known : ∀ member ∈ members, ∃ slot ∈ slots,
      member.1 = some slot.name ∧ slot.Writes record member.2)
    (once : (members.map Prod.fst).Nodup) (given : List Text)
    (fresh : ∀ name ∈ given, some name ∉ members.map Prod.fst) (current : σ)
    (untouched : ∀ slot ∈ slots, some slot.name ∈ members.map Prod.fst →
      slot.value current = slot.value initial) :
    ∃ next, putMembers fields given current members = some next ∧
      ∀ slot ∈ slots, slot.value next =
        if some slot.name ∈ members.map Prod.fst then slot.value record
        else slot.value current := by
  induction members generalizing given current with
  | nil => exact ⟨current, rfl, fun slot _ => rfl⟩
  | cons member rest inductionHypothesis =>
      obtain ⟨name?, json⟩ := member
      obtain ⟨slot, isSlot, isName, writes⟩ := known (name?, json) List.mem_cons_self
      obtain rfl : name? = some slot.name := isName
      rw [List.map_cons, List.nodup_cons] at once
      have others : ∀ {other : Slot σ}, some other.name ∈ rest.map Prod.fst →
          other.name ≠ slot.name := by
        intro other later same
        exact once.1 (same ▸ later)
      obtain ⟨field, found, puts⟩ := isPut slot isSlot
      obtain ⟨afterFirst, putFirst, isWritten, unchanged⟩ :=
        puts current json writes (untouched slot isSlot (by simp))
      have notGiven : ¬given.contains slot.name = true := by
        rw [List.contains_iff_mem]
        exact fun isGiven => fresh slot.name isGiven (by simp)
      obtain ⟨next, reads, values⟩ :=
        inductionHypothesis (fun member later => known member (List.mem_cons_of_mem _ later))
          once.2 (slot.name :: given)
          (by
            intro name isGiven later
            rcases List.mem_cons.mp isGiven with rfl | isGiven
            · exact once.1 later
            · exact fresh name isGiven (List.mem_cons_of_mem _ later))
          afterFirst
          (by
            intro other isOther later
            rw [unchanged other isOther (others later)]
            exact untouched other isOther (List.mem_cons_of_mem _ later))
      refine ⟨next, ?_, fun other isOther => ?_⟩
      · rw [putMembers, found]
        simp only [if_neg notGiven, putFirst, Option.bind_some, reads]
      · rw [values other isOther]
        by_cases same : other.name = slot.name
        · obtain rfl : other = slot := List.inj_on_of_nodup_map distinct isOther isSlot same
          rw [if_neg once.1, if_pos (by simp), isWritten]
        · have isLater : some other.name ∈ ((some slot.name, json) :: rest).map Prod.fst ↔
              some other.name ∈ rest.map Prod.fst := by
            rw [List.map_cons, List.mem_cons, Option.some.injEq, or_iff_right same]
          rw [unchanged other isOther same, if_congr isLater rfl rfl]

/-- A written record is read into one that has the written value in every field. -/
theorem readRecord_of_writes (distinct : (slots.map Slot.name).Nodup)
    (isPut : ∀ slot ∈ slots, slot.IsPut slots fields initial record) {json : Json}
    (writes : WritesRecord slots initial record json) {current : σ}
    (untouched : ∀ slot ∈ slots, slot.value current = slot.value initial) :
    ∃ next, readRecord fields current json = some next ∧
      ∀ slot ∈ slots, slot.value next = slot.value record := by
  obtain ⟨members, rfl, known, once, leftOut⟩ := writes
  obtain ⟨next, reads, values⟩ :=
    putMembers_of_writes distinct isPut known once [] (by simp) current
      (fun slot isSlot _ => untouched slot isSlot)
  refine ⟨next, reads, fun slot isSlot => ?_⟩
  rw [values slot isSlot]
  split
  · rfl
  · next isLeftOut => rw [untouched slot isSlot, leftOut slot isSlot isLeftOut]

end Reading

/-! ## What a record leaves as it is -/

section Keeping

variable {α : Type} (view : σ → α) {fields : List (Field σ)}

private theorem putMembers_keeps
    (keeps : ∀ field ∈ fields, ∀ {current json next},
      field.put current json = some next → view next = view current)
    {members : List (Option Text × Json)} {given : List Text} {current next : σ}
    (reads : putMembers fields given current members = some next) :
    view next = view current := by
  induction members generalizing given current with
  | nil =>
      cases reads
      rfl
  | cons member rest inductionHypothesis =>
      match member with
      | (none, json) => cases reads
      | (some name, json) =>
          rw [putMembers] at reads
          split at reads
          · exact inductionHypothesis reads
          · next field found =>
              split at reads
              · cases reads
              · obtain ⟨afterFirst, puts, readsRest⟩ := Option.bind_eq_some_iff.mp reads
                rw [inductionHypothesis readsRest,
                  keeps field (List.mem_of_find?_eq_some found) puts]

private theorem putItems_keeps
    (keeps : ∀ field ∈ fields, ∀ {current json next},
      field.put current json = some next → view next = view current)
    {items : List Json} {current next : σ} (reads : putItems fields current items = some next) :
    view next = view current := by
  induction items generalizing fields current with
  | nil =>
      rw [putItems] at reads
      cases reads
      rfl
  | cons json rest inductionHypothesis =>
      cases fields with
      | nil => cases reads
      | cons field fields =>
          obtain ⟨afterFirst, puts, readsRest⟩ := Option.bind_eq_some_iff.mp reads
          have keepsRest := inductionHypothesis
            (fun other isField => keeps other (List.mem_cons_of_mem _ isField)) readsRest
          rw [keepsRest, keeps field List.mem_cons_self puts]

/-- Reading a record changes nothing that none of its fields changes. -/
private theorem readRecord_keeps
    (keeps : ∀ field ∈ fields, ∀ {current json next},
      field.put current json = some next → view next = view current)
    {json : Json} {current next : σ} (reads : readRecord fields current json = some next) :
    view next = view current := by
  cases json with
  | object members => exact putMembers_keeps view keeps reads
  | array items => exact putItems_keeps view keeps reads
  | _ => cases reads

end Keeping

/-- A written record is read as `target` if no other record has the written values and is
otherwise like the one that it is read into. -/
theorem readRecord_eq_of_writes {slots : List (Slot σ)} {fields : List (Field σ)}
    {initial record current target : σ} {α : Type} (view : σ → α)
    (distinct : (slots.map Slot.name).Nodup)
    (isPut : ∀ slot ∈ slots, slot.IsPut slots fields initial record)
    (keeps : ∀ field ∈ fields, ∀ {current json next},
      field.put current json = some next → view next = view current)
    (determined : ∀ next, (∀ slot ∈ slots, slot.value next = slot.value record) →
      view next = view current → next = target)
    {json : Json} (writes : WritesRecord slots initial record json)
    (untouched : ∀ slot ∈ slots, slot.value current = slot.value initial) :
    readRecord fields current json = some target := by
  obtain ⟨next, reads, values⟩ := readRecord_of_writes distinct isPut writes untouched
  rw [reads, determined next values (readRecord_keeps view keeps reads)]

end MarkdownDialect.Settings
