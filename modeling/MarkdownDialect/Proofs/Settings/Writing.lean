import Mathlib.Data.List.Induction
import Mathlib.Data.Multiset.Defs
import Mathlib.Tactic.Choose
import MarkdownDialect.Proofs.Json.Spelling
import MarkdownDialect.Proofs.Settings.Record

/-!
# Settings that are written and read again

Settings are written as an object of sections, and sections as objects of fields. At both levels
whatever has its default may be left out and the rest comes in any order. Every spelling of such an
object is read as the settings again.
-/

namespace MarkdownDialect.Settings

open Text

/-! ## How settings are written -/

def optionalText : Option Text → Json
  | none => .null
  | some content => .string (some content)

def colorMembers (colors : List (Text × Text)) : List (Option Text × Json) :=
  colors.map fun entry => (some entry.1, .string (some entry.2))

def interfaceSlots : List (Slot Settings) :=
  [.leaf "theme".toList Settings.theme fun theme => .string (some theme.name)]

def renderSlots : List (Slot RenderOptions) :=
  [.leaf "heading_ids".toList RenderOptions.headingIds .bool,
    .leaf "links_new_tab".toList RenderOptions.linksInNewTab .bool,
    .leaf "toc_title".toList RenderOptions.tocTitle optionalText]

def exportSlots : List (Slot ExportSettings) :=
  [.leaf "include_styles".toList ExportSettings.includeStyles .bool,
    .leaf "include_toc".toList ExportSettings.includeToc .bool,
    .leaf "custom_css".toList ExportSettings.customCss optionalText,
    .leaf "default_format".toList ExportSettings.defaultFormat fun format =>
      .string (some format.extension)]

def fileSlots : List (Slot Settings) :=
  [.leaf "max_file_size".toList Settings.maxFileSize .natural]

/-- The sections. The order of the colours is no part of their value. -/
def sectionSlots : List (Slot Settings) :=
  [{ name := "ui".toList
     Value := Theme
     value := Settings.theme
     Writes := WritesRecord interfaceSlots {} },
    { name := "render".toList
      Value := RenderOptions
      value := Settings.rendering
      Writes := fun settings => WritesRecord renderSlots {} settings.rendering },
    { name := "export".toList
      Value := ExportSettings
      value := Settings.exporting
      Writes := fun settings => WritesRecord exportSlots {} settings.exporting },
    { name := "files".toList
      Value := Nat
      value := Settings.maxFileSize
      Writes := WritesRecord fileSlots {} },
    { name := "colors".toList
      Value := Multiset (Text × Text)
      value := fun settings => settings.colors
      Writes := fun settings json => ∃ colors : List (Text × Text),
        colors.Perm settings.colors ∧ json = .object (colorMembers colors) }]

/-- The texts that write settings. -/
def IsWriting (settings : Settings) (text : Text) : Prop :=
  ∃ json, Json.SpellsDocument text json ∧ WritesRecord sectionSlots {} settings json

/-! ## Fields -/

@[simp]
theorem readOptionalText_optionalText (value : Option Text) :
    readOptionalText (optionalText value) = some value := by
  cases value with
  | none => rfl
  | some content => rfl

@[simp]
theorem readChoice_theme (theme : Theme) :
    readChoice Theme.all Theme.name (.string (some theme.name)) = some theme := by
  cases theme <;> decide

private theorem readChoice_format (format : ExportFormat) :
    readChoice ExportFormat.all ExportFormat.extension (.string (some format.extension)) =
      some format := by
  cases format <;> decide

private theorem isPut_interface (settings : Settings) :
    ∀ slot ∈ interfaceSlots, slot.IsPut interfaceSlots interfaceFields {} settings := by
  simp only [interfaceSlots, List.forall_mem_singleton]
  exact isPut_leaf rfl (fun current => { current with theme := settings.theme })
    (by simp) (fun _ => rfl) (by simp [Slot.leaf])

private theorem isPut_render (options : RenderOptions) :
    ∀ slot ∈ renderSlots, slot.IsPut renderSlots renderFields {} options := by
  simp only [renderSlots, List.forall_mem_cons, List.not_mem_nil, false_imp_iff, implies_true,
    and_true]
  refine ⟨?_, ?_, ?_⟩
  · exact isPut_leaf rfl (fun current => { current with headingIds := options.headingIds })
      (fun _ => rfl) (fun _ => rfl) (by simp [Slot.leaf])
  · exact isPut_leaf rfl (fun current => { current with linksInNewTab := options.linksInNewTab })
      (fun _ => rfl) (fun _ => rfl) (by simp [Slot.leaf])
  · exact isPut_leaf rfl (fun current => { current with tocTitle := options.tocTitle })
      (by simp) (fun _ => rfl) (by simp [Slot.leaf])

private theorem isPut_export (settings : ExportSettings) :
    ∀ slot ∈ exportSlots, slot.IsPut exportSlots exportFields {} settings := by
  simp only [exportSlots, List.forall_mem_cons, List.not_mem_nil, false_imp_iff, implies_true,
    and_true]
  refine ⟨?_, ?_, ?_, ?_⟩
  · exact isPut_leaf rfl (fun current => { current with includeStyles := settings.includeStyles })
      (fun _ => rfl) (fun _ => rfl) (by simp [Slot.leaf])
  · exact isPut_leaf rfl (fun current => { current with includeToc := settings.includeToc })
      (fun _ => rfl) (fun _ => rfl) (by simp [Slot.leaf])
  · exact isPut_leaf rfl (fun current => { current with customCss := settings.customCss })
      (by simp) (fun _ => rfl) (by simp [Slot.leaf])
  · exact isPut_leaf rfl (fun current => { current with defaultFormat := settings.defaultFormat })
      (by simp [readChoice_format]) (fun _ => rfl) (by simp [Slot.leaf])

private theorem isPut_file {settings : Settings} (fits : settings.maxFileSize < bound64) :
    ∀ slot ∈ fileSlots, slot.IsPut fileSlots fileFields {} settings := by
  simp only [fileSlots, List.forall_mem_singleton]
  exact isPut_leaf rfl (fun current => { current with maxFileSize := settings.maxFileSize })
    (by simp [readSize, fits]) (fun _ => rfl) (by simp [Slot.leaf])

/-! ## Colours -/

private theorem setEntry_of_fresh {name : Text} (value : Text) {entries : List (Text × Text)}
    (fresh : name ∉ entries.map Prod.fst) :
    Palette.setEntry name value entries = entries ++ [(name, value)] := by
  induction entries with
  | nil => rfl
  | cons entry rest inductionHypothesis =>
      rw [List.map_cons, List.mem_cons, not_or] at fresh
      rw [Palette.setEntry, if_neg (Ne.symm fresh.1), inductionHypothesis fresh.2,
        List.cons_append]

/-- Colours with different names are read in the order in which they are written. -/
private theorem readColors_colorMembers {colors : List (Text × Text)}
    (distinct : (colors.map Prod.fst).Nodup) :
    readColors (.object (colorMembers colors)) = some colors := by
  rw [readColors]
  induction colors using List.reverseRecOn with
  | nil => rfl
  | append_singleton earlier entry inductionHypothesis =>
      rw [List.map_append, List.nodup_append] at distinct
      have fresh : entry.1 ∉ earlier.map Prod.fst := fun isEarlier =>
        distinct.2.2 entry.1 isEarlier entry.1 (by simp) rfl
      rw [colorMembers, List.map_append, List.foldl_append]
      rw [colorMembers] at inductionHypothesis
      rw [inductionHypothesis distinct.1]
      simp [setEntry_of_fresh entry.2 fresh]

/-! ## Sections -/

private theorem readRecord_interface {settings current : Settings} {json : Json}
    (writes : WritesRecord interfaceSlots {} settings json)
    (untouched : current.theme = ({} : Settings).theme) :
    readRecord interfaceFields current json = some { current with theme := settings.theme } := by
  -- The section sees to the theme alone, so the rest of the settings is the view that it keeps.
  refine readRecord_eq_of_writes (fun record => { record with theme := settings.theme })
    (by decide) (isPut_interface settings) ?keeps ?determined writes
    (by simpa [interfaceSlots, Slot.leaf] using untouched)
  case keeps =>
      simp only [interfaceFields, List.forall_mem_singleton]
      intro current json next puts
      obtain ⟨theme, -, rfl⟩ := Option.map_eq_some_iff.mp puts
      rfl
  case determined =>
      intro next values kept
      have isWritten : next.theme = settings.theme := by
        simpa [interfaceSlots, Slot.leaf] using values
      rw [← kept, ← isWritten]

private theorem readRecord_files {settings current : Settings}
    (fits : settings.maxFileSize < bound64)
    {json : Json} (writes : WritesRecord fileSlots {} settings json)
    (untouched : current.maxFileSize = ({} : Settings).maxFileSize) :
    readRecord fileFields current json =
      some { current with maxFileSize := settings.maxFileSize } := by
  refine readRecord_eq_of_writes
    (fun record => { record with maxFileSize := settings.maxFileSize })
    (by decide) (isPut_file fits) ?keeps ?determined writes
    (by simpa [fileSlots, Slot.leaf] using untouched)
  case keeps =>
      simp only [fileFields, List.forall_mem_singleton]
      intro current json next puts
      obtain ⟨size, -, rfl⟩ := Option.map_eq_some_iff.mp puts
      rfl
  case determined =>
      intro next values kept
      have isWritten : next.maxFileSize = settings.maxFileSize := by
        simpa [fileSlots, Slot.leaf] using values
      rw [← kept, ← isWritten]

private theorem readRecord_render {options : RenderOptions} {json : Json}
    (writes : WritesRecord renderSlots {} options json) :
    readRecord renderFields {} json = some options := by
  refine readRecord_eq_of_writes (fun _ => ()) (by decide) (isPut_render options)
    (fun _ _ _ _ _ _ => rfl) ?determined writes (fun _ _ => rfl)
  rintro ⟨linksInNewTab, headingIds, tocTitle⟩ values -
  simp only [renderSlots, Slot.leaf, List.forall_mem_cons, List.not_mem_nil, false_imp_iff,
    implies_true, and_true] at values
  rw [values.1, values.2.1, values.2.2]

private theorem readRecord_export {settings : ExportSettings} {json : Json}
    (writes : WritesRecord exportSlots {} settings json) :
    readRecord exportFields {} json = some settings := by
  refine readRecord_eq_of_writes (fun _ => ()) (by decide) (isPut_export settings)
    (fun _ _ _ _ _ _ => rfl) ?determined writes (fun _ _ => rfl)
  rintro ⟨includeStyles, includeToc, customCss, defaultFormat⟩ values -
  simp only [exportSlots, Slot.leaf, List.forall_mem_cons, List.not_mem_nil, false_imp_iff,
    implies_true, and_true] at values
  rw [values.1, values.2.1, values.2.2.1, values.2.2.2]

private theorem isPut_section {settings : Settings} (fits : settings.maxFileSize < bound64)
    (distinct : (settings.colors.map Prod.fst).Nodup) :
    ∀ slot ∈ sectionSlots, slot.IsPut sectionSlots sections {} settings := by
  simp only [sectionSlots, List.forall_mem_cons, List.not_mem_nil, false_imp_iff, implies_true,
    and_true]
  refine ⟨⟨_, rfl, ?interface⟩, ⟨_, rfl, ?render⟩, ⟨_, rfl, ?exporting⟩, ⟨_, rfl, ?files⟩,
    ⟨_, rfl, ?colors⟩⟩
  case interface =>
      intro current json writes untouched
      exact ⟨_, readRecord_interface writes untouched, rfl, by simp⟩
  case render =>
      intro current json writes untouched
      refine ⟨{ current with rendering := settings.rendering }, ?_, rfl, by simp⟩
      have isInitial : current.rendering = {} := untouched
      simp only [isInitial, readRecord_render writes, Option.map_some]
  case exporting =>
      intro current json writes untouched
      refine ⟨{ current with exporting := settings.exporting }, ?_, rfl, by simp⟩
      have isInitial : current.exporting = {} := untouched
      simp only [isInitial, readRecord_export writes, Option.map_some]
  case files =>
      intro current json writes untouched
      exact ⟨_, readRecord_files fits writes untouched, rfl, by simp⟩
  case colors =>
      rintro current _ ⟨colors, reordered, rfl⟩ -
      have stillDistinct : (colors.map Prod.fst).Nodup :=
        (reordered.map Prod.fst).nodup_iff.mpr distinct
      refine ⟨{ current with colors }, ?_, Multiset.coe_eq_coe.mpr reordered, by simp⟩
      simp only [readColors_colorMembers stillDistinct, Option.map_some]

/-! ## Reading settings -/

theorem problem?_eq_none_iff {settings : Settings} :
    settings.problem? = none ↔
      settings.maxFileSize ≠ 0 ∧ ∀ entry ∈ settings.colors, (trim entry.2).isEmpty = false := by
  by_cases noSize : settings.maxFileSize = 0
  · simp [problem?, noSize]
  · simp [problem?, noSize]

/-- Settings that pass the check are read from everything that writes them, whatever is left out
and however the rest is spelled and ordered. Sizes have 64 bits, and a table of colours holds each
name once, in no order. -/
theorem ofJson_of_isWriting {settings : Settings} {text : Text}
    (valid : settings.problem? = none) (fits : settings.maxFileSize < bound64)
    (distinct : (settings.colors.map Prod.fst).Nodup) (isWriting : IsWriting settings text) :
    ∃ colors : List (Text × Text), colors.Perm settings.colors ∧
      ofJson text = .ok { settings with colors } := by
  obtain ⟨json, spells, writes⟩ := isWriting
  obtain ⟨next, reads, values⟩ :=
    readRecord_of_writes (by decide) (isPut_section fits distinct) writes (fun _ _ => rfl)
  simp only [sectionSlots, List.forall_mem_cons, List.not_mem_nil, false_imp_iff, implies_true,
    and_true] at values
  obtain ⟨theme, rendering, exporting, maxFileSize, sameColors⟩ := values
  have reordered : next.colors.Perm settings.colors := Multiset.coe_eq_coe.mp sameColors
  have isNext : next = { settings with colors := next.colors } := by
    rw [← theme, ← rendering, ← exporting, ← maxFileSize]
  have stillValid : next.problem? = none := by
    rw [problem?_eq_none_iff] at valid ⊢
    rw [maxFileSize]
    exact ⟨valid.1, fun entry isEntry => valid.2 entry (reordered.subset isEntry)⟩
  refine ⟨next.colors, reordered, ?_⟩
  rw [ofJson, Json.ofText?_of_spells spells, Option.bind_some, reads]
  simp only [stillValid]
  rw [← isNext]

/-- Dark pages, with one character as the caption and two colours. -/
def sampleSettings : Settings :=
  { theme := .dark
    rendering := { tocTitle := some ['😀'] }
    colors := [("red".toList, "#f00".toList), ("grün".toList, "#0f0".toList)] }

/-- The sections are written in another order than the fields of the settings, and so are the
colours. The caption is a surrogate pair of escapes. -/
def sampleText : Text :=
  "\x7b\"colors\":\x7b\"grün\":\"#0f0\",\"red\":\"#f00\"\x7d, \"files\":\x7b \x7d,".toList
    ++ "\"render\":\x7b\"toc_title\":\"\\ud83d\\uDE00\"\x7d,".toList
    ++ "\"ui\":\x7b\"theme\":\"dark\"\x7d\x7d\n".toList

private theorem writesRecord_sampleSettings :
    WritesRecord sectionSlots {} sampleSettings (.object
      [(some "colors".toList,
          .object (colorMembers [("grün".toList, "#0f0".toList), ("red".toList, "#f00".toList)])),
        (some "files".toList, .object []),
        (some "render".toList, .object [(some "toc_title".toList, .string (some ['😀']))]),
        (some "ui".toList, .object [(some "theme".toList, .string (some "dark".toList))])]) := by
  have files : WritesRecord fileSlots {} sampleSettings (.object []) :=
    ⟨[], rfl, by simp, by decide, by simp [fileSlots, Slot.leaf, sampleSettings]⟩
  have render : WritesRecord renderSlots {} sampleSettings.rendering
      (.object [(some "toc_title".toList, .string (some ['😀']))]) :=
    ⟨_, rfl, by simp [renderSlots, Slot.leaf, sampleSettings, optionalText], by decide,
      by simp [renderSlots, Slot.leaf, sampleSettings]⟩
  have interface : WritesRecord interfaceSlots {} sampleSettings
      (.object [(some "theme".toList, .string (some "dark".toList))]) :=
    ⟨_, rfl, by simp [interfaceSlots, Slot.leaf, sampleSettings, Theme.name], by decide,
      by simp [interfaceSlots, Slot.leaf]⟩
  refine ⟨_, rfl, ?known, by decide, ?leftOut⟩
  case known =>
      simp only [List.forall_mem_cons, List.not_mem_nil, false_imp_iff, implies_true, and_true]
      exact ⟨⟨sectionSlots[4], List.getElem_mem _, rfl, _, List.Perm.swap _ _ _, rfl⟩,
        ⟨sectionSlots[3], List.getElem_mem _, rfl, files⟩,
        ⟨sectionSlots[1], List.getElem_mem _, rfl, render⟩,
        ⟨sectionSlots[0], List.getElem_mem _, rfl, interface⟩⟩
  case leftOut =>
      simp [sectionSlots, sampleSettings]

private theorem isWriting_sampleText : IsWriting sampleSettings sampleText := by
  have space : Json.IsBlank [' '] := List.forall_mem_singleton.mpr rfl
  have newline : Json.IsBlank ['\n'] := List.forall_mem_singleton.mpr rfl
  have filesName : Json.SpellsText "files".toList "files".toList :=
    Json.spellsText_self (by decide)
  have string : ∀ content : Text, content.all Json.isPlain = true →
      Json.Spells ('\x22' :: (content ++ ['\x22'])) (.string (some content)) :=
    fun content plain => .string (Json.spellsText_self plain)
  have member : ∀ name : Text, name.all Json.isPlain = true → ∀ {form : Text} {value : Json},
      Json.Spells form value →
      Json.SpellsMember ('\x22' :: (name ++ '\x22' :: ':' :: form)) (some name, value) :=
    fun name plain form value spells => .compact (Json.spellsText_self plain) spells
  have units : Utf16.encodeUnits '😀' = ["d83d".toList, "DE00".toList].map hexValue := by decide
  have caption := Json.Spells.string (.cons
    (Json.SpellsChar.units (by decide) (units ▸ Utf16.spells_encodeUnits '😀')) .nil)
  have colors := member "colors".toList (by decide) (.object
    (.cons (member "grün".toList (by decide) (string "#0f0".toList (by decide)))
      (.last (member "red".toList (by decide) (string "#f00".toList (by decide))))))
  have files := Json.SpellsMember.mk space filesName Json.isBlank_nil Json.isBlank_nil
    (.emptyObject space) Json.isBlank_nil
  have render := member "render".toList (by decide)
    (.object (.last (member "toc_title".toList (by decide) caption)))
  have interface := member "ui".toList (by decide)
    (.object (.last (member "theme".toList (by decide) (string "dark".toList (by decide)))))
  have document := Json.SpellsDocument.mk Json.isBlank_nil
    (.object (.cons colors (.cons files (.cons render (.last interface))))) newline
  exact ⟨_, document, writesRecord_sampleSettings⟩

theorem ofJson_sampleText :
    ∃ colors : List (Text × Text), colors.Perm sampleSettings.colors ∧
      ofJson sampleText = .ok { sampleSettings with colors } :=
  ofJson_of_isWriting (by decide) (by decide) (by decide) isWriting_sampleText

/-! ## Every record can be written -/

/-- Some text writes the field of a record. -/
def Slot.IsWritable {σ : Type} (record : σ) (slot : Slot σ) : Prop :=
  ∃ form json, Json.Spells form json ∧ slot.Writes record json

private theorem exists_writesRecord {σ : Type} {slots : List (Slot σ)} {initial record : σ}
    (distinct : (slots.map Slot.name).Nodup)
    (writable : ∀ slot ∈ slots, slot.IsWritable record) :
    ∃ form json, Json.Spells form json ∧ WritesRecord slots initial record json := by
  choose form json spells writes using writable
  let members := slots.attach.map fun slot => (some slot.1.name, json slot.1 slot.2)
  have spelled : ∀ member ∈ members, ∃ form, Json.SpellsMember form member := by
    intro member isMember
    obtain ⟨⟨slot, isSlot⟩, -, rfl⟩ := List.mem_map.mp isMember
    obtain ⟨name, spellsName⟩ := Json.exists_spellsText slot.name
    exact ⟨_, .compact spellsName (spells slot isSlot)⟩
  have names : members.map Prod.fst = (slots.map Slot.name).map some := by
    rw [List.map_map, List.map_map]
    exact List.attach_map_val (f := some ∘ Slot.name)
  obtain ⟨text, spellsObject⟩ := Json.exists_spells_object spelled
  refine ⟨text, .object members, spellsObject, members, rfl, ?known, ?once, ?leftOut⟩
  case known =>
      intro member isMember
      obtain ⟨⟨slot, isSlot⟩, -, rfl⟩ := List.mem_map.mp isMember
      exact ⟨slot, isSlot, rfl, writes slot isSlot⟩
  case once =>
      rw [names]
      exact distinct.map fun _ _ => Option.some.inj
  case leftOut =>
      intro slot isSlot isLeftOut
      rw [names] at isLeftOut
      exact absurd (List.mem_map_of_mem (List.mem_map_of_mem isSlot)) isLeftOut

private theorem isWritable_leaf {σ α : Type} {name : Text} {value : σ → α} {encode : α → Json}
    {record : σ} (spelled : ∃ form, Json.Spells form (encode (value record))) :
    (Slot.leaf name value encode).IsWritable record := by
  obtain ⟨form, spells⟩ := spelled
  exact ⟨form, encode (value record), spells, rfl⟩

private theorem exists_spells_bool (value : Bool) : ∃ form, Json.Spells form (.bool value) := by
  cases value with
  | false => exact ⟨_, .false⟩
  | true => exact ⟨_, .true⟩

theorem exists_spells_string (content : Text) :
    ∃ form, Json.Spells form (.string (some content)) := by
  obtain ⟨forms, spells⟩ := Json.exists_spellsText content
  exact ⟨_, .string spells⟩

private theorem exists_spells_optionalText (value : Option Text) :
    ∃ form, Json.Spells form (optionalText value) := by
  cases value with
  | none => exact ⟨_, .null⟩
  | some content => exact exists_spells_string content

private theorem exists_spells_colors (colors : List (Text × Text)) :
    ∃ form, Json.Spells form (.object (colorMembers colors)) := by
  refine Json.exists_spells_object fun member isMember => ?_
  obtain ⟨entry, -, rfl⟩ := List.mem_map.mp isMember
  obtain ⟨name, spellsName⟩ := Json.exists_spellsText entry.1
  obtain ⟨form, spells⟩ := exists_spells_string entry.2
  exact ⟨_, .compact spellsName spells⟩

/-- There is a text for all settings. -/
theorem exists_isWriting (settings : Settings) : ∃ text, IsWriting settings text := by
  have interface : ∀ slot ∈ interfaceSlots, slot.IsWritable settings := by
    simp only [interfaceSlots, List.forall_mem_singleton]
    exact isWritable_leaf (exists_spells_string _)
  have render : ∀ slot ∈ renderSlots, slot.IsWritable settings.rendering := by
    simp only [renderSlots, List.forall_mem_cons, List.not_mem_nil, false_imp_iff, implies_true,
      and_true]
    exact ⟨isWritable_leaf (exists_spells_bool _), isWritable_leaf (exists_spells_bool _),
      isWritable_leaf (exists_spells_optionalText _)⟩
  have exporting : ∀ slot ∈ exportSlots, slot.IsWritable settings.exporting := by
    simp only [exportSlots, List.forall_mem_cons, List.not_mem_nil, false_imp_iff, implies_true,
      and_true]
    exact ⟨isWritable_leaf (exists_spells_bool _), isWritable_leaf (exists_spells_bool _),
      isWritable_leaf (exists_spells_optionalText _), isWritable_leaf (exists_spells_string _)⟩
  have files : ∀ slot ∈ fileSlots, slot.IsWritable settings := by
    simp only [fileSlots, List.forall_mem_singleton]
    exact isWritable_leaf ⟨_, .natural _⟩
  have colors : ∃ form json, Json.Spells form json ∧ ∃ colors : List (Text × Text),
      colors.Perm settings.colors ∧ json = .object (colorMembers colors) := by
    obtain ⟨form, spells⟩ := exists_spells_colors settings.colors
    exact ⟨form, _, spells, settings.colors, List.Perm.refl _, rfl⟩
  have writable : ∀ slot ∈ sectionSlots, slot.IsWritable settings := by
    simp only [sectionSlots, List.forall_mem_cons, List.not_mem_nil, false_imp_iff, implies_true,
      and_true]
    exact ⟨exists_writesRecord (by decide) interface, exists_writesRecord (by decide) render,
      exists_writesRecord (by decide) exporting, exists_writesRecord (by decide) files, colors⟩
  obtain ⟨text, json, spells, writes⟩ := exists_writesRecord (by decide) writable
  exact ⟨_, json, .mk Json.isBlank_nil spells Json.isBlank_nil, writes⟩

end MarkdownDialect.Settings
