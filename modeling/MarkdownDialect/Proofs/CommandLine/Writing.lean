import MarkdownDialect.CommandLine.Request
import MarkdownDialect.Proofs.Text.LetterCase
import Mathlib.Data.List.Nodup

/-!
# Command lines as they are written

A conversion is written as its parts: the input, the options with their values and the switches.
The names of options are short or long, and the name of the theme is in any letter case. Each part
sets a place of its own in the draft that is read, so the order of the parts does not show: reading
them gives the conversion again.
-/

namespace MarkdownDialect.CommandLine

open Text

/-! ## Writing -/

/-- A part of a command line: the input, an option with its value or a switch. -/
inductive Part where
  | input (path : Path)
  | output (path : Path)
  | format (name : Text)
  | theme (theme : Theme)
  | settings (path : Path)
  | switch (switch : Switch)
  deriving DecidableEq, Repr

/-- How the words are chosen where there is a choice. -/
structure Spelling where
  /-- The short name of an option or its long one. -/
  optionName : ValueOption → Text
  optionName_mem : ∀ option, optionName option ∈ option.names
  /-- The name of a theme in some letter case. -/
  themeName : Theme → Text
  toLowerAscii_themeName : ∀ theme, toLowerAscii (themeName theme) = theme.name

/-- What can be written as an input: the name of standard input, or what does not look like an
option. -/
def IsInput (path : Path) : Prop :=
  path = standardInput ∨ ¬ ['-'] <+: path

namespace Part

/-- What the first word of a part is. -/
def argument : Part → Argument
  | .input _ => .input
  | .output _ => .valueOption .output
  | .format _ => .valueOption .format
  | .theme _ => .valueOption .theme
  | .settings _ => .valueOption .settings
  | .switch given => .switch given

def words (spelling : Spelling) : Part → List Text
  | .input path => [path]
  | .output path => [spelling.optionName .output, path]
  | .format name => [spelling.optionName .format, name]
  | .theme given => [spelling.optionName .theme, spelling.themeName given]
  | .settings path => [spelling.optionName .settings, path]
  | .switch given => [given.name]

end Part

namespace Conversion

def switches (conversion : Conversion) : List Switch :=
  (match conversion.product with
    | .document => []
    | .expanded => [.expanded]
    | .toc => [.toc])
  ++ if conversion.withoutStyles then [.withoutStyles] else []

/-- The parts with which a conversion is written. -/
def parts (conversion : Conversion) : List Part :=
  .input conversion.input :: ((conversion.output.map .output).toList
    ++ ((conversion.formatName.map .format).toList
    ++ ((conversion.theme.map .theme).toList
    ++ ((conversion.settings.map .settings).toList
    ++ conversion.switches.map .switch))))

/-- What is known of a conversion after all its parts are read. -/
def draft (conversion : Conversion) : Draft where
  input := some conversion.input
  output := conversion.output
  formatName := conversion.formatName
  theme := conversion.theme
  settings := conversion.settings
  expanded := conversion.product = .expanded
  toc := conversion.product = .toc
  withoutStyles := conversion.withoutStyles

private theorem request_draft (conversion : Conversion) :
    conversion.draft.request = .ok (.convert conversion) := by
  obtain ⟨input, output, formatName, theme, settings, product, withoutStyles⟩ := conversion
  cases product <;> rfl

end Conversion

/-! ## Reading a part -/

namespace Argument

private theorem ofText_of_mem_names {option : ValueOption} :
    ∀ name ∈ option.names, ofText name = .valueOption option := by
  cases option <;> decide

@[simp]
theorem ofText_switchName (switch : Switch) : ofText switch.name = .switch switch := by
  cases switch <;> decide

/-- All names begin with a hyphen, so what does not is an input. -/
private theorem ofText_input {path : Path} (isInput : IsInput path) : ofText path = .input := by
  rcases isInput with rfl | noOption
  · decide
  · have foreign (names : List Text) (hyphens : ∀ name ∈ names, ['-'] <+: name) : path ∉ names :=
      fun member => noOption (hyphens path member)
    have noHelp : helpNames.contains path = false := by
      simpa using foreign helpNames (by decide)
    have noVersion : versionNames.contains path = false := by
      simpa using foreign versionNames (by decide)
    have noValue : ValueOption.all.find? (fun option => option.names.contains path) = none := by
      rw [List.find?_eq_none]
      intro option _
      simpa using foreign option.names (by cases option <;> decide)
    have noSwitch : Switch.all.find? (fun switch => switch.name = path) = none := by
      rw [List.find?_eq_none]
      intro switch _
      have different : path ≠ switch.name := by
        simpa using foreign [switch.name] (by cases switch <;> decide)
      simpa using different.symm
    have noHyphen : ['-'].isPrefixOf path = false := by
      rwa [Bool.eq_false_iff, Ne, List.isPrefixOf_iff_prefix]
    simp only [ofText, noHelp, noVersion, noValue, noSwitch, noHyphen, Bool.false_and,
      Bool.false_eq_true, if_false]

end Argument

@[simp]
theorem Spelling.ofText?_themeName (spelling : Spelling) (theme : Theme) :
    Theme.ofText? (spelling.themeName theme) = some theme := by
  have lowered : toLower (spelling.themeName theme) = theme.name :=
    toLower_of_toLowerAscii (by cases theme <;> decide) (spelling.toLowerAscii_themeName theme)
  unfold Theme.ofText?
  rw [lowered]
  cases theme <;> decide

namespace Draft

/-- What is known after a part is read. -/
def give (draft : Draft) : Part → Draft
  | .input path => { draft with input := some path }
  | .output path => { draft with output := some path }
  | .format name => { draft with formatName := some name }
  | .theme theme => { draft with theme := some theme }
  | .settings path => { draft with settings := some path }
  | .switch switch => draft.turnOn switch

/-- Whether a part can be read; only an input can be out of place. -/
def Accepts (draft : Draft) : Part → Prop
  | .input path => IsInput path ∧ draft.input = none
  | _ => True

theorem read_words_append (spelling : Spelling) {draft : Draft} {part : Part}
    (accepts : draft.Accepts part) (rest : List Text) :
    draft.read (part.words spelling ++ rest) = (draft.give part).read rest := by
  have isName (option : ValueOption) :
      Argument.ofText (spelling.optionName option) = .valueOption option :=
    Argument.ofText_of_mem_names _ (spelling.optionName_mem option)
  cases part with
  | input path =>
      obtain ⟨isInput, unset⟩ := accepts
      have added : draft.addInput path = .ok (draft.give (.input path)) := by
        simp only [addInput, unset, give]
      simp only [Part.words, List.cons_append, List.nil_append, read,
        Argument.ofText_input isInput, added]
  | output path | format path | settings path =>
      simp only [Part.words, List.cons_append, List.nil_append, read, isName, set, give]
  | theme theme =>
      simp only [Part.words, List.cons_append, List.nil_append, read, isName, set,
        spelling.ofText?_themeName, give]
  | switch switch =>
      simp only [Part.words, List.cons_append, List.nil_append, read,
        Argument.ofText_switchName, give]

/-! ## Reading parts in any order -/

/-- A part leaves room for the parts that are not of its kind. -/
private theorem accepts_give {draft : Draft} {first second : Part}
    (different : first.argument ≠ second.argument) (accepts : draft.Accepts second) :
    (draft.give first).Accepts second := by
  cases second with
  | input path =>
      obtain ⟨isInput, unset⟩ := accepts
      refine ⟨isInput, ?_⟩
      cases first with
      | input other => exact absurd rfl different
      | output _ | format _ | theme _ | settings _ => exact unset
      | switch switch =>
          cases switch <;> exact unset
  | output _ | format _ | theme _ | settings _ | switch _ => exact trivial

private theorem give_switch_comm (draft : Draft) (switch : Switch) (part : Part) :
    (draft.give (.switch switch)).give part = (draft.give part).give (.switch switch) := by
  cases part with
  | input _ | output _ | format _ | theme _ | settings _ => cases switch <;> rfl
  | switch other => cases switch <;> cases other <;> rfl

/-- Parts of different kinds can be read in either order. -/
private theorem give_comm (draft : Draft) {first second : Part}
    (different : first.argument ≠ second.argument) :
    (draft.give first).give second = (draft.give second).give first := by
  cases second with
  | switch switch => exact (give_switch_comm draft switch first).symm
  | input _ | output _ | format _ | theme _ | settings _ =>
      cases first with
      | switch switch => exact give_switch_comm draft switch _
      | input _ | output _ | format _ | theme _ | settings _ =>
          -- Either the parts are of one kind, or they set different places.
          first
          | exact absurd rfl different
          | rfl

/-- Reading all parts of a command line. -/
private theorem read_flatMap_words (spelling : Spelling) {parts : List Part} {draft : Draft}
    (accepts : ∀ part ∈ parts, draft.Accepts part)
    (different : parts.Pairwise fun first second => first.argument ≠ second.argument) :
    draft.read (parts.flatMap (Part.words spelling)) = (parts.foldl give draft).request := by
  induction parts generalizing draft with
  | nil => rfl
  | cons part rest inductionHypothesis =>
      rw [List.pairwise_cons] at different
      have acceptsRest : ∀ other ∈ rest, (draft.give part).Accepts other := fun other member =>
        accepts_give (different.1 other member) (accepts other (List.mem_cons_of_mem part member))
      rw [List.flatMap_cons, read_words_append spelling (accepts part List.mem_cons_self),
        inductionHypothesis acceptsRest different.2, List.foldl_cons]

end Draft

namespace Conversion

/-- Reading the parts in the order of their list. -/
private theorem foldl_give_parts (conversion : Conversion) :
    conversion.parts.foldl Draft.give {} = conversion.draft := by
  have single {α : Type} (draft : Draft) (value : Option α) (part : α → Part) :
      ((value.map part).toList).foldl Draft.give draft =
        value.elim draft fun given => draft.give (part given) := by
    cases value <;> rfl
  obtain ⟨input, output, formatName, theme, settings, product, withoutStyles⟩ := conversion
  simp only [parts, List.foldl_cons, List.foldl_append, single]
  -- Each option is given or left out.
  cases output <;> cases formatName <;> cases theme <;> cases settings <;> cases product <;>
    cases withoutStyles <;> rfl

theorem nodup_argument_parts (conversion : Conversion) :
    (conversion.parts.map Part.argument).Nodup := by
  have single {α : Type} (value : Option α) (part : α → Part) (kind : Argument)
      (ofKind : ∀ given, (part given).argument = kind) :
      (((value.map part).toList).map Part.argument).Sublist [kind] := by
    cases value <;> simp [ofKind]
  have switches : ((conversion.switches.map Part.switch).map Part.argument).Sublist
      [.switch .expanded, .switch .toc, .switch .withoutStyles] := by
    unfold Conversion.switches
    cases conversion.product <;> cases conversion.withoutStyles <;> decide
  have kinds : [Argument.input, .valueOption .output, .valueOption .format, .valueOption .theme,
      .valueOption .settings, .switch .expanded, .switch .toc, .switch .withoutStyles].Nodup := by
    decide
  have output := single conversion.output .output (.valueOption .output) fun _ => rfl
  have format := single conversion.formatName .format (.valueOption .format) fun _ => rfl
  have theme := single conversion.theme .theme (.valueOption .theme) fun _ => rfl
  have settings := single conversion.settings .settings (.valueOption .settings) fun _ => rfl
  refine List.Sublist.nodup ?_ kinds
  simp only [parts, List.map_cons, List.map_append]
  exact (output.append (format.append (theme.append (settings.append switches)))).cons_cons .input

end Conversion

/-! ## Reading what is written -/

/-- The order of the parts does not show in what is known at the end. -/
private theorem Conversion.foldl_give_of_perm {conversion : Conversion} {parts : List Part}
    (order : parts.Perm conversion.parts) : parts.foldl Draft.give {} = conversion.draft := by
  have distinct := conversion.nodup_argument_parts
  rw [← conversion.foldl_give_parts]
  apply order.foldl_eq'
  intro first isFirst second isSecond draft
  by_cases sameKind : first.argument = second.argument
  · have same : first = second :=
      List.inj_on_of_nodup_map distinct (order.mem_iff.mp isFirst) (order.mem_iff.mp isSecond)
        sameKind
    rw [same]
  · exact Draft.give_comm draft sameKind

private theorem Conversion.eq_input_of_mem_parts {conversion : Conversion} {path : Path}
    (member : .input path ∈ conversion.parts) : path = conversion.input := by
  simpa [parts] using member

/-- A command line with the parts of a conversion, in any order and any spelling, asks for that
conversion. -/
theorem conversion_is_read_back_in_any_order {conversion : Conversion}
    (isInput : IsInput conversion.input) (spelling : Spelling) {parts : List Part}
    (order : parts.Perm conversion.parts) :
    Request.ofArguments (parts.flatMap (Part.words spelling)) = .ok (.convert conversion) := by
  have distinct : parts.Pairwise fun first second => first.argument ≠ second.argument := by
    have nodup := (order.map Part.argument).nodup_iff.mpr conversion.nodup_argument_parts
    exact List.pairwise_map.mp nodup
  have accepts : ∀ part ∈ parts, Draft.Accepts {} part := by
    intro part member
    cases part with
    | input path =>
        have isItsInput := conversion.eq_input_of_mem_parts (order.mem_iff.mp member)
        exact ⟨isItsInput ▸ isInput, rfl⟩
    | output _ | format _ | theme _ | settings _ | switch _ => exact trivial
  unfold Request.ofArguments
  rw [Draft.read_flatMap_words spelling accepts distinct, Conversion.foldl_give_of_perm order,
    conversion.request_draft]

/-- Long names for the output, short ones for the rest, and capitals in the names of themes. -/
def sampleSpelling : Spelling where
  optionName
    | .output => "--output".toList
    | .format => "-f".toList
    | .theme => "-t".toList
    | .settings => "-c".toList
  optionName_mem := by
    intro option
    cases option <;> decide
  themeName
    | .light => "LIGHT".toList
    | .dark => "daRK".toList
  toLowerAscii_themeName := by
    intro theme
    cases theme <;> decide

/-- A conversion of standard input whose values look like options. -/
def sampleConversion : Conversion where
  input := standardInput
  output := some "-o".toList
  formatName := some "--help".toList
  theme := some .dark
  settings := some "--toc".toList
  product := .toc
  withoutStyles := true

def sampleParts : List Part :=
  [.switch .toc, .settings "--toc".toList, .theme .dark, .input standardInput,
    .output "-o".toList, .switch .withoutStyles, .format "--help".toList]

/-- Values that look like options are read as values, and the input may stand between options. -/
theorem conversion_is_read_back_at_sampleConversion :
    IsInput sampleConversion.input ∧ sampleParts.Perm sampleConversion.parts ∧
      Request.ofArguments ["--toc".toList, "-c".toList, "--toc".toList, "-t".toList, "daRK".toList,
          "-".toList, "--output".toList, "-o".toList, "--no-styles".toList, "-f".toList,
          "--help".toList] =
        .ok (.convert sampleConversion) := by
  have isInput : IsInput sampleConversion.input := Or.inl rfl
  have order : sampleParts.Perm sampleConversion.parts := by decide
  exact ⟨isInput, order, conversion_is_read_back_in_any_order isInput sampleSpelling order⟩

end MarkdownDialect.CommandLine
