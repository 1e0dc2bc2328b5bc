import MarkdownDialect.CommandLine

/-!
# Command lines that print

The command line that prints what another one writes: it has all its arguments but those that name
outputs, and the format is given by its name.
-/

namespace MarkdownDialect.CommandLine

open Text

/-! ## Conversions -/

/-- The output of a command line that asks for a conversion. -/
def output? (arguments : List Text) : Option Path :=
  match Request.ofArguments arguments with
  | .ok (.convert conversion) => conversion.output
  | _ => none

/-- The same conversion without an output, in the format of a name. -/
def Conversion.printing (conversion : Conversion) (formatName : Text) : Conversion :=
  { conversion with output := none, formatName := some formatName }

/-- The arguments but for the names of outputs and the options before them. -/
def withoutOutput : List Text → List Text
  | [] => []
  | word :: rest =>
    match Argument.ofText word with
    | .valueOption option =>
      match rest with
      | [] => [word]
      | value :: rest =>
        if option = .output then withoutOutput rest else word :: value :: withoutOutput rest
    | _ => word :: withoutOutput rest

/-- The command line that prints in the format of a name what another one gives. -/
def printing (arguments : List Text) (formatName : Text) : List Text :=
  withoutOutput arguments ++ ["--format".toList, formatName]

/-! ## Reading them -/

namespace Draft

def withoutOutput (draft : Draft) : Draft :=
  { draft with output := none }

private theorem request_printing {draft : Draft} {conversion : Conversion}
    (asked : draft.request = .ok (.convert conversion)) (formatName : Text) :
    { draft.withoutOutput with formatName := some formatName }.request =
      .ok (.convert (conversion.printing formatName)) := by
  have sameProduct : { draft.withoutOutput with formatName := some formatName }.product? =
      draft.product? := rfl
  unfold request at asked ⊢
  rw [sameProduct]
  cases product : draft.product? with
  | none => simp [product] at asked
  | some product =>
      simp only [product, withoutOutput] at asked ⊢
      cases input : draft.input with
      | none => simp [input] at asked
      | some input =>
          simp only [input, Except.ok.injEq, Request.convert.injEq] at asked ⊢
          rw [← asked]
          rfl

private theorem addInput_withoutOutput {draft next : Draft} {path : Path}
    (added : draft.addInput path = .ok next) :
    draft.withoutOutput.addInput path = .ok next.withoutOutput := by
  unfold addInput at added ⊢
  cases input : draft.input with
  | some present => simp [input] at added
  | none =>
      simp only [input, withoutOutput, Except.ok.injEq] at added ⊢
      rw [← added]

private theorem set_output {draft next : Draft} {value : Text}
    (isSet : draft.set .output value = .ok next) : next.withoutOutput = draft.withoutOutput := by
  cases isSet
  rfl

private theorem set_withoutOutput {draft next : Draft} {option : ValueOption} {value : Text}
    (other : option ≠ .output) (isSet : draft.set option value = .ok next) :
    draft.withoutOutput.set option value = .ok next.withoutOutput := by
  cases option with
  | output => exact absurd rfl other
  | format =>
      cases isSet
      rfl
  | settings =>
      cases isSet
      rfl
  | theme =>
      unfold set at isSet ⊢
      cases theme : Theme.ofText? value with
      | none => simp [theme] at isSet
      | some theme =>
          simp only [theme, Except.ok.injEq] at isSet ⊢
          rw [← isSet]
          rfl

private theorem read_printing {draft : Draft} {arguments : List Text} {conversion : Conversion}
    (asked : draft.read arguments = .ok (.convert conversion)) (formatName : Text) :
    draft.withoutOutput.read (printing arguments formatName) =
      .ok (.convert (conversion.printing formatName)) := by
  -- The two readings go side by side; only an output is read by the one and not by the other.
  induction draft, arguments using Draft.read.induct with
  | case1 draft => exact request_printing asked formatName
  | case2 draft word rest isHelp => simp [read, isHelp] at asked
  | case3 draft word rest isVersion => simp [read, isVersion] at asked
  | case4 draft word rest isUnknown => simp [read, isUnknown] at asked
  | case5 draft word rest switch isSwitch inductionHypothesis =>
      simp only [read, isSwitch] at asked
      have rest := inductionHypothesis asked
      simp only [printing, CommandLine.withoutOutput, isSwitch, List.cons_append, read] at rest ⊢
      cases switch <;> exact rest
  | case6 draft word rest isInput failure notAdded => simp [read, isInput, notAdded] at asked
  | case7 draft word rest isInput next added inductionHypothesis =>
      simp only [read, isInput, added] at asked
      have rest := inductionHypothesis asked
      simp only [printing, CommandLine.withoutOutput, isInput, List.cons_append, read,
        addInput_withoutOutput added] at rest ⊢
      exact rest
  | case8 draft word option isOption => simp [read, isOption] at asked
  | case9 draft word option isOption value rest failure notSet =>
      simp [read, isOption, notSet] at asked
  | case10 draft word option isOption value rest next isSet inductionHypothesis =>
      simp only [read, isOption, isSet] at asked
      have rest := inductionHypothesis asked
      by_cases isOutput : option = .output
      · subst isOutput
        simp only [printing, CommandLine.withoutOutput, isOption, if_true] at rest ⊢
        rw [← set_output isSet]
        exact rest
      · simp only [printing, CommandLine.withoutOutput, isOption, if_neg isOutput,
          List.cons_append, read, set_withoutOutput isOutput isSet] at rest ⊢
        exact rest

end Draft

/-- What is printed instead of written is the same conversion, in the format of the name. -/
theorem ofArguments_printing {arguments : List Text} {conversion : Conversion}
    (asked : Request.ofArguments arguments = .ok (.convert conversion)) (formatName : Text) :
    Request.ofArguments (printing arguments formatName) =
      .ok (.convert (conversion.printing formatName)) :=
  Draft.read_printing asked formatName

end MarkdownDialect.CommandLine
