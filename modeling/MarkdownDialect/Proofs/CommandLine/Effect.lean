import MarkdownDialect.Proofs.CommandLine.Arguments
import MarkdownDialect.Proofs.Export.SuggestedPath
import MarkdownDialect.Proofs.FileTree.Reading
import MarkdownDialect.Proofs.FileTree.Saving

/-!
# The effect of a run

A run that fails prints nothing and changes no file. A run that succeeds either prints its result
and changes no file, or prints nothing and puts the same result in the file of its output.
-/

namespace MarkdownDialect.CommandLine

open Text FileTree

/-! ## Formats -/

/-- The format that a conversion resolves. What is expanded is Markdown, and a table of contents
needs no format. -/
def Conversion.Resolves (conversion : Conversion) (settings : Settings) (format : ExportFormat) :
    Prop :=
  match conversion.product with
  | .document => conversion.format settings = .ok format
  | .expanded => format = .markdown
  | .toc => True

/-- The result in the resolved format does not depend on the output. -/
private theorem Conversion.result_printing {conversion : Conversion} {settings : Settings}
    {source text : Text} (made : conversion.result settings source = .ok text) :
    ∃ format, conversion.Resolves settings format ∧
      (conversion.printing format.extension).result settings source = .ok text := by
  unfold Resolves
  cases product : conversion.product with
  | toc =>
      refine ⟨.markdown, trivial, ?_⟩
      rw [← made]
      simp only [result, printing, product]
  | expanded =>
      refine ⟨.markdown, rfl, ?_⟩
      rw [← made]
      simp only [result, printing, product]
      rfl
  | document =>
      simp only [result, product] at made
      cases resolved : conversion.format settings with
      | error failure => simp [resolved] at made
      | ok format =>
          refine ⟨format, rfl, ?_⟩
          rw [← made, resolved]
          simp only [result, printing, product, Conversion.format,
            ExportFormat.ofName_extension]
          rfl

/-! ## Making the result -/

section

variable {surroundings : Surroundings (StateM FileTree)}

private theorem observes_loadSettings (conversion : Conversion)
    (surroundings : Surroundings (StateM FileTree)) :
    Observes (conversion.loadSettings surroundings) := by
  unfold Conversion.loadSettings
  cases conversion.settings with
  | some path =>
      refine Observes.bind (Observes.loadSettings path) fun loaded => ?_
      cases loaded <;> exact Observes.pure _
  | none =>
      refine Observes.bind (Observes.loadUsualSettings surroundings.settingsPlace) fun loaded => ?_
      cases loaded <;> exact Observes.pure _

private theorem observes_readSource (quiet : ∀ count, Observes (surroundings.standardInput count))
    (conversion : Conversion) (limit : Nat) :
    Observes (conversion.readSource surroundings limit) := by
  unfold Conversion.readSource
  dsimp only
  split
  · refine Observes.bind (quiet _) fun stream => ?_
    cases readStream stream conversion.input limit <;> exact Observes.pure _
  · refine Observes.bind (Observes.readDocument conversion.input limit) fun document => ?_
    cases document <;> exact Observes.pure _

/-- What a conversion makes of its input. -/
def Conversion.made (conversion : Conversion) (surroundings : Surroundings (StateM FileTree))
    (tree : FileTree) : Except RunFailure Text :=
  match ((conversion.loadSettings surroundings).run tree).1 with
  | .error failure => .error failure
  | .ok settings =>
    match ((conversion.readSource surroundings settings.maxFileSize).run tree).1 with
    | .error failure => .error failure
    | .ok source => conversion.result settings source

/-- A run delivers what it has made; up to there, the tree is as it was. -/
theorem Conversion.run_eq (quiet : ∀ count, Observes (surroundings.standardInput count))
    (conversion : Conversion) (tree : FileTree) :
    (conversion.run surroundings).run tree =
      match conversion.made surroundings tree with
      | .error failure => (.error failure, tree)
      | .ok text => (conversion.deliver surroundings text).run tree := by
  unfold Conversion.run made
  rw [(observes_loadSettings conversion surroundings).run_bind]
  cases ((conversion.loadSettings surroundings).run tree).1 with
  | error failure => rfl
  | ok settings =>
      dsimp only
      rw [(observes_readSource quiet conversion settings.maxFileSize).run_bind]
      cases ((conversion.readSource surroundings settings.maxFileSize).run tree).1 with
      | error failure => rfl
      | ok source =>
          dsimp only
          cases conversion.result settings source <;> rfl

/-- What is made does not depend on the output, if the format is the resolved one. -/
private theorem Conversion.made_printing {conversion : Conversion} {tree : FileTree} {text : Text}
    (made : conversion.made surroundings tree = .ok text) :
    ∃ settings format,
      ((conversion.loadSettings surroundings).run tree).1 = .ok settings ∧
      conversion.Resolves settings format ∧
      (conversion.printing format.extension).made surroundings tree = .ok text := by
  unfold Conversion.made at made
  cases loaded : ((conversion.loadSettings surroundings).run tree).1 with
  | error failure => simp [loaded] at made
  | ok settings =>
      simp only [loaded] at made
      cases isRead :
          ((conversion.readSource surroundings settings.maxFileSize).run tree).1 with
      | error failure => simp [isRead] at made
      | ok source =>
          simp only [isRead] at made
          obtain ⟨format, resolves, printed⟩ := Conversion.result_printing made
          -- Neither the settings nor the source depend on the output or the name of the format.
          have loadedAgain :
              (((conversion.printing format.extension).loadSettings surroundings).run tree).1 =
                .ok settings := loaded
          have readAgain :
              (((conversion.printing format.extension).readSource surroundings
                settings.maxFileSize).run tree).1 = .ok source := isRead
          refine ⟨settings, format, rfl, resolves, ?_⟩
          simp only [Conversion.made, loadedAgain, readAgain, printed]

end

/-! ## Delivering it -/

theorem Conversion.deliver_run {conversion : Conversion}
    {surroundings : Surroundings (StateM FileTree)} {tree : FileTree} {text : Text} :
    (conversion.deliver surroundings text).run tree =
      match conversion.output with
      | none => (.ok (.printed text), tree)
      | some path =>
          let saved := tree.save surroundings.stamp path text
          (match saved.1 with
            | .error failure =>
              .error
                { context := some ("Failed to write ".toList ++ path), failure := .file failure }
            | .ok () => .ok .silent, saved.2) := by
  unfold Conversion.deliver
  cases conversion.output with
  | none => rfl
  | some path =>
      simp only [StateT.run_bind, save]
      generalize (writeAtomically (m := StateM FileTree) surroundings.stamp path text).run tree =
        saved
      rcases saved with ⟨failure | _, after⟩ <;> rfl

/-- A conversion fails and changes no file, or prints what it has made, or saves it. -/
theorem Conversion.run_cases {surroundings : Surroundings (StateM FileTree)}
    (quiet : ∀ count, Observes (surroundings.standardInput count)) {conversion : Conversion}
    {tree : FileTree}
    (free : ∀ path ∈ conversion.output,
      ¬tree.HoldsFile (temporaryPath surroundings.stamp path)) :
    (∃ failure after, (conversion.run surroundings).run tree = (.error failure, after) ∧
      after.content? = tree.content?) ∨
      ∃ text, conversion.made surroundings tree = .ok text ∧
        ((conversion.output = none ∧
          (conversion.run surroundings).run tree = (.ok (.printed text), tree)) ∨
        ∃ path location after, conversion.output = some path ∧ tree.LeadsTo path location ∧
          (conversion.run surroundings).run tree = (.ok .silent, after) ∧
          after.content? = Function.update tree.content? location (some (Utf8.encode text))) := by
  rw [conversion.run_eq quiet]
  cases conversion.made surroundings tree with
  | error failure => exact Or.inl ⟨failure, tree, rfl, rfl⟩
  | ok text =>
      dsimp only
      rw [Conversion.deliver_run]
      cases output : conversion.output with
      | none => exact Or.inr ⟨text, rfl, Or.inl ⟨rfl, rfl⟩⟩
      | some path =>
          dsimp only
          have saves := saves_save (free path output) text
          generalize tree.save surroundings.stamp path text = saved at saves
          obtain ⟨result, after⟩ := saved
          cases saves with
          | failed failure unchanged => exact Or.inl ⟨_, after, rfl, unchanged⟩
          | succeeded leads changed _ =>
              exact Or.inr ⟨text, rfl, Or.inr ⟨path, _, after, rfl, leads, rfl, changed⟩⟩

/-! ## Runs -/

/-- The surroundings of a run whose standard input is known. -/
def Surroundings.given (settingsPlace : Option Path) (input : (count : Nat) → ByteStream)
    (stamp : Nat) : Surroundings (StateM FileTree) :=
  { settingsPlace, standardInput := fun count => return input count, stamp }

section

variable {surroundings : Surroundings (StateM FileTree)} {arguments : List Text} {tree : FileTree}

/-- A command line that asks for no conversion changes nothing, and prints only if it succeeds. -/
private theorem run_of_no_conversion (surroundings : Surroundings (StateM FileTree))
    (tree : FileTree)
    (noConversion : ∀ conversion, Request.ofArguments arguments ≠ .ok (.convert conversion)) :
    output? arguments = none ∧
      ∃ outcome, (run surroundings arguments).run tree = (outcome, tree) ∧
        (outcome.code ≠ 0 → outcome.output = []) := by
  unfold run output?
  cases asked : Request.ofArguments arguments with
  | error failure => exact ⟨rfl, .misused failure, rfl, fun _ => rfl⟩
  | ok request =>
      cases request with
      | help => exact ⟨rfl, .printed helpText, rfl, fun failed => absurd rfl failed⟩
      | version => exact ⟨rfl, .printed versionText, rfl, fun failed => absurd rfl failed⟩
      | convert conversion => exact absurd asked (noConversion conversion)

theorem run_convert {conversion : Conversion}
    (asked : Request.ofArguments arguments = .ok (.convert conversion)) {after : FileTree}
    {result : Except RunFailure Outcome}
    (ran : (conversion.run surroundings).run tree = (result, after)) :
    (run surroundings arguments).run tree =
      (match result with
        | .error failure => failure.outcome
        | .ok outcome => outcome, after) := by
  unfold run
  simp only [asked, StateT.run_bind, ran]
  cases result <;> rfl

/-- What a conversion makes is printed by the command line without the output, in the format that
was resolved. -/
private theorem run_printing (quiet : ∀ count, Observes (surroundings.standardInput count))
    {conversion : Conversion} (asked : Request.ofArguments arguments = .ok (.convert conversion))
    {text : Text} (made : conversion.made surroundings tree = .ok text) :
    ∃ settings format,
      ((conversion.loadSettings surroundings).run tree).1 = .ok settings ∧
      conversion.Resolves settings format ∧
      (run surroundings (printing arguments format.extension)).run tree =
        (.printed text, tree) := by
  obtain ⟨settings, format, loaded, resolves, madeAgain⟩ := Conversion.made_printing made
  have ran : ((conversion.printing format.extension).run surroundings).run tree =
      (.ok (.printed text), tree) := by
    rw [Conversion.run_eq quiet, madeAgain]
    exact Conversion.deliver_run
  exact ⟨settings, format, loaded, resolves,
    run_convert (ofArguments_printing asked format.extension) ran⟩

end

/-- A run that fails prints nothing and leaves every file as it was. A run that succeeds and has an
output prints nothing and changes the file of its output only: that file holds what the same command
line prints without the output, in the format that was resolved. A run that succeeds without an
output changes no file. -/
theorem run_has_announced_effect (settingsPlace : Option Path)
    (input : (count : Nat) → ByteStream) {stamp : Nat} {tree : FileTree} {arguments : List Text}
    (free : ∀ path ∈ output? arguments, ¬tree.HoldsFile (temporaryPath stamp path)) :
    let surroundings := Surroundings.given settingsPlace input stamp
    let outcome := ((run surroundings arguments).run tree).1
    let after := ((run surroundings arguments).run tree).2
    (outcome.code ≠ 0 → outcome.output = [] ∧ after.content? = tree.content?) ∧
      (outcome.code = 0 → output? arguments = none → after.content? = tree.content?) ∧
      ∀ path, outcome.code = 0 → output? arguments = some path →
        outcome.output = [] ∧
        ∃ conversion settings format location text,
          Request.ofArguments arguments = .ok (.convert conversion) ∧
          ((conversion.loadSettings surroundings).run tree).1 = .ok settings ∧
          conversion.Resolves settings format ∧
          tree.LeadsTo path location ∧
          after.content? =
            Function.update tree.content? location (some (Utf8.encode text)) ∧
          (run surroundings (printing arguments format.extension)).run tree =
            (.printed text, tree) := by
  intro surroundings outcome after
  have quiet : ∀ count, Observes (surroundings.standardInput count) :=
    fun count => Observes.pure (input count)
  by_cases noConversion :
      ∀ conversion, Request.ofArguments arguments ≠ .ok (.convert conversion)
  · obtain ⟨noOutput, result, ran, silent⟩ :=
      run_of_no_conversion surroundings tree noConversion
    simp only [outcome, after, ran, noOutput]
    exact ⟨fun failed => ⟨silent failed, trivial⟩, fun _ _ => trivial, fun _ _ isOutput => by
      simp at isOutput⟩
  · simp only [ne_eq, not_forall, not_not] at noConversion
    obtain ⟨conversion, asked⟩ := noConversion
    have isOutput : output? arguments = conversion.output := by
      simp only [output?, asked]
    rw [isOutput] at free ⊢
    rcases Conversion.run_cases quiet free with
      ⟨failure, left, ran, unchanged⟩ |
        ⟨text, made, ⟨noOutput, ran⟩ | ⟨place, location, left, isPlace, leads, ran, changed⟩⟩
    · simp [outcome, after, run_convert asked ran, RunFailure.outcome, unchanged]
    · simp [outcome, after, run_convert asked ran, Outcome.printed, noOutput]
    · simp only [outcome, after, run_convert asked ran, isPlace]
      refine ⟨fun failed => absurd rfl failed, fun _ noOutput => by simp at noOutput, ?_⟩
      intro path _ isPath
      cases isPath
      obtain ⟨settings, format, loaded, resolves, printed⟩ := run_printing quiet asked made
      exact ⟨rfl, conversion, settings, format, location, text, asked, loaded, resolves, leads,
        changed, printed⟩

/-- A run whose output is its own input. -/
theorem run_has_effect_on_its_input :
    let tree : FileTree :=
      { files := [(["work".toList, "notes.md".toList], [104, 105])]
        directories := [["work".toList]]
        workingDirectory := ["work".toList] }
    let arguments := ["notes.md".toList, "-o".toList, "notes.md".toList]
    let ran := (run (.given none (fun _ => { bytes := [] }) 7) arguments).run tree
    (∀ path ∈ output? arguments, ¬tree.HoldsFile (temporaryPath 7 path)) ∧
      ran.1.code = 0 ∧ ran.1.output = [] ∧
      ∃ location text, tree.LeadsTo "notes.md".toList location ∧
        ran.2.content? = Function.update tree.content? location (some (Utf8.encode text)) := by
  intro tree arguments ran
  have free : ∀ path ∈ output? arguments, ¬tree.HoldsFile (temporaryPath 7 path) := by
    decide +kernel
  have succeeds : ran.1.code = 0 := by
    decide +kernel
  obtain ⟨_, _, written⟩ := run_has_announced_effect none (fun _ => { bytes := [] }) free
  obtain ⟨noOutput, _, _, _, location, text, _, _, _, leads, changed, _⟩ :=
    written "notes.md".toList succeeds rfl
  exact ⟨free, succeeds, noOutput, location, text, leads, changed⟩

end MarkdownDialect.CommandLine
