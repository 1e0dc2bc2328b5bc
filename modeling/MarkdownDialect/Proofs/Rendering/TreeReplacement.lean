import MarkdownDialect.Proofs.CommonMark.Forest
import MarkdownDialect.Rendering.Replacement

/-!
# Replacement in the tree

Elements are replaced in the sequence of events, by one walk that gathers what is replaced whole.
On the events of a forest the walk replaces elements of the forest: an image or a diagram with all
that is below it, and the tags of a link around what is below it. The result is well nested again.
-/

namespace MarkdownDialect

open Text CommonMark

/-! ## What is below an element -/

mutual

/-- The texts and codes below an element, in document order. -/
def spoken : Element → Text
  | .leaf (.text content) => content
  | .leaf (.code content) => content
  | .leaf _ => []
  | .node _ children => spokenIn children

def spokenIn : List Element → Text
  | [] => []
  | element :: rest => spoken element ++ spokenIn rest

end

def isText : Element → Bool
  | .leaf (.text _) => true
  | _ => false

mutual

/-- Whether the blocks of code below an element hold nothing but texts. -/
def codeIsText : Element → Bool
  | .leaf _ => true
  | .node (.codeBlock _) children => children.all isText
  | .node _ children => codeIsTextIn children

def codeIsTextIn : List Element → Bool
  | [] => true
  | element :: rest => codeIsText element && codeIsTextIn rest

end

/-! ## Replaced elements -/

def rawHtml (html : Text) : Element :=
  .leaf (.html html)

/-- What stands for an element, given what stands for its children. -/
def standIn (options : RenderOptions) (tag : Tag) (children replaced : List Element) :
    List Element :=
  match tag with
  | .image destination title =>
    [rawHtml (Gathering.imageHtml destination title (spokenIn children))]
  | .codeBlock (some info) =>
    if Diagram.isDiagram info then [rawHtml (Diagram.html (spokenIn children))]
    else [.node (.codeBlock (some info)) replaced]
  | .link kind destination title =>
    if options.linksInNewTab then
      rawHtml (newTabTag destination title) :: (replaced ++ [rawHtml "</a>".toList])
    else [.node (.link kind destination title) replaced]
  | other => [.node other replaced]

mutual

def replacedElement (options : RenderOptions) : Element → List Element
  | .leaf inner => [.leaf inner]
  | .node tag children => standIn options tag children (replacedForest options children)

/-- A forest in which images, diagrams and, if asked for, the tags of links are replaced. -/
def replacedForest (options : RenderOptions) : List Element → List Element
  | [] => []
  | element :: rest => replacedElement options element ++ replacedForest options rest

end

/-! ## What is gathered -/

namespace Gathering

variable {options : RenderOptions}

@[simp]
theorem replace_nil (state : Gathering) : state.replace options [] = state.finish := rfl

/-- An event that is passed on, or that something else stands for. -/
theorem replace_cons_of_step {state next : Gathering} {event : Event} {left : List Event}
    (step : state.step options event = (left, next)) (rest : List Event) :
    state.replace options (event :: rest) = left ++ next.replace options rest := by
  rw [replace, step]

/-- Within an image a whole element only adds its texts and codes to the description. -/
theorem replace_image_eventsOf (destination title : Text) (depth : Nat) (alt : Text)
    (forest : List Element) (rest : List Event) :
    (image destination title depth alt).replace options (eventsOf forest ++ rest) =
      (image destination title depth (alt ++ spokenIn forest)).replace options rest := by
  induction forest using forest_induction generalizing depth alt rest with
  | nil => rw [spokenIn, List.append_nil, eventsOf_nil, List.nil_append]
  | leaf inner others inductionHypothesis =>
      have step : (image destination title depth alt).step options (.leaf inner) =
          ([], image destination title depth (alt ++ spoken (.leaf inner))) := by
        cases inner with
        | text content => rfl
        | code content => rfl
        | _ => simp [Gathering.step, withinImage, spoken]
      rw [eventsOf_leaf_cons, List.cons_append, replace_cons_of_step step, inductionHypothesis,
        spokenIn, List.append_assoc, List.nil_append]
  | node tag children others childrenHypothesis othersHypothesis =>
      -- images within the description are counted, other elements are passed over
      obtain ⟨inner, enters, leaves⟩ : ∃ inner,
          (∀ alt, (image destination title depth alt).step options (.enter tag) =
            ([], image destination title inner alt)) ∧
          ∀ alt, (image destination title inner alt).step options (.leave tag) =
            ([], image destination title depth alt) := by
        cases tag with
        | image => exact ⟨depth + 1, fun _ => rfl, fun _ => rfl⟩
        | _ => exact ⟨depth, fun _ => rfl, fun _ => rfl⟩
      rw [eventsOf_node_cons, List.cons_append, List.append_assoc, List.cons_append,
        replace_cons_of_step (enters _), childrenHypothesis, List.nil_append,
        replace_cons_of_step (leaves _), othersHypothesis, spokenIn, spoken, List.append_assoc,
        List.nil_append]

/-- Within a diagram texts are added to its code. -/
theorem replace_diagram_eventsOf {texts : List Element} (areTexts : texts.all isText = true)
    (code : Text) (rest : List Event) :
    (diagram code).replace options (eventsOf texts ++ rest) =
      (diagram (code ++ spokenIn texts)).replace options rest := by
  induction texts generalizing code with
  | nil => rw [spokenIn, List.append_nil, eventsOf_nil, List.nil_append]
  | cons element others inductionHypothesis =>
      rw [List.all_cons, Bool.and_eq_true] at areTexts
      obtain ⟨isText, othersAreTexts⟩ := areTexts
      match element, isText with
      | .leaf (.text content), _ =>
          have step : (diagram code).step options (.leaf (.text content)) =
              ([], diagram (code ++ content)) := rfl
          rw [eventsOf_leaf_cons, List.cons_append, replace_cons_of_step step,
            inductionHypothesis othersAreTexts, spokenIn, spoken, List.append_assoc,
            List.nil_append]

end Gathering

theorem codeIsTextIn_of_texts {texts : List Element} (areTexts : texts.all isText = true) :
    codeIsTextIn texts = true := by
  induction texts with
  | nil => rfl
  | cons element others inductionHypothesis =>
      rw [List.all_cons, Bool.and_eq_true] at areTexts
      obtain ⟨isText, othersAreTexts⟩ := areTexts
      match element, isText with
      | .leaf (.text content), _ =>
          rw [codeIsTextIn, codeIsText, Bool.true_and, inductionHypothesis othersAreTexts]

/-- Blocks of code that hold only texts do so below every element. -/
theorem codeIsTextIn_children {tag : Tag} {children : List Element}
    (plain : codeIsText (.node tag children) = true) : codeIsTextIn children = true := by
  cases tag with
  | codeBlock info => exact codeIsTextIn_of_texts plain
  | _ => exact plain

/-- A whole element outside of what is replaced whole gives what stands for it. -/
theorem Gathering.replace_node {options : RenderOptions} {tag : Tag} {children : List Element}
    (plain : codeIsText (.node tag children) = true)
    (inChildren : ∀ rest, nothing.replace options (eventsOf children ++ rest) =
      eventsOf (replacedForest options children) ++ nothing.replace options rest)
    (rest : List Event) :
    nothing.replace options (.enter tag :: (eventsOf children ++ .leave tag :: rest)) =
      eventsOf (standIn options tag children (replacedForest options children)) ++
        nothing.replace options rest := by
  -- what stands for the two tags, with the children between them
  have passed {opening closing : List Event}
      (enters : nothing.step options (.enter tag) = (opening, nothing))
      (leaves : nothing.step options (.leave tag) = (closing, nothing)) :
      nothing.replace options (.enter tag :: (eventsOf children ++ .leave tag :: rest)) =
        opening ++ (eventsOf (replacedForest options children) ++
          (closing ++ nothing.replace options rest)) := by
    rw [replace_cons_of_step enters, inChildren, replace_cons_of_step leaves]
  have kept (enters : nothing.step options (.enter tag) = ([.enter tag], nothing))
      (leaves : nothing.step options (.leave tag) = ([.leave tag], nothing))
      (standsForItself : standIn options tag children (replacedForest options children) =
        [.node tag (replacedForest options children)]) :
      nothing.replace options (.enter tag :: (eventsOf children ++ .leave tag :: rest)) =
        eventsOf (standIn options tag children (replacedForest options children)) ++
          nothing.replace options rest := by
    rw [passed enters leaves, standsForItself, eventsOf_node_cons, eventsOf_nil]
    simp only [List.cons_append, List.append_assoc, List.nil_append]
  cases tag with
  | image destination title =>
      have enters : nothing.step options (.enter (.image destination title)) =
          ([], image destination title 0 []) := rfl
      have leaves (alt : Text) :
          (image destination title 0 alt).step options (.leave (.image destination title)) =
            ([htmlEvent (imageHtml destination title alt)], nothing) := rfl
      rw [replace_cons_of_step enters, replace_image_eventsOf, List.nil_append,
        replace_cons_of_step (leaves _), List.nil_append]
      rfl
  | codeBlock info =>
      cases info with
      | none => exact kept rfl rfl rfl
      | some info =>
          by_cases isDiagram : Diagram.isDiagram info = true
          · have enters : nothing.step options (.enter (.codeBlock (some info))) =
                ([], diagram []) := if_pos isDiagram
            have leaves (code : Text) :
                (diagram code).step options (.leave (.codeBlock (some info))) =
                  ([htmlEvent (Diagram.html code)], nothing) := rfl
            rw [replace_cons_of_step enters, replace_diagram_eventsOf plain, List.nil_append,
              replace_cons_of_step (leaves _), List.nil_append, standIn, if_pos isDiagram]
            rfl
          · exact kept (if_neg isDiagram) rfl (if_neg isDiagram)
  | link kind destination title =>
      by_cases newTab : options.linksInNewTab = true
      · rw [passed (if_pos newTab) (if_pos newTab), standIn, if_pos newTab, rawHtml, rawHtml,
          eventsOf_leaf_cons, eventsOf_append, eventsOf_leaf_cons, eventsOf_nil]
        simp only [htmlEvent, List.cons_append, List.append_assoc, List.nil_append]
      · exact kept (if_neg newTab) (if_neg newTab) (if_neg newTab)
  | _ => exact kept rfl rfl rfl

theorem Gathering.replace_eventsOf (options : RenderOptions) {forest : List Element}
    (plain : codeIsTextIn forest = true) (rest : List Event) :
    nothing.replace options (eventsOf forest ++ rest) =
      eventsOf (replacedForest options forest) ++ nothing.replace options rest := by
  induction forest using forest_induction generalizing rest with
  | nil => rw [replacedForest, eventsOf_nil, List.nil_append, List.nil_append]
  | leaf inner others inductionHypothesis =>
      rw [codeIsTextIn, Bool.and_eq_true] at plain
      have step : nothing.step options (.leaf inner) = ([.leaf inner], nothing) := rfl
      rw [eventsOf_leaf_cons, List.cons_append, replace_cons_of_step step,
        inductionHypothesis plain.2]
      rfl
  | node tag children others childrenHypothesis othersHypothesis =>
      rw [codeIsTextIn, Bool.and_eq_true] at plain
      obtain ⟨plainHere, plainOthers⟩ := plain
      have inChildren := childrenHypothesis (codeIsTextIn_children plainHere)
      rw [eventsOf_node_cons, List.cons_append, List.append_assoc, List.cons_append,
        replace_node plainHere inChildren, othersHypothesis plainOthers, replacedForest,
        replacedElement, eventsOf_append, List.append_assoc]

/-- Replacing elements in the events of a forest is replacing them in the forest. -/
theorem replaceElements_eventsOf (options : RenderOptions) {forest : List Element}
    (plain : codeIsTextIn forest = true) :
    replaceElements options (eventsOf forest) = eventsOf (replacedForest options forest) ∧
      IsWellNested (replaceElements options (eventsOf forest)) := by
  have replaced : replaceElements options (eventsOf forest) =
      eventsOf (replacedForest options forest) := by
    have walked := Gathering.replace_eventsOf options plain []
    rwa [List.append_nil, Gathering.replace_nil, Gathering.finish, List.append_nil] at walked
  exact ⟨replaced, isWellNested_iff.mpr ⟨_, replaced⟩⟩

/-- A link around an image whose description holds a link and an image, and a diagram. -/
def sampleForest : List Element := [
  .node .paragraph [.node (.link .ordinary "a".toList "t".toList) [
    .leaf (.text "b".toList), .node (.image "c".toList []) [
      .node (.link .ordinary "d".toList []) [.leaf (.code "e".toList)], .leaf .softBreak,
      .node (.image "f".toList []) [.node .emphasis [.leaf (.text "g".toList)]]]]],
  .node (.codeBlock (some "mermaid".toList)) [.leaf (.text "x<y\n".toList)]]

theorem replaceElements_eventsOf_sampleForest :
    codeIsTextIn sampleForest = true ∧
      replaceElements {} (eventsOf sampleForest) =
        [.enter .paragraph, .leaf (.html (newTabTag "a".toList "t".toList)),
          .leaf (.text "b".toList), .leaf (.html "<img src=\"c\" alt=\"eg\" />".toList),
          .leaf (.html "</a>".toList), .leave .paragraph,
          .leaf (.html "<div class=\"mermaid\">x&lt;y</div>\n".toList)] ∧
      IsWellNested (replaceElements {} (eventsOf sampleForest)) := by
  have plain : codeIsTextIn sampleForest = true := by
    decide
  obtain ⟨replaced, nested⟩ := replaceElements_eventsOf {} plain
  exact ⟨plain, replaced.trans (by decide +kernel), nested⟩

/-! ## Sequences in parts -/

/-- The elements that are replaced with all that is below them. -/
def isReplacedWhole : Tag → Bool
  | .image _ _ => true
  | .codeBlock (some info) => Diagram.isDiagram info
  | _ => false

namespace Gathering

/-- Whether some events lead a walk from one state to another, whatever follows them. -/
def Leads (options : RenderOptions) (state : Gathering) (events : List Event)
    (next : Gathering) : Prop :=
  ∃ left, ∀ rest, state.replace options (events ++ rest) = left ++ next.replace options rest

variable {options : RenderOptions}

theorem Leads.refl (state : Gathering) : Leads options state [] state :=
  ⟨[], fun _ => rfl⟩

theorem leads_step {state next : Gathering} {event : Event}
    (step : (state.step options event).2 = next) : Leads options state [event] next :=
  ⟨(state.step options event).1, fun _ => by rw [← step]; rfl⟩

theorem Leads.trans {state middle next : Gathering} {first second : List Event}
    (leads : Leads options state first middle) (goesOn : Leads options middle second next) :
    Leads options state (first ++ second) next := by
  obtain ⟨left, leads⟩ := leads
  obtain ⟨leftBehind, goesOn⟩ := goesOn
  refine ⟨left ++ leftBehind, fun rest => ?_⟩
  rw [List.append_assoc, leads, goesOn, List.append_assoc]

/-- Events that lead from an element to none are replaced apart from what follows them. -/
theorem Leads.replace_append {events : List Event} (leads : Leads options nothing events nothing)
    (rest : List Event) :
    nothing.replace options (events ++ rest) =
      nothing.replace options events ++ nothing.replace options rest := by
  obtain ⟨left, leads⟩ := leads
  have alone := leads []
  rw [List.append_nil, replace_nil, finish, List.append_nil] at alone
  rw [leads, alone]

theorem step_enter_nothing {tag : Tag} (notWhole : isReplacedWhole tag = false) :
    (nothing.step options (.enter tag)).2 = nothing := by
  cases tag with
  | image => contradiction
  | codeBlock info =>
      cases info with
      | none => rfl
      | some info => exact congrArg Prod.snd (if_neg (Bool.eq_false_iff.mp notWhole))
  | link =>
      by_cases newTab : options.linksInNewTab = true
      · exact congrArg Prod.snd (if_pos newTab)
      · exact congrArg Prod.snd (if_neg newTab)
  | _ => rfl

@[simp]
theorem step_leave_nothing (tag : Tag) : (nothing.step options (.leave tag)).2 = nothing := by
  cases tag with
  | link =>
      by_cases newTab : options.linksInNewTab = true
      · exact congrArg Prod.snd (if_pos newTab)
      · exact congrArg Prod.snd (if_neg newTab)
  | _ => rfl

theorem leads_image_eventsOf (destination title : Text) (depth : Nat) (alt : Text)
    (forest : List Element) :
    Leads options (image destination title depth alt) (eventsOf forest)
      (image destination title depth (alt ++ spokenIn forest)) :=
  ⟨[], replace_image_eventsOf destination title depth alt forest⟩

/-- A block of code that is left ends a diagram, also if it is not the one that began it. -/
inductive MayFollowDiagram : Gathering → Prop where
  | within (code : Text) : MayFollowDiagram (diagram code)
  | behind : MayFollowDiagram nothing

/-- Whether some events lead a walk from no element to none, and from a diagram to no image. -/
structure Passes (options : RenderOptions) (events : List Event) : Prop where
  outside : Leads options nothing events nothing
  inDiagram : ∀ code, ∃ next, MayFollowDiagram next ∧ Leads options (diagram code) events next

theorem Passes.leads {events : List Event} (passes : Passes options events) {state : Gathering}
    (follows : MayFollowDiagram state) :
    ∃ next, MayFollowDiagram next ∧ Leads options state events next := by
  cases follows with
  | within code => exact passes.inDiagram code
  | behind => exact ⟨nothing, .behind, passes.outside⟩

theorem passes_nil : Passes options [] :=
  ⟨.refl nothing, fun code => ⟨diagram code, .within code, .refl _⟩⟩

theorem Passes.append {first second : List Event} (passes : Passes options first)
    (alsoPasses : Passes options second) : Passes options (first ++ second) := by
  refine ⟨passes.outside.trans alsoPasses.outside, fun code => ?_⟩
  obtain ⟨middle, follows, leads⟩ := passes.inDiagram code
  obtain ⟨next, followsNext, goesOn⟩ := alsoPasses.leads follows
  exact ⟨next, followsNext, leads.trans goesOn⟩

theorem passes_leaf (inner : Leaf) : Passes options [.leaf inner] := by
  refine ⟨leads_step rfl, fun code => ?_⟩
  cases inner with
  | text content => exact ⟨diagram (code ++ content), .within _, leads_step rfl⟩
  | _ => exact ⟨diagram code, .within code, leads_step rfl⟩

theorem passes_leave (tag : Tag) : Passes options [.leave tag] := by
  refine ⟨leads_step (step_leave_nothing tag), fun code => ?_⟩
  cases tag with
  | codeBlock info => exact ⟨nothing, .behind, leads_step rfl⟩
  | _ => exact ⟨diagram code, .within code, leads_step rfl⟩

theorem Leads.node {state entered left next : Gathering} {tag : Tag} {children : List Element}
    (enters : (state.step options (.enter tag)).2 = entered)
    (leads : Leads options entered (eventsOf children) left)
    (leaves : Leads options left [.leave tag] next) :
    Leads options state (Element.node tag children).events next := by
  rw [Element.events, ← List.singleton_append, ← List.append_assoc]
  exact ((leads_step enters).trans leads).trans leaves

theorem Passes.node {children : List Element} (passes : Passes options (eventsOf children))
    (tag : Tag) : Passes options (Element.node tag children).events := by
  constructor
  · by_cases isWhole : isReplacedWhole tag = true
    · cases tag with
      | image destination title =>
          exact .node rfl (leads_image_eventsOf _ _ _ _ children) (leads_step rfl)
      | codeBlock info =>
          cases info with
          | none => contradiction
          | some info =>
              obtain ⟨left, follows, leads⟩ := passes.inDiagram []
              have leaves : Leads options left [.leave (.codeBlock (some info))] nothing := by
                cases follows with
                | within code => exact leads_step rfl
                | behind => exact leads_step rfl
              exact .node (congrArg Prod.snd (if_pos isWhole)) leads leaves
      | _ => contradiction
    · exact .node (step_enter_nothing (Bool.eq_false_iff.mpr isWhole)) passes.outside
        (passes_leave tag).outside
  · intro code
    have enters : ((diagram code).step options (.enter tag)).2 = diagram code := rfl
    obtain ⟨left, follows, leads⟩ := passes.inDiagram code
    obtain ⟨next, followsNext, leaves⟩ := (passes_leave tag).leads follows
    exact ⟨next, followsNext, .node enters leads leaves⟩

/-- Whatever it holds, a forest is passed. -/
theorem passes_eventsOf (forest : List Element) : Passes options (eventsOf forest) := by
  induction forest using forest_induction with
  | nil => exact passes_nil
  | leaf inner others inductionHypothesis => exact (passes_leaf inner).append inductionHypothesis
  | node tag children others childrenHypothesis othersHypothesis =>
      exact (childrenHypothesis.node tag).append othersHypothesis

/-- Where no element is open that is replaced whole, a walk is at no such element. -/
theorem leads_of_opens {opened : List Tag} {events : List Event} (opens : Opens opened events)
    (noneWhole : ∀ tag ∈ opened, isReplacedWhole tag = false) :
    Leads options nothing events nothing := by
  induction opened generalizing events with
  | nil =>
      obtain ⟨forest, rfl⟩ := opens
      exact (passes_eventsOf forest).outside
  | cons tag opened inductionHypothesis =>
      obtain ⟨front, forest, rfl, opensFront⟩ := opens
      obtain ⟨notWhole, noneAround⟩ := List.forall_mem_cons.mp noneWhole
      rw [← List.singleton_append]
      exact (inductionHypothesis opensFront noneAround).trans
        ((leads_step (step_enter_nothing notWhole)).trans (passes_eventsOf forest).outside)

end Gathering

end MarkdownDialect
