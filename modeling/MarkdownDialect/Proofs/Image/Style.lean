import MarkdownDialect.Proofs.Image.Extent
import MarkdownDialect.Proofs.Text.Escape
import MarkdownDialect.Proofs.Text.Lines

/-!
# Styles of images

Whatever a destination asks for, the style of its image consists of lengths within fixed limits and
of fixed declarations for its side. No character of it has to be escaped.
-/

namespace MarkdownDialect

open Text

/-! ## Lengths -/

namespace Extent

/-- A number in decimal digits without leading zeros. -/
structure IsDecimal (digits : Text) : Prop where
  nonempty : digits ≠ []
  areDigits : ∀ c ∈ digits, c.isDigit = true
  noLeadingZero : digits.head? = some '0' → digits = ['0']

private theorem isDecimal_ofNat (n : Nat) : IsDecimal (ofNat n) where
  nonempty := Nat.toDigits_ne_nil
  areDigits := isDigit_of_mem_ofNat n
  noLeadingZero := by
    intro isZero
    rcases Nat.eq_zero_or_pos n with rfl | positive
    · rfl
    · exact absurd isZero (head?_ofNat_ne_zero positive)

/-- A length that a style may hold. -/
inductive IsLength : Text → Prop
  | auto : IsLength "auto".toList
  | pixels {digits : Text} :
      IsDecimal digits → decimalValue digits ≤ 4000 → IsLength (digits ++ "px".toList)
  | relative {digits unit : Text} :
      IsDecimal digits → decimalValue digits ≤ 500 →
        unit ∈ ["%".toList, "vw".toList, "vh".toList] → IsLength (digits ++ unit)

def InRange : Extent → Prop
  | auto => True
  | pixels count => count ≤ maxPixels
  | percent count | viewportWidth count | viewportHeight count => count ≤ maxRelative

private theorem InRange.isLength {extent : Extent} (inRange : extent.InRange) :
    IsLength extent.css := by
  have relative {count : Nat} {unit : Text} (inRange : count ≤ maxRelative)
      (known : unit ∈ ["%".toList, "vw".toList, "vh".toList]) : IsLength (ofNat count ++ unit) :=
    .relative (isDecimal_ofNat count) (by rwa [decimalValue_ofNat]) known
  cases extent with
  | auto => exact .auto
  | pixels count => exact .pixels (isDecimal_ofNat count) (by rwa [decimalValue_ofNat])
  | percent count => exact relative inRange (by decide)
  | viewportWidth count => exact relative inRange (by decide)
  | viewportHeight count => exact relative inRange (by decide)

theorem inRange_of_reading {raw : Text} {extent : Extent} (reading : ofText? raw = some extent) :
    extent.InRange := by
  obtain ⟨_, written, _⟩ := ofText?_eq_some_iff.mp reading
  cases written with
  | count _ _ known inRange =>
      cases known with
      | _ => exact inRange

private theorem inRange_ofText (raw : Text) : (ofText raw).InRange := by
  unfold ofText
  cases reading : ofText? raw with
  | none => exact trivial
  | some extent => exact inRange_of_reading reading

private theorem inRange_of_cross {text : Text} {width height : Extent} :
    ∀ {before : Text}, ofCross? before text = some (width, height) →
      width.InRange ∧ height.InRange := by
  induction text with
  | nil =>
      intro before cut
      cases cut
  | cons c rest inductionHypothesis =>
      intro before cut
      rw [ofCross?] at cut
      split at cut
      · split at cut
        · next widthReading heightReading =>
            cases cut
            exact ⟨inRange_of_reading widthReading, inRange_of_reading heightReading⟩
        · exact inductionHypothesis cut
      · exact inductionHypothesis cut

private theorem inRange_ofPair (size : Text) :
    (ofPair size).1.InRange ∧ ∀ height ∈ (ofPair size).2, height.InRange := by
  unfold ofPair
  split
  · next width height _ =>
      refine ⟨inRange_ofText width, ?_⟩
      rintro _ ⟨⟩
      exact inRange_ofText height
  · split
    · next width height cut =>
        obtain ⟨widthInRange, heightInRange⟩ := inRange_of_cross cut
        refine ⟨widthInRange, ?_⟩
        rintro _ ⟨⟩
        exact heightInRange
    · exact ⟨inRange_ofText size, by simp⟩

private theorem not_mem_css {c : Char} (noDigit : c.isDigit = false)
    (inNoWord : c ∉ "autopx%vwh".toList) (extent : Extent) : c ∉ extent.css := by
  have notIn {word : Text} (known : word ⊆ "autopx%vwh".toList) : c ∉ word :=
    fun member => inNoWord (known member)
  have notInNumber := not_mem_ofNat noDigit
  cases extent with
  | auto => exact notIn (by decide)
  | pixels count => exact List.not_mem_append (notInNumber count) (notIn (by decide))
  | percent count => exact List.not_mem_append (notInNumber count) (notIn (by decide))
  | viewportWidth count => exact List.not_mem_append (notInNumber count) (notIn (by decide))
  | viewportHeight count => exact List.not_mem_append (notInNumber count) (notIn (by decide))

end Extent

/-! ## Declarations -/

namespace Image

def floatDeclarations : Float → Text
  | .left => "float: left; margin: 0 1rem 1rem 0;".toList
  | .right => "float: right; margin: 0 0 1rem 1rem;".toList

theorem float_declarations :
    (fun side : Float =>
      "float: ".toList ++ side.name ++ "; margin: ".toList ++ side.margin ++ [';']) =
        floatDeclarations := by
  funext side
  cases side with
  | _ => rfl

/-- A member of a style: a property with a length, or what is declared for a side. -/
inductive IsDeclared : Text → Prop
  | length {property : Text} (extent : Extent) :
      property ∈ ["width: ".toList, "height: ".toList] →
        IsDeclared (property ++ extent.css ++ [';'])
  | float (side : Float) : IsDeclared (floatDeclarations side)

theorem isDeclared_of_mem {image : Image} {declaration : Text}
    (member : declaration ∈ image.declarations) : IsDeclared declaration := by
  simp only [declarations, float_declarations, List.mem_append, Option.mem_toList,
    Option.map_eq_some_iff] at member
  rcases member with (⟨width, -, rfl⟩ | ⟨height, -, rfl⟩) | ⟨side, -, rfl⟩
  · exact .length width (by decide)
  · exact .length height (by decide)
  · exact .float side

/-- Whether an image has a size or a side. -/
def hasHint (image : Image) : Bool :=
  image.width.isSome || image.height.isSome || image.float.isSome

theorem style_eq_nil_iff {image : Image} : image.style = [] ↔ image.hasHint = false := by
  have ends {declaration : Text} (isDeclared : IsDeclared declaration) : ';' ∈ declaration := by
    cases isDeclared with
    | length extent _ => simp
    | float side => cases side <;> decide
  have noDeclarations : image.declarations = [] ↔ image.hasHint = false := by
    simp [declarations, hasHint, and_assoc]
  rw [← noDeclarations]
  constructor
  · intro empty
    rw [List.eq_nil_iff_forall_not_mem]
    intro declaration member
    have inStyle : ';' ∈ image.style :=
      mem_joinWith_of_mem member (ends (isDeclared_of_mem member))
    rw [empty] at inStyle
    exact List.not_mem_nil inStyle
  · intro empty
    rw [style, empty]
    rfl

@[simp]
theorem isEmpty_style (image : Image) : image.style.isEmpty = !image.hasHint := by
  rw [Bool.eq_iff_iff, List.isEmpty_iff, style_eq_nil_iff, Bool.not_eq_true']

/-- The words of a style that stand beside its numbers, and the characters of its units. -/
def fixedWords : List Text :=
  ["width: ".toList, "height: ".toList, "autopx%vwh".toList, floatDeclarations .left,
    floatDeclarations .right, [' '], [';']]

theorem not_mem_style {c : Char} (special : c ∈ entities.map Prod.fst) (image : Image) :
    c ∉ image.style := by
  have ordinary : ∀ d ∈ entities.map Prod.fst, d.isDigit = false ∧ ∀ word ∈ fixedWords, d ∉ word :=
    List.all_iff_forall_prop.mp (by decide)
  obtain ⟨noDigit, inNoWord⟩ := ordinary c special
  apply not_mem_joinWith (inNoWord [' '] (by decide))
  intro declaration member
  cases isDeclared_of_mem member with
  | length extent known =>
      have areFixed : ["width: ".toList, "height: ".toList] ⊆ fixedWords := by decide
      have notInCss := Extent.not_mem_css noDigit (inNoWord _ (by decide)) extent
      exact List.not_mem_append (List.not_mem_append (inNoWord _ (areFixed known)) notInCss)
        (inNoWord [';'] (by decide))
  | float side =>
      have isFixed : floatDeclarations side ∈ fixedWords := by
        cases side <;> decide
      exact inNoWord _ isFixed

/-! ## Styles -/

/-- A style of a width and a height, both if they are there, and of the declarations of a side. -/
def IsStyle (float : Option Float) (style : Text) : Prop :=
  ∃ width height : Option Text,
    (∀ length ∈ width, Extent.IsLength length) ∧ (∀ length ∈ height, Extent.IsLength length) ∧
      style = joinWith [' ']
        ((width.map fun length => "width: ".toList ++ length ++ [';']).toList
          ++ (height.map fun length => "height: ".toList ++ length ++ [';']).toList
          ++ (float.map floatDeclarations).toList)

theorem isStyle_of_inRange {image : Image} (widthInRange : ∀ width ∈ image.width, width.InRange)
    (heightInRange : ∀ height ∈ image.height, height.InRange) :
    IsStyle image.float image.style := by
  have areLengths {extents : Option Extent} (inRange : ∀ extent ∈ extents, extent.InRange) :
      ∀ length ∈ extents.map Extent.css, Extent.IsLength length := by
    intro length member
    obtain ⟨extent, isExtent, rfl⟩ := Option.map_eq_some_iff.mp member
    exact (inRange extent isExtent).isLength
  refine ⟨image.width.map Extent.css, image.height.map Extent.css, areLengths widthInRange,
    areLengths heightInRange, ?_⟩
  rw [style, declarations, float_declarations, Option.map_map, Option.map_map]
  rfl

theorem inRange_ofDestination (destination : Text) :
    (∀ width ∈ (ofDestination destination).width, width.InRange) ∧
      ∀ height ∈ (ofDestination destination).height, height.InRange := by
  simp only [ofDestination]
  split
  · next base size _ =>
      obtain ⟨widthInRange, heightInRange⟩ := Extent.inRange_ofPair size
      refine ⟨?_, heightInRange⟩
      rintro _ ⟨⟩
      exact widthInRange
  · simp

end Image

end MarkdownDialect
