import MarkdownDialect.Proofs.Image.Style
import MarkdownDialect.Proofs.Text.Unescape
import MarkdownDialect.Rendering.Replacement

/-!
# Tags of images and links

A tag is a name and a row of attributes. Since their values are escaped, no value ends its quotes or
the tag, and cutting the tag at its quotes gives every value back.
-/

namespace MarkdownDialect

open Text

namespace Image

/-! ## Reading tags -/

/-- A text that opens a tag at its front, closes it at its end, and opens and closes no other. -/
def IsOneTag (tag : Text) : Prop :=
  ∃ inner, tag = '<' :: (inner ++ ['>']) ∧ '<' ∉ inner ∧ '>' ∉ inner

/-- The pieces between quotes, taken in turn as what stands before a value and as the value. -/
def pairUp : List Text → List (Text × Text)
  | before :: value :: rest => (before, unescape value) :: pairUp rest
  | _ => []

/-- The decoded values in double quotes, each with the text that stands before it. -/
def quotedParts (tag : Text) : List (Text × Text) :=
  pairUp (splitOn '\x22' tag)

private theorem quotedParts_of_not_mem {text : Text} (noQuote : '\x22' ∉ text) :
    quotedParts text = [] := by
  rw [quotedParts, splitOn_of_not_mem noQuote]
  rfl

theorem quotedParts_quoted {before : Text} (noQuote : '\x22' ∉ before) (value rest : Text) :
    quotedParts (before ++ '\x22' :: (escape value ++ '\x22' :: rest)) =
      (before, value) :: quotedParts rest := by
  have noQuoteInValue : '\x22' ∉ escape value := not_mem_escape (by decide) value
  rw [quotedParts, splitOn_append_cons, splitOn_append_cons, splitOn_of_not_mem noQuote,
    splitOn_of_not_mem noQuoteInValue]
  change (before, unescape (escape value)) :: pairUp (splitOn '\x22' rest) = _
  rw [unescape_escape]
  rfl

/-! ## Writing tags -/

def attributeText (attributes : List (Text × Text)) : Text :=
  attributes.flatMap fun (name, value) => quotedAttribute name value

/-- An attribute that is left out when its value is empty. -/
def optional (name value : Text) : List (Text × Text) :=
  if value.isEmpty then [] else [(name, value)]

/-- What stands before the value of an attribute. -/
def beforeValue (name : Text) : Text :=
  ' ' :: (name ++ ['='])

/-- A text that ends neither a tag nor a value. -/
def IsBare (text : Text) : Prop :=
  ∀ c ∈ ['<', '>', '\x22'], c ∉ text

instance (text : Text) : Decidable (IsBare text) :=
  decidable_of_iff (['<', '>', '\x22'].all fun c => c ∉ text) List.all_iff_forall_prop

theorem IsBare.append {first second : Text} (firstBare : IsBare first)
    (secondBare : IsBare second) :
    IsBare (first ++ second) :=
  fun c special => List.not_mem_append (firstBare c special) (secondBare c special)

theorem IsBare.beforeValue {name : Text} (bare : IsBare name) : IsBare (beforeValue name) :=
  (by decide : IsBare [' ']).append (bare.append (by decide : IsBare ['=']))

theorem quotedAttribute_append (name value rest : Text) :
    quotedAttribute name value ++ rest =
      beforeValue name ++ '\x22' :: (escape value ++ '\x22' :: rest) := by
  simp [quotedAttribute, beforeValue]

@[simp]
theorem attributeText_cons (name value : Text) (others : List (Text × Text)) :
    attributeText ((name, value) :: others) = quotedAttribute name value ++ attributeText others :=
  List.flatMap_cons

@[simp]
theorem attributeText_append (first second : List (Text × Text)) :
    attributeText (first ++ second) = attributeText first ++ attributeText second :=
  List.flatMap_append

theorem attributeText_optional (name value : Text) :
    attributeText (optional name value) =
      if value.isEmpty then [] else quotedAttribute name value := by
  unfold optional
  split
  · rfl
  · exact List.flatMap_singleton _ _

theorem bare_optional {name value : Text} (bareName : IsBare name) :
    ∀ entry ∈ optional name value, IsBare entry.1 := by
  unfold optional
  split
  · exact List.forall_mem_nil _
  · exact List.forall_mem_singleton.mpr bareName

theorem map_optional {α : Type} (change : Text × Text → α) (name value : Text) :
    (optional name value).map change = if value.isEmpty then [] else [change (name, value)] := by
  unfold optional
  split
  · rfl
  · rfl

section

variable {attributes : List (Text × Text)} (bareNames : ∀ entry ∈ attributes, IsBare entry.1)
include bareNames

private theorem not_mem_attributeText {c : Char} (angle : c ∈ ['<', '>']) :
    c ∉ attributeText attributes := by
  induction attributes with
  | nil => exact List.not_mem_nil
  | cons entry others inductionHypothesis =>
      obtain ⟨bareName, othersBare⟩ := List.forall_mem_cons.mp bareNames
      have special : ∀ d ∈ ['<', '>'], d ∈ ['<', '>', '\x22'] ∧ d ∈ ['<', '>', '\x22', '\x27'] ∧
          d ≠ '\x22' :=
        List.all_iff_forall_prop.mp (by decide)
      obtain ⟨inBare, inEscaped, noQuote⟩ := special c angle
      have notBefore := bareName.beforeValue c inBare
      have notInValue := not_mem_escape inEscaped entry.2
      rw [attributeText_cons, quotedAttribute_append]
      simp [notBefore, notInValue, noQuote, inductionHypothesis othersBare]

private theorem quotedParts_attributeText {ending : Text} (noQuote : '\x22' ∉ ending) :
    quotedParts (attributeText attributes ++ ending) =
      attributes.map fun (name, value) => (beforeValue name, value) := by
  induction attributes with
  | nil => exact quotedParts_of_not_mem noQuote
  | cons entry others inductionHypothesis =>
      obtain ⟨bareName, othersBare⟩ := List.forall_mem_cons.mp bareNames
      have noQuoteBefore := bareName.beforeValue '\x22' (by decide)
      rw [attributeText_cons, List.append_assoc, quotedAttribute_append,
        quotedParts_quoted noQuoteBefore, inductionHypothesis othersBare]
      rfl

end

/-- The text of a tag. -/
def tagText (element : Text) (attributes : List (Text × Text)) (ending : Text) : Text :=
  '<' :: (element ++ attributeText attributes ++ (ending ++ ['>']))

section

variable {element ending name value : Text} {others : List (Text × Text)}
  (bareElement : IsBare element) (bareEnding : IsBare ending) (bareName : IsBare name)
  (bareNames : ∀ entry ∈ others, IsBare entry.1)
include bareElement bareEnding bareName bareNames

theorem isOneTag_tagText : IsOneTag (tagText element ((name, value) :: others) ending) := by
  have allBare : ∀ entry ∈ (name, value) :: others, IsBare entry.1 :=
    List.forall_mem_cons.mpr ⟨bareName, bareNames⟩
  have notWithin {c : Char} (angle : c ∈ ['<', '>']) (special : c ∈ ['<', '>', '\x22']) :
      c ∉ element ++ attributeText ((name, value) :: others) ++ ending :=
    List.not_mem_append
      (List.not_mem_append (bareElement c special) (not_mem_attributeText allBare angle))
      (bareEnding c special)
  exact ⟨element ++ attributeText ((name, value) :: others) ++ ending, by simp [tagText],
    notWithin (by decide) (by decide), notWithin (by decide) (by decide)⟩

/-- Every value of a tag is read back. -/
theorem quotedParts_tagText :
    quotedParts (tagText element ((name, value) :: others) ending) =
      ('<' :: (element ++ beforeValue name), value) ::
        others.map fun (name, value) => (beforeValue name, value) := by
  have noQuoteBefore : '\x22' ∉ '<' :: (element ++ beforeValue name) := by
    have inFront : '\x22' ∉ element ++ beforeValue name :=
      (bareElement.append bareName.beforeValue) '\x22' (by decide)
    exact List.not_mem_cons_of_ne_of_not_mem (by decide) inFront
  have noQuoteBehind : '\x22' ∉ ending ++ ['>'] :=
    List.not_mem_append (bareEnding '\x22' (by decide)) (by decide)
  have shape : tagText element ((name, value) :: others) ending =
      '<' :: (element ++ beforeValue name) ++
        '\x22' :: (escape value ++ '\x22' :: (attributeText others ++ (ending ++ ['>']))) := by
    simp only [tagText, attributeText_cons, List.append_assoc, quotedAttribute_append,
      List.cons_append]
  rw [shape, quotedParts_quoted noQuoteBefore, quotedParts_attributeText bareNames noQuoteBehind]

end

/-! ## The tags of images and links -/

/-- The attributes of an image behind its source. -/
def furtherAttributes (image : Image) (alt title : Text) : List (Text × Text) :=
  ("alt".toList, alt) ::
    (optional "title".toList title ++ optional "style".toList image.style)

theorem html_eq_tagText (image : Image) (alt title : Text) :
    image.html alt title =
      tagText "img".toList (("src".toList, image.source) :: image.furtherAttributes alt title)
        " /".toList := by
  have styleText : quotedAttribute "style".toList image.style =
      " style=\"".toList ++ image.style ++ ['\x22'] := by
    rw [quotedAttribute, escape_eq_self fun c special => not_mem_style special image]
    rfl
  have begins (rest : Text) : "<img".toList ++ rest = '<' :: ("img".toList ++ rest) := rfl
  unfold html tagText furtherAttributes
  simp only [attributeText_cons, attributeText_append, attributeText_optional, styleText,
    List.append_assoc, begins]
  rfl

theorem bare_furtherAttributes (image : Image) (alt title : Text) :
    ∀ entry ∈ image.furtherAttributes alt title, IsBare entry.1 := by
  refine List.forall_mem_cons.mpr ⟨(by decide : IsBare "alt".toList), ?_⟩
  exact List.forall_mem_append.mpr ⟨bare_optional (by decide), bare_optional (by decide)⟩

private theorem quotedParts_html (image : Image) (alt title : Text) :
    quotedParts (image.html alt title) =
      ("<img src=".toList, image.source) :: (" alt=".toList, alt) ::
        ((if title.isEmpty then [] else [(" title=".toList, title)])
          ++ (if image.hasHint then [(" style=".toList, image.style)] else [])) := by
  rw [html_eq_tagText, quotedParts_tagText (by decide) (by decide) (by decide)
    (bare_furtherAttributes image alt title), furtherAttributes, List.map_cons, List.map_append,
    map_optional, map_optional, isEmpty_style]
  cases image.hasHint with
  | _ => rfl

private theorem isOneTag_html (image : Image) (alt title : Text) :
    IsOneTag (image.html alt title) := by
  rw [html_eq_tagText]
  exact isOneTag_tagText (by decide) (by decide) (by decide)
    (bare_furtherAttributes image alt title)

/-- The attributes of a link in a new tab behind its address. -/
def tabAttributes (title : Text) : List (Text × Text) :=
  optional "title".toList title ++
    [("target".toList, "_blank".toList), ("rel".toList, "noopener noreferrer".toList)]

theorem newTabTag_eq_tagText (destination title : Text) :
    newTabTag destination title =
      tagText "a".toList (("href".toList, destination) :: tabAttributes title) [] := by
  have begins (rest : Text) : "<a".toList ++ rest = '<' :: ("a".toList ++ rest) := rfl
  have fixed : " target=\"_blank\" rel=\"noopener noreferrer\">".toList =
      quotedAttribute "target".toList "_blank".toList ++
        (quotedAttribute "rel".toList "noopener noreferrer".toList ++ ['>']) := by
    decide
  unfold newTabTag tagText tabAttributes
  simp only [attributeText_cons, attributeText_append, attributeText_optional, fixed,
    List.append_assoc, begins]
  rfl

theorem bare_tabAttributes (title : Text) : ∀ entry ∈ tabAttributes title, IsBare entry.1 :=
  List.forall_mem_append.mpr ⟨bare_optional (by decide), by decide⟩

private theorem quotedParts_newTabTag (destination title : Text) :
    quotedParts (newTabTag destination title) =
      ("<a href=".toList, destination) ::
        ((if title.isEmpty then [] else [(" title=".toList, title)])
          ++ [(" target=".toList, "_blank".toList),
            (" rel=".toList, "noopener noreferrer".toList)]) := by
  rw [newTabTag_eq_tagText, quotedParts_tagText (by decide) (by decide) (by decide)
    (bare_tabAttributes title), tabAttributes, List.map_append, map_optional]
  rfl

private theorem isOneTag_newTabTag (destination title : Text) :
    IsOneTag (newTabTag destination title) := by
  rw [newTabTag_eq_tagText]
  exact isOneTag_tagText (by decide) (by decide) (by decide) (bare_tabAttributes title)

/-- Whatever a destination, a description and a title hold, they stay within the values of the tags
of an image and of a link, and the style of the image has lengths within their limits only. -/
theorem tags_cannot_be_left (destination alt title : Text) :
    (IsOneTag ((ofDestination destination).html alt title) ∧
      quotedParts ((ofDestination destination).html alt title) =
        ("<img src=".toList, (ofDestination destination).source) :: (" alt=".toList, alt) ::
          ((if title.isEmpty then [] else [(" title=".toList, title)])
            ++ (if (ofDestination destination).hasHint then
              [(" style=".toList, (ofDestination destination).style)] else [])) ∧
      IsStyle (ofDestination destination).float (ofDestination destination).style) ∧
    IsOneTag (newTabTag destination title) ∧
      quotedParts (newTabTag destination title) =
        ("<a href=".toList, destination) ::
          ((if title.isEmpty then [] else [(" title=".toList, title)])
            ++ [(" target=".toList, "_blank".toList),
              (" rel=".toList, "noopener noreferrer".toList)]) := by
  obtain ⟨widthInRange, heightInRange⟩ := inRange_ofDestination destination
  exact ⟨⟨isOneTag_html _ alt title, quotedParts_html _ alt title,
    isStyle_of_inRange widthInRange heightInRange⟩,
    isOneTag_newTabTag destination title, quotedParts_newTabTag destination title⟩

end Image

end MarkdownDialect
