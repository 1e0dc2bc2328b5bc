import MarkdownDialect.CommonMark.Element
import MarkdownDialect.CommonMark.Token

/-!
Emphasis and quotation marks. Delimiters are matched from left to right, a closing run with the
nearest opening one; what remains without a match is text.
-/

namespace MarkdownDialect.CommonMark

open Text

/-- A part of a text: a token that is not an element yet, or an element with the offset after it. -/
inductive Inline where
  | token (token : Token)
  | element (element : Element) (stop : Nat)
  deriving Repr

namespace Inline

def stop : Inline → Nat
  | .token inner => inner.stop
  | .element _ stop => stop

/-- The part that does not stand before an offset. -/
def clip (offset : Nat) : Inline → Inline
  | .token inner => .token (inner.clip offset)
  | whole => whole

end Inline

def textElement (content : Text) : Element :=
  .leaf (.text content)

/-- The element of a token that is neither a delimiter nor a quotation mark. What might have become
something else is text. -/
def Token.element (token : Token) : Element :=
  match token.kind with
  | .softBreak => .leaf .softBreak
  | .hardBreak => .leaf .hardBreak
  | .replaced content => textElement content
  | _ => textElement token.source

/-! ## Quotation marks -/

namespace Quotation

/-- Whether the next single quotation mark that can open or close is one that can close. -/
def closesNext : List Inline → Bool
  | [] => false
  | .token { kind := .quote '\x27' canOpen canClose, .. } :: rest =>
    canClose || (!canOpen && closesNext rest)
  | _ :: rest => closesNext rest

/-- The mark that a single quotation mark becomes, and whether a quotation is open after it. -/
def single (isOpen canOpen canClose : Bool) (rest : List Inline) : Char × Bool :=
  if isOpen && canClose then ('’', false)
  else if canOpen then (if closesNext rest then '‘' else '’', true)
  else ('’', isOpen)

/-- The mark that a double quotation mark becomes, and whether a quotation is open after it. -/
def double (isOpen canOpen canClose : Bool) : Char × Bool :=
  if isOpen && canClose then ('”', false) else ('“', isOpen || canOpen)

/-- Replaces the quotation marks, given which quotations are open. -/
def settle (singleOpen doubleOpen : Bool) : List Inline → List Inline
  | [] => []
  | .token { start, stop, kind := .quote mark canOpen canClose } :: rest =>
    let (replaced, singleOpen, doubleOpen) :=
      if mark = '\x27' then
        let (c, isOpen) := single singleOpen canOpen canClose rest
        (c, isOpen, doubleOpen)
      else
        let (c, isOpen) := double doubleOpen canOpen canClose
        (c, singleOpen, isOpen)
    .token { start, stop, kind := .replaced [replaced] } :: settle singleOpen doubleOpen rest
  | part :: rest => part :: settle singleOpen doubleOpen rest

end Quotation

/-! ## Emphasis -/

/-- A run of delimiters that may open emphasis, with the elements after it, the latest first. -/
structure Opener where
  mark : Char
  count : Nat
  /-- Whether the run can close emphasis too. -/
  both : Bool
  elements : List Element
  deriving Repr

/-- The openers that are not matched yet, the innermost first, and the elements before them, the
latest first. -/
structure Delimited where
  openers : List Opener
  elements : List Element
  deriving Repr

namespace Delimited

def empty : Delimited :=
  { openers := [], elements := [] }

/-- Adds elements, the latest first. -/
def append (state : Delimited) (elements : List Element) : Delimited :=
  match state.openers with
  | [] => { state with elements := elements ++ state.elements }
  | opener :: rest =>
    { state with openers := { opener with elements := elements ++ opener.elements } :: rest }

def runText (mark : Char) (count : Nat) : Element :=
  textElement (List.replicate count mark)

/-- Turns the innermost `count` openers into text. -/
def giveUp (state : Delimited) : (count : Nat) → Delimited
  | 0 => state
  | count + 1 =>
    match state.openers with
    | [] => state
    | opener :: rest =>
      ({ state with openers := rest }.append
        (opener.elements ++ [runText opener.mark opener.count])).giveUp count

/-- Whether a closing run matches an opening one. If either run can both open and close, the sum of
their lengths must not be a multiple of three, unless both lengths are. -/
def isMatch (mark : Char) (count : Nat) (both : Bool) (opener : Opener) : Bool :=
  opener.mark = mark
    && ((!both && !opener.both) || (count + opener.count) % 3 != 0 || count % 3 = 0)

/-- The elements that so many matched delimiters make of their content. Strong emphasis comes
inside. -/
def wrap (mark : Char) : (count : Nat) → List Element → List Element
  | 0, content => content
  | 1, content => [.node .emphasis content]
  | count + 2, content =>
    wrap mark count [.node (if mark = '~' then .strikethrough else .strong) content]

/-- Matches a closing run as far as there are openers for it. Gives the number of delimiters that
remain. -/
def close (mark : Char) (both : Bool) (state : Delimited) (count : Nat) :
    (rounds : Nat) → Nat × Delimited
  | 0 => (count, state)
  | rounds + 1 =>
    match if count = 0 then none else state.openers.findIdx? (isMatch mark count both) with
    | none => (count, state)
    | some inner =>
      let inside := state.giveUp inner
      match inside.openers with
      | [] => (count, inside)
      | opener :: rest =>
        let matched := min count opener.count
        let wrapped := wrap mark matched opener.elements.reverse
        let outside := { inside with openers := rest }
        let after := if matched < opener.count then
            { outside with
              openers := { opener with count := opener.count - matched, both, elements := wrapped }
                :: rest }
          else
            outside.append wrapped
        after.close mark both (count - matched) rounds

/-- Adds a part of the text. -/
def add (state : Delimited) : Inline → Delimited
  | .element element _ => state.append [element]
  | .token token =>
    match token.kind with
    | .delimiters mark count canOpen canClose =>
      let both := canOpen && canClose
      let (left, after) := if canClose then state.close mark both count count else (count, state)
      if left = 0 then after
      else if canOpen then
        { after with openers := { mark, count := left, both, elements := [] } :: after.openers }
      else after.append [runText mark left]
    | _ => state.append [token.element]

/-- The elements of a text whose links are found. -/
def elementsOf (parts : List Inline) : List Element :=
  let state := (Quotation.settle false false parts).foldl add empty
  (state.giveUp state.openers.length).elements.reverse

end Delimited

end MarkdownDialect.CommonMark
