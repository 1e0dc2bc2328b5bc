import MarkdownDialect.CommonMark.Element
import MarkdownDialect.CommonMark.Token

/-!
A document whose blocks are found and whose text is read into tokens, but not yet into elements.
-/

namespace MarkdownDialect.CommonMark

inductive Piece where
  | token (token : Token)
  | leaf (leaf : Leaf) (stop : Nat)
  | block (tag : Tag) (children : List Piece) (stop : Nat)
  /-- A list item whose content begins so many columns into the line. -/
  | item (indent : Nat) (children : List Piece) (stop : Nat)
  deriving Repr

namespace Piece

/-- Puts the content of a paragraph in its place. -/
def unwrapParagraph : Piece → List Piece
  | block .paragraph [] stop => [block .paragraph [] stop]
  | block .paragraph children _ => children
  | piece => [piece]

/-- An item of a tight list, whose paragraphs are no elements of their own. -/
def tightened : Piece → Piece
  | item indent children stop => item indent (children.flatMap unwrapParagraph) stop
  | piece => piece

end Piece

/-- Moves the end of the last token by a function of the token. -/
def adjustLast (newStop : Token → Nat) (tokens : List Token) : List Token :=
  match tokens.getLast? with
  | none => []
  | some last => tokens.dropLast ++ [{ last with stop := newStop last }]

/-- Where a token ends without the white space at its end. -/
def Token.trimmedStop (token : Token) : Nat :=
  token.stop - (token.source.reverse.takeWhile isInlineSpace).length

end MarkdownDialect.CommonMark
