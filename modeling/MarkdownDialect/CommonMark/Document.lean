import MarkdownDialect.CommonMark.Bracket
import MarkdownDialect.CommonMark.Outline

/-!
Reading a document: its blocks are found first, which also finds the definitions of its link
targets, and then the text of each block is resolved.
-/

namespace MarkdownDialect.CommonMark

/-- The tag of a piece and what it claims of the lines within it. -/
def Container.ofTag : Tag → Container
  | .quote => .quote
  | _ => .free

mutual

/-- Resolves a piece to a part of the text around it. -/
def Piece.resolve (definitions : Definitions) (containers : List Container) : Piece → Inline
  | .token token => .token token
  | .leaf leaf stop => .element (.leaf leaf) stop
  | .block tag children stop =>
    let inner := containers ++ [Container.ofTag tag]
    .element (.node tag (elementsOfText { definitions, containers := inner, stop }
      (resolveAll definitions inner children))) stop
  | .item indent children stop =>
    let inner := containers ++ [.item indent]
    .element (.node .item (elementsOfText { definitions, containers := inner, stop }
      (resolveAll definitions inner children))) stop

def resolveAll (definitions : Definitions) (containers : List Container) :
    List Piece → List Inline
  | [] => []
  | piece :: rest =>
    piece.resolve definitions containers :: resolveAll definitions containers rest

end

/-- The elements of a document. -/
def elementsOf (text : Text) : List Element :=
  let outline := Outline.ofText text
  elementsOfText
    { definitions := outline.definitions, containers := [], stop := text.length }
    (resolveAll outline.definitions [] outline.pieces.reverse)

end MarkdownDialect.CommonMark
