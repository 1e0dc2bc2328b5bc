import MarkdownDialect.Text.Basic

/-!
Escaping for HTML content and attribute values, and the way back.
-/

namespace MarkdownDialect.Text

/-- The characters that are escaped, each with its entity, in the order in which they are
replaced. The ampersand comes first, so that no entity is escaped again. -/
def entities : List (Char × Text) :=
  [('&', "&amp;".toList), ('<', "&lt;".toList), ('>', "&gt;".toList), ('\x22', "&quot;".toList),
    ('\x27', "&#39;".toList)]

/-- Replaces the five special characters one after the other. -/
def escape (text : Text) : Text :=
  entities.foldl (fun escaped (c, entity) => replaceAll [c] entity escaped) text

/-- The entities in the order in which they are decoded. The ampersand comes last, so that no
decoded text is decoded again. -/
def decodingOrder : List (Char × Text) :=
  [('<', "&lt;".toList), ('>', "&gt;".toList), ('\x22', "&quot;".toList), ('\x27', "&#39;".toList),
    ('&', "&amp;".toList)]

/-- Replaces the five entities one after the other. -/
def unescape (text : Text) : Text :=
  decodingOrder.foldl (fun decoded (c, entity) => replaceAll entity [c] decoded) text

end MarkdownDialect.Text
