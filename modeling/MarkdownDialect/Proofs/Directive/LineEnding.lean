import MarkdownDialect.Proofs.Directive.ColoredText
import MarkdownDialect.Proofs.Directive.Highlight
import MarkdownDialect.Proofs.Directive.LineBreak
import MarkdownDialect.Proofs.Directive.Underline
import MarkdownDialect.Proofs.Directive.WholeLine
import MarkdownDialect.Proofs.Text.LineEnding

/-!
# Directives before a carriage return

Every directive within a line stops before the carriage return that ends the line.
-/

namespace MarkdownDialect

open Text

/-! ## Directives that take a whole line -/

@[simp]
theorem Spoiler.append_return (line : Text) :
    expandLine (line ++ ['\r']) = expandLine line ++ ['\r'] := by
  unfold expandLine
  rw [isPrefixOf?_append_return (by decide)]
  cases "!>".toList.isPrefixOf? line with
  | none => rfl
  | some rest =>
      dsimp only [Option.map_some]
      rw [takeWhile_append_return (by decide), dropWhile_append_return (by decide)]
      split
      · rfl
      · rw [List.append_assoc]

theorem Spoiler.keepsEndings_expandLine : KeepsEndings expandLine where
  staysInLine := staysInLine_expandLine
  keepsOutReturn := keepsOut_expandLine (by decide)
  append_return line _ := append_return line

theorem stripReturn_of_return_not_mem {line : Text} (noReturn : '\r' ∉ line) :
    stripReturn line = (line, false) :=
  stripReturn_of_not_return fun body ends => noReturn (by simp [ends])

theorem Alignment.append_return (alignment : Alignment) {line : Text} (noReturn : '\r' ∉ line) :
    alignment.expandLine (line ++ ['\r']) = alignment.expandLine line ++ ['\r'] := by
  simp only [expandLine, stripReturn_append_return, stripReturn_of_return_not_mem noReturn]
  cases alignment.read? line with
  | none => rfl
  | some content => simp [returnIf]

theorem Alignment.keepsEndings_expandLine (alignment : Alignment) :
    KeepsEndings alignment.expandLine where
  staysInLine := alignment.staysInLine_expandLine
  keepsOutReturn := keepsOut_expandLine (by decide) alignment
  append_return _ := alignment.append_return

theorem TocMarker.append_return {line : Text} (noReturn : '\r' ∉ line) :
    expandLine (line ++ ['\r']) = expandLine line ++ ['\r'] := by
  simp only [expandLine, stripReturn_append_return, stripReturn_of_return_not_mem noReturn]
  cases read? line with
  | none => rfl
  | some level => simp [returnIf]

theorem TocMarker.keepsEndings_expandLine : KeepsEndings expandLine where
  staysInLine := staysInLine_expandLine
  keepsOutReturn := keepsOut_expandLine (by decide)
  append_return _ := append_return

/-! ## Directives with delimiters -/

theorem Highlight.stopsAtReturn_readRest? : StopsAtReturn readRest? := by
  intro text
  unfold readRest?
  rw [breakOn_append_return (by decide) (by decide)]
  cases breakOn delimiter text with
  | none => rfl
  | some found =>
      dsimp only [Option.map_some, Option.bind_eq_bind, Option.bind_some, beforeReturn]
      split
      · rfl
      · rfl

theorem Highlight.stopsAtReturn_find? : StopsAtReturn find? := by
  intro text
  unfold find?
  rw [isPrefixOf?_append_return (by decide)]
  cases delimiter.isPrefixOf? text with
  | none => rfl
  | some rest =>
      cases rest with
      | nil => rfl
      | cons first others =>
          dsimp only [Option.map_some, Option.bind_eq_bind, Option.bind_some, List.cons_append]
          rw [stopsAtReturn_readRest?]
          split
          · rfl
          · cases readRest? others with
            | none => rfl
            | some found => rfl

theorem Highlight.keepsEndings_expandLine : KeepsEndings expandLine where
  staysInLine := staysInLine_expandLine
  keepsOutReturn := keepsOut_expandLine (by decide)
  append_return line _ := replaceMatches_append_return advances stopsAtReturn_find? line

theorem Underline.stopsAtReturn_readBody? : StopsAtReturn readBody? := by
  intro text
  unfold readBody?
  rw [isPrefixOf?_append_return (by decide)]
  cases "!~".toList.isPrefixOf? text with
  | none => rfl
  | some rest =>
      dsimp only [Option.map_some, Option.bind_eq_bind, Option.bind_some]
      rw [takeWhile_append_return (by decide), dropWhile_append_return (by decide),
        isPrefixOf?_append_return (by decide)]
      cases "~!".toList.isPrefixOf? (rest.dropWhile isBodyChar) with
      | none => rfl
      | some after =>
          dsimp only [Option.map_some, Option.bind_some]
          split
          · rfl
          · rfl

theorem Underline.stopsAtReturn_find? (palette : Palette) : StopsAtReturn (find? palette) := by
  intro text
  rw [find?, find?, stopsAtReturn_readBody?, Option.map_map,
    Option.map_map]
  rfl

theorem Underline.keepsEndings_expandLine {palette : Palette} (singleLine : palette.IsSingleLine)
    (noReturns : palette.HasNoReturns) : KeepsEndings (expandLine palette) where
  staysInLine := staysInLine_expandLine singleLine
  keepsOutReturn := keepsOut_expandLine (by decide) noReturns
  append_return line _ :=
    replaceMatches_append_return (advances palette) (stopsAtReturn_find? palette) line

namespace ColoredText

theorem stopsAtReturn_readSlot? : StopsAtReturn readSlot? := by
  apply stopsAtReturn_of_pieces
    fun slot piece => IsSlot slot ∧ piece = '%' :: (slot ++ ['%'])
  · intro text slot after
    rw [readSlot?_eq_some_iff]
    constructor
    · intro ⟨split, isSlot⟩
      exact ⟨_, ⟨isSlot, rfl⟩, by simpa using split⟩
    · intro ⟨piece, ⟨isSlot, isPiece⟩, split⟩
      exact ⟨by simpa [isPiece] using split, isSlot⟩
  · intro slot piece ⟨isSlot, isPiece⟩
    have noReturn : '\r' ∉ slot := isSlot.not_mem (by decide) (by decide) (by decide)
    simp [isPiece, noReturn]

theorem readClosing?_append_return (text : Text) :
    readClosing? (text ++ ['\r']) = (readClosing? text).map fun after => after ++ ['\r'] := by
  unfold readClosing?
  rw [dropWhile_append_return (by decide), isPrefixOf?_append_return (by decide)]

theorem stopsAtReturn_readBody? : StopsAtReturn readBody? := by
  intro text
  induction text with
  | nil => rfl
  | cons c rest inductionHypothesis =>
      rw [List.cons_append, readBody?_cons, readBody?_cons, readClosing?_append_return,
        inductionHypothesis]
      split
      · rfl
      · cases readClosing? rest with
        | some after => rfl
        | none =>
            cases readBody? rest with
            | none => rfl
            | some found => rfl

theorem stopsAtReturn_readText? : StopsAtReturn readText? := by
  intro text
  rw [readText?_eq, readText?_eq, takeWhile_append_return (by decide),
    dropWhile_append_return (by decide)]
  rw [stopsAtReturn_readBody?, readClosing?_append_return]
  cases readBody? (text.dropWhile isBlank) with
  | some found => rfl
  | none =>
      cases (text.takeWhile isBlank).getLast? with
      | none => rfl
      | some blank =>
          cases readClosing? (text.dropWhile isBlank) with
          | none => rfl
          | some after => rfl

theorem stopsAtReturn_find? (palette : Palette) : StopsAtReturn (find? palette) := by
  intro text
  unfold find?
  rw [stopsAtReturn_readSlot?]
  cases readSlot? text with
  | none => rfl
  | some found =>
      obtain ⟨slot, afterSlot⟩ := found
      dsimp only [Option.map_some, Option.bind_eq_bind, Option.bind_some, beforeReturn]
      rw [stopsAtReturn_readText?]
      cases readText? afterSlot with
      | none => rfl
      | some found => rfl

theorem keepsEndings_expandLine {palette : Palette} (singleLine : palette.IsSingleLine)
    (noReturns : palette.HasNoReturns) : KeepsEndings (expandLine palette) where
  staysInLine := staysInLine_expandLine singleLine
  keepsOutReturn := keepsOut_expandLine (by decide) noReturns
  append_return line _ :=
    replaceMatches_append_return (advances palette) (stopsAtReturn_find? palette) line

end ColoredText

@[simp]
theorem LineBreak.append_return (line : Text) :
    expandLine (line ++ ['\r']) = expandLine line ++ ['\r'] :=
  replaceAll_append_cons Stage.lineBreakHtml (by simp) (by decide) line []

theorem LineBreak.keepsEndings_expandLine : KeepsEndings expandLine where
  staysInLine := staysInLine_expandLine
  keepsOutReturn := keepsOut_expandLine (by decide)
  append_return line _ := append_return line

end MarkdownDialect
