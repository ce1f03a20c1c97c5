import Schemata.Proofs.Parser.Recursion
import Schemata.Proofs.Token.Tiling

/-!
# Where syntax errors point

What is wrong with a type is wrong at a token of the text itself or of one that is read on its
behalf, or at the quote that is not closed in such a text.
-/

namespace Schemata

open Relation (ReflTransGen)

/-- The error is at a token of the text, or at the quote for which the text has no tokens. -/
def SyntaxError.PointsInto (text : String) (error : SyntaxError) : Prop :=
  error.input = text ∧
    match Token.tokenize text with
    | .ok lexemes => ∃ lexeme ∈ lexemes,
        error.offset = lexeme.span.start ∧ error.token = lexeme.token.text
    | .error _ => ∃ quote, Token.LeftOpen text error.offset quote ∧ error.token = quote.toString

/-- No token begins behind the end of its text. -/
theorem Token.start_le_length {text : String} {lexemes : List Lexeme} {lexeme : Lexeme}
    (lexed : tokenize text = .ok lexemes) (among : lexeme ∈ lexemes) :
    lexeme.span.start ≤ text.length := by
  obtain ⟨inner, rfl, tiling⟩ := tiling_of_tokenize lexed
  rcases List.mem_append.mp among with inside | last
  · obtain ⟨some_chars, within, -⟩ := tiling.proper lexeme inside
    exact Nat.le_trans (Nat.le_of_lt some_chars) within
  · obtain rfl := List.mem_singleton.mp last
    exact Nat.le_refl _

/-- An error does not point behind the end of its input. -/
theorem SyntaxError.PointsInto.offset_le {text : String} {error : SyntaxError}
    (points : error.PointsInto text) : error.offset ≤ error.input.length := by
  obtain ⟨rfl, place⟩ := points
  split at place
  next lexemes lexed =>
    obtain ⟨lexeme, among, same, -⟩ := place
    rw [same]
    exact Token.start_le_length lexed among
  next =>
    obtain ⟨quote, ⟨before, rest, same, length, -⟩, -⟩ := place
    rw [same, ← length, String.length_append]
    exact Nat.le_add_right _ _

namespace FailedText

variable {registry : TypeRegistry} {maxDepth : Nat} {failure : FailedText}

/-- The end of a text is one of its tokens, and what is wrong with one that has none is a quote. -/
theorem IsOwn.pointsInto (own : failure.IsOwn) : failure.error.PointsInto failure.text := by
  unfold IsOwn at own
  unfold SyntaxError.PointsInto
  cases lexed : Token.tokenize failure.text with
  | ok lexemes =>
      rw [lexed] at own
      obtain ⟨same, lexeme, stands, place⟩ := own
      obtain ⟨inner, parts, -⟩ := Token.tiling_of_tokenize lexed
      refine ⟨same, lexeme, ?_, place⟩
      rcases stands with among | rfl
      · exact among
      · rw [parts]
        exact List.mem_append_right _ List.mem_cons_self
  | error unclosed =>
      rw [lexed] at own
      dsimp only at own
      obtain ⟨offset, quote, opens, same⟩ := Token.tokenize_eq_error_iff.mp lexed
      rw [own, same]
      exact ⟨rfl, quote, opens, rfl⟩

/-- The error of an outer text is at the place of that of the inner one. -/
theorem Enters.pointsInto {outer inner : FailedText} (enters : outer.Enters registry inner)
    {text : String} (points : inner.error.PointsInto text) : outer.error.PointsInto text := by
  cases enters with
  | throughAlias _ _ _ _ _ _ _ error => exact error ▸ points
  | throughField _ _ _ _ _ _ error => exact error ▸ points

/-- An error is passed on from a text that it points into. -/
theorem exists_pointsInto (occurs : failure.Occurs { registry, maxDepth }) :
    ∃ innermost, ReflTransGen (Contains { registry, maxDepth }) failure innermost ∧
      failure.error.PointsInto innermost.text := by
  induction levels : failure.levels using Nat.strongRecOn generalizing failure with
  | ind levels ih =>
      subst levels
      rcases hasOrigin occurs with ⟨own, -⟩ | ⟨inner, contains⟩
      · exact ⟨failure, .refl, own.pointsInto⟩
      · obtain ⟨innermost, path, points⟩ := ih inner.levels contains.fewer contains.occurs rfl
        exact ⟨innermost, .head contains path, contains.enters.pointsInto points⟩

end FailedText

namespace Parser

variable {registry : TypeRegistry} {maxDepth : Nat} {context : ParsingContext} {text : String}
  {error : SyntaxError}

/-- The error for which a type is refused points at a token, the end of the input included, of the
text itself or of a text that is read on its behalf, or at the quote that is not closed in such a
text.  It never points behind the end of its input. -/
theorem pointsInto_of_parseIn
    (failed : Parser.parseIn { registry, maxDepth } context text = .error error) :
    (∃ failure, ReflTransGen (FailedText.Contains { registry, maxDepth })
        (.ofText maxDepth context text error) failure ∧ error.PointsInto failure.text) ∧
      error.offset ≤ error.input.length := by
  have occurs : (FailedText.ofText maxDepth context text error).Occurs { registry, maxDepth } :=
    failed
  obtain ⟨failure, path, points⟩ := FailedText.exists_pointsInto occurs
  exact ⟨⟨failure, path, points⟩, points.offset_le⟩

/-- A context with an alias in whose text a type is missing. -/
def incomplete : ParsingContext where
  localAliases := [("A", "(|")]

/-- The error is at the second token of the text of the alias. -/
theorem pointsInto_of_incomplete :
    ∃ error, Parser.parseIn { registry := {} } incomplete "A" = .error error ∧
      error.input = "(|" ∧ error.offset = 1 ∧
        (∃ failure, ReflTransGen (FailedText.Contains { registry := {} })
          (.ofText 64 incomplete "A" error) failure ∧ error.PointsInto failure.text) ∧
        error.offset ≤ error.input.length := by
  have failed : Parser.parseIn { registry := {} } incomplete "A" = .error
      { cause := .within (.notAType "|") .alias "A"
        offset := 1
        token := "|"
        input := "(|" } := by
    rfl
  exact ⟨_, failed, rfl, rfl, pointsInto_of_parseIn failed⟩

end Parser

end Schemata
