import Schemata.Proofs.Token.Replacement

/-!
# The stretches that tokens cover

The tokens of an input stand one behind the other and leave out only blanks, and each one is what
its stretch of the input is cut into by itself.  An input that is refused has a quote at which a
token begins, and behind which the string is not closed.
-/

namespace Schemata

def Span.width (span : Span) : Nat :=
  span.stop - span.start

def Span.slice (span : Span) (input : String) : String :=
  String.ofList ((input.toList.drop span.start).take span.width)

namespace Token

open Text

variable {offset width index : Nat} {char quote : Char} {text rest : List Char} {token : Token}
  {lexeme : Lexeme} {lexemes : List Lexeme}

/-- Tokens cover the text behind an offset up to blanks. -/
inductive Tiles : (offset : Nat) → List Char → List Lexeme → Prop where
  | nil (offset : Nat) : Tiles offset [] []
  | blank {offset : Nat} {char : Char} {rest : List Char} {lexemes : List Lexeme}
      (blank : Character.isBlank char = true) (later : Tiles (offset + 1) rest lexemes) :
      Tiles offset (char :: rest) lexemes
  | token {offset width : Nat} {char : Char} {rest : List Char} {token : Token}
      {lexemes : List Lexeme} (visible : Character.isBlank char = false)
      (first : first? (char :: rest) = some (token, width)) (some_chars : 0 < width)
      (later : Tiles (offset + width) ((char :: rest).drop width) lexemes) :
      Tiles offset (char :: rest) (⟨token, ⟨offset, offset + width⟩⟩ :: lexemes)

/-- The lexer covers a text with tokens and puts the end behind it. -/
theorem tiles_of_scan {steps : Nat} (scanned : scan steps offset text = .ok lexemes)
    (enough : text.length ≤ steps) :
    ∃ inner, lexemes = inner ++ [⟨.endOfInput, ⟨offset + text.length, offset + text.length⟩⟩] ∧
      Tiles offset text inner := by
  induction steps generalizing offset text lexemes with
  | zero =>
      obtain rfl := List.eq_nil_of_length_eq_zero (Nat.le_zero.mp enough)
      cases scanned
      exact ⟨[], rfl, .nil offset⟩
  | succ steps ih =>
      cases text with
      | nil =>
          cases scanned
          exact ⟨[], rfl, .nil offset⟩
      | cons char rest =>
          obtain ⟨blank, run⟩ | ⟨token, width, others, visible, first, some_chars, run, rfl⟩ :=
            scan_cons_eq_ok scanned
          · obtain ⟨inner, rfl, tiles⟩ := ih run (Nat.le_of_succ_le_succ enough)
            refine ⟨inner, ?_, .blank blank tiles⟩
            rw [List.length_cons, Nat.add_right_comm, Nat.add_assoc]
          · have inside := le_length_of_first? first
            have behind : ((char :: rest).drop width).length = (char :: rest).length - width :=
              List.length_drop
            obtain ⟨inner, rfl, tiles⟩ := ih run (by rw [List.length_cons] at *; omega)
            refine ⟨⟨token, ⟨offset, offset + width⟩⟩ :: inner, ?_,
              .token visible first some_chars tiles⟩
            rw [behind, Nat.add_assoc, Nat.add_sub_cancel' inside, List.cons_append]

namespace Tiles

/-- Each token lies in the text, covers a character and is not the end. -/
theorem proper (tiles : Tiles offset text lexemes) :
    ∀ lexeme ∈ lexemes, offset ≤ lexeme.span.start ∧ lexeme.span.start < lexeme.span.stop ∧
      lexeme.span.stop ≤ offset + text.length ∧ lexeme.token ≠ .endOfInput := by
  induction tiles with
  | nil => exact fun _ among => nomatch among
  | blank _ _ ih =>
      intro lexeme among
      obtain ⟨after, some_chars, before, not_end⟩ := ih lexeme among
      rw [List.length_cons]
      exact ⟨by omega, some_chars, by omega, not_end⟩
  | token visible first some_chars _ ih =>
      have inside := le_length_of_first? first
      refine List.forall_mem_cons.mpr ⟨?_, fun lexeme among => ?_⟩
      · exact ⟨Nat.le_refl _, Nat.lt_add_of_pos_right some_chars, Nat.add_le_add_left inside _,
          (pos_of_first? visible first).2⟩
      · obtain ⟨after, covers, before, not_end⟩ := ih lexeme among
        rw [List.length_drop] at before
        exact ⟨by omega, covers, by omega, not_end⟩

/-- Each token ends before the later ones begin. -/
theorem apart (tiles : Tiles offset text lexemes) :
    lexemes.Pairwise fun lexeme later => lexeme.span.stop ≤ later.span.start := by
  induction tiles with
  | nil => exact .nil
  | blank _ _ ih => exact ih
  | token _ _ _ later ih => exact ih.cons fun lexeme among => (later.proper lexeme among).1

/-- What no token covers is a blank. -/
theorem isBlank (tiles : Tiles offset text lexemes) (found : text[index]? = some char)
    (outside : ∀ lexeme ∈ lexemes, offset + index < lexeme.span.start ∨
      lexeme.span.stop ≤ offset + index) : Character.isBlank char = true := by
  induction tiles generalizing index with
  | nil => cases found
  | blank blank _ ih =>
      cases index with
      | zero =>
          cases found
          exact blank
      | succ index =>
          rw [Nat.add_comm index, ← Nat.add_assoc] at outside
          exact ih found outside
  | @token offset width _ _ _ _ _ _ _ _ ih =>
      obtain ⟨here, others⟩ := List.forall_mem_cons.mp outside
      have behind : width ≤ index := by
        dsimp only at here
        omega
      obtain ⟨index, rfl⟩ := Nat.exists_eq_add_of_le behind
      rw [← List.getElem?_drop] at found
      rw [← Nat.add_assoc] at others
      exact ih found others

/-- Each token has a word of the text to itself. -/
theorem exists_word (tiles : Tiles offset text lexemes) :
    ∀ lexeme ∈ lexemes, ∃ before char rest behind, text = before ++ (char :: rest ++ behind) ∧
      lexeme.span = ⟨offset + before.length, offset + before.length + (char :: rest).length⟩ ∧
      Character.isBlank char = false ∧
      first? (char :: rest) = some (lexeme.token, (char :: rest).length) := by
  induction tiles with
  | nil => exact fun _ among => nomatch among
  | @blank offset blank _ _ _ _ ih =>
      intro lexeme among
      obtain ⟨before, char, rest, behind, rfl, covers, visible, first⟩ := ih lexeme among
      refine ⟨blank :: before, char, rest, behind, rfl, ?_, visible, first⟩
      have moved : offset + 1 + before.length = offset + (blank :: before).length := by
        rw [List.length_cons]
        omega
      rw [covers, moved]
  | @token offset width char rest token lexemes visible first some_chars _ ih =>
      have inside := le_length_of_first? first
      refine List.forall_mem_cons.mpr ⟨?_, fun lexeme among => ?_⟩
      · obtain ⟨fewer, rfl⟩ := Nat.exists_eq_succ_of_ne_zero (Nat.ne_of_gt some_chars)
        have covers : (char :: rest.take fewer).length = fewer + 1 :=
          List.length_take_of_le inside
        refine ⟨[], char, rest.take fewer, rest.drop fewer, ?_, ?_, visible, ?_⟩
        · rw [List.nil_append, List.cons_append, List.take_append_drop]
        · rw [covers, List.length_nil, Nat.add_zero]
        · rw [← List.take_append_drop fewer rest] at first
          rw [covers]
          exact first?_of_append first (Nat.le_of_eq covers.symm)
      · obtain ⟨before, char', rest', behind, same, covers, visible', first'⟩ := ih lexeme among
        refine ⟨(char :: rest).take width ++ before, char', rest', behind, ?_, ?_, visible', first'⟩
        · rw [List.append_assoc, ← same, List.take_append_drop]
        · rw [covers, List.length_append, List.length_take, Nat.min_eq_left inside, Nat.add_assoc]

end Tiles

/-- A token that takes all of a text is its only one. -/
theorem tokenize_eq_of_first? (visible : Character.isBlank char = false)
    (first : first? (char :: rest) = some (token, (char :: rest).length)) :
    tokenize (String.ofList (char :: rest)) =
      .ok [⟨token, ⟨0, (char :: rest).length⟩⟩,
        ⟨.endOfInput, ⟨(char :: rest).length, (char :: rest).length⟩⟩] := by
  have ends : scan rest.length (char :: rest).length [] =
      .ok [⟨.endOfInput, ⟨(char :: rest).length, (char :: rest).length⟩⟩] := by
    cases rest <;> rfl
  rw [tokenize, String.toList_ofList, List.length_cons, scan, if_neg (by rw [visible]; decide),
    first]
  dsimp only
  rw [List.drop_length, Nat.zero_add, ends]
  rfl

/-! ## Open quotes -/

/-- A text in which nothing closes a string that a quote has opened before it: a backslash takes a
quote or another backslash along, and no other character is the quote. -/
inductive Unclosed (quote : Char) : List Char → Prop where
  | nil : Unclosed quote []
  | escape {char : Char} {rest : List Char} (special : char = quote ∨ char = '\\')
      (later : Unclosed quote rest) : Unclosed quote ('\\' :: char :: rest)
  | plain {char : Char} {rest : List Char} (other : char ≠ quote)
      (no_escape : char = '\\' → ∀ next ∈ rest.head?, next ≠ quote ∧ next ≠ '\\')
      (later : Unclosed quote rest) : Unclosed quote (char :: rest)

theorem unclosed_of_stringContent? (open_quote : stringContent? quote text = none) :
    Unclosed quote text := by
  fun_induction stringContent? quote text with
  | case1 => exact .nil
  | case2 => cases open_quote
  | case3 char other => exact .plain other (fun _ next among => by cases among) .nil
  | case4 => cases open_quote
  | case5 char next rest other escape ih =>
      rw [escape.1]
      exact .escape escape.2 (ih (Option.map_eq_none_iff.mp open_quote))
  | case6 char next rest other plain ih =>
      refine .plain other (fun is_escape found among => ?_)
        (ih (Option.map_eq_none_iff.mp open_quote))
      obtain rfl : next = found := by simpa using among
      exact not_or.mp fun special => plain ⟨is_escape, special⟩

theorem Unclosed.stringContent?_eq_none (unclosed : Unclosed quote text)
    (no_escape : quote ≠ '\\') : stringContent? quote text = none := by
  induction unclosed with
  | nil => rfl
  | escape special _ ih =>
      rw [stringContent?, if_neg no_escape.symm, if_pos ⟨rfl, special⟩, ih]
      rfl
  | @plain char rest other apart _ ih =>
      cases rest with
      | nil => rw [stringContent?, if_neg other]
      | cons next rest =>
          have no_special : ¬(char = '\\' ∧ (next = quote ∨ next = '\\')) := fun escape =>
            not_or.mpr (apart escape.1 next rfl) escape.2
          rw [stringContent?, if_neg other, if_neg no_special, ih]
          rfl

theorem divides_of_isQuote (is_quote : isQuote quote = true) :
    Divides quote ∧ Character.isBlank quote = false ∧ quote ≠ '\\' := by
  simp only [isQuote, Bool.or_eq_true, beq_iff_eq] at is_quote
  rcases is_quote with rfl | rfl
  · exact ⟨⟨by decide, by decide, by decide⟩, by decide, by decide⟩
  · exact ⟨⟨by decide, by decide, by decide⟩, by decide, by decide⟩

/-- No token begins at a quote alone. -/
theorem first?_eq_none_iff : first? (char :: rest) = none ↔
    isQuote char = true ∧ stringContent? char rest = none := by
  unfold first?
  dsimp only
  split
  next quote => simp [quote]
  next no_quote =>
    split <;> simp [no_quote]

/-- A run of the lexer that fails comes to a quote behind which the string is not closed. -/
theorem exists_quote_of_scan {steps : Nat} {unclosed : OpenQuote}
    (failed : scan steps offset text = .error unclosed) :
    ∃ before quote rest tokens, text = before ++ quote :: rest ∧ Spells before tokens ∧
      isQuote quote = true ∧ stringContent? quote rest = none := by
  induction steps generalizing offset text unclosed with
  | zero => cases failed
  | succ steps ih =>
      cases text with
      | nil => cases failed
      | cons char rest =>
          rw [scan] at failed
          split at failed
          next blank =>
            obtain ⟨before, quote, behind, tokens, rfl, spells, never⟩ := ih failed
            exact ⟨char :: before, quote, behind, tokens, rfl, .blank blank spells, never⟩
          next visible =>
            rw [Bool.not_eq_true] at visible
            split at failed
            next never => exact ⟨[], char, rest, [], rfl, .nil, first?_eq_none_iff.mp never⟩
            next token width first =>
              obtain ⟨fewer, rfl⟩ : ∃ fewer, width = fewer + 1 :=
                Nat.exists_eq_succ_of_ne_zero (Nat.ne_of_gt (pos_of_first? visible first).1)
              have inside := le_length_of_first? first
              rw [List.drop_succ_cons] at failed
              cases run : scan steps (offset + (fewer + 1)) (rest.drop fewer) with
              | ok others =>
                  rw [run] at failed
                  cases failed
              | error cause =>
                  obtain ⟨before, quote, behind, tokens, same, spells, never⟩ := ih run
                  have covers : (char :: rest.take fewer).length = fewer + 1 :=
                    List.length_take_of_le inside
                  rw [← List.take_append_drop fewer rest, same] at first ⊢
                  rw [← List.append_assoc] at first ⊢
                  refine ⟨char :: (rest.take fewer ++ before), quote, behind, token :: tokens, rfl,
                    .token visible (first?_of_append first ?_) (Nat.succ_pos fewer) ?_, never⟩
                  · rw [← List.cons_append, List.length_append, covers]
                    exact Nat.le_add_right _ _
                  · rwa [← List.cons_append, ← covers, List.drop_left]

/-- The lexer fails at a quote behind some tokens when the string is not closed. -/
theorem scan_eq_error {before : List Char} {tokens : List Token} {steps : Nat}
    (spells : Spells before tokens) (is_quote : isQuote quote = true)
    (never : stringContent? quote rest = none)
    (enough : (before ++ quote :: rest).length ≤ steps) (offset : Nat) :
    scan steps offset (before ++ quote :: rest) = .error ⟨offset + before.length, quote⟩ := by
  obtain ⟨divides, visible, -⟩ := divides_of_isQuote is_quote
  induction spells generalizing steps offset with
  | nil =>
      cases steps with
      | zero => exact absurd enough (by simp)
      | succ steps =>
          rw [List.nil_append, scan, if_neg (by rw [visible]; decide),
            first?_eq_none_iff.mpr ⟨is_quote, never⟩]
          rfl
  | @blank char before _ blank _ ih =>
      cases steps with
      | zero => exact absurd enough (by simp)
      | succ steps =>
          rw [List.cons_append, scan, if_pos blank, ih (Nat.le_of_succ_le_succ enough),
            List.length_cons, Nat.add_right_comm, Nat.add_assoc]
  | @token char before _ width _ visible' first some_chars _ ih =>
      cases steps with
      | zero => exact absurd enough (by simp)
      | succ steps =>
          have inside := le_length_of_first? first
          have behind : (char :: (before ++ quote :: rest)).drop width =
              (char :: before).drop width ++ quote :: rest := by
            rw [← List.cons_append, List.drop_append_of_le_length inside]
          have shorter : ((char :: before).drop width ++ quote :: rest).length ≤ steps := by
            rw [List.length_append, List.length_drop]
            rw [List.length_append] at enough
            omega
          rw [List.cons_append, scan, if_neg (by rw [visible']; decide),
            first?_append_divider divides first]
          dsimp only
          rw [behind, ih shorter, List.length_drop, Nat.add_assoc, Nat.add_sub_cancel' inside]
          rfl

/-! ## Inputs -/

/-- What a list of tokens has to say about an input that it was cut into, the end aside. -/
structure Tiling (input : String) (lexemes : List Lexeme) : Prop where
  /-- A token covers at least one character of the input, and is not the end. -/
  proper : ∀ lexeme ∈ lexemes, lexeme.span.start < lexeme.span.stop ∧
    lexeme.span.stop ≤ input.length ∧ lexeme.token ≠ .endOfInput
  /-- A token ends before all later ones begin. -/
  apart : lexemes.Pairwise fun lexeme later => lexeme.span.stop ≤ later.span.start
  /-- What no token covers is blank. -/
  blank : ∀ index char, input.toList[index]? = some char →
    (∀ lexeme ∈ lexemes, index < lexeme.span.start ∨ lexeme.span.stop ≤ index) →
      Character.isBlank char = true
  /-- What a token covers is cut into this token and the end. -/
  alone : ∀ lexeme ∈ lexemes, tokenize (lexeme.span.slice input) =
    .ok [⟨lexeme.token, ⟨0, lexeme.span.width⟩⟩,
      ⟨.endOfInput, ⟨lexeme.span.width, lexeme.span.width⟩⟩]

theorem Tiles.tiling {input : String} (tiles : Tiles 0 input.toList lexemes) :
    Tiling input lexemes where
  proper lexeme among := by
    obtain ⟨-, some_chars, inside, not_end⟩ := tiles.proper lexeme among
    rw [String.length_toList, Nat.zero_add] at inside
    exact ⟨some_chars, inside, not_end⟩
  apart := tiles.apart
  blank index char found outside := by
    refine tiles.isBlank found fun lexeme among => ?_
    rw [Nat.zero_add]
    exact outside lexeme among
  alone lexeme among := by
    obtain ⟨before, char, rest, behind, same, covers, visible, first⟩ :=
      tiles.exists_word lexeme among
    have width : lexeme.span.width = (char :: rest).length := by
      rw [Span.width, covers, Nat.add_sub_cancel_left]
    have word : lexeme.span.slice input = String.ofList (char :: rest) := by
      rw [Span.slice, width, covers, same, Nat.zero_add, List.drop_left, List.take_left]
    rw [word, width]
    exact tokenize_eq_of_first? visible first

/-- The tokens of an input are a tiling, and the end behind the last character. -/
theorem tiling_of_tokenize {input : String} (lexed : tokenize input = .ok lexemes) :
    ∃ inner, lexemes = inner ++ [⟨.endOfInput, ⟨input.length, input.length⟩⟩] ∧
      Tiling input inner := by
  obtain ⟨inner, same, tiles⟩ := tiles_of_scan (scan_of_tokenize lexed) (Nat.le_refl _)
  rw [String.length_toList, Nat.zero_add] at same
  exact ⟨inner, same, tiles.tiling⟩

/-- A quote at an offset opens a string that is never closed: tokens stand before it, and nothing
behind it closes the string. -/
def LeftOpen (input : String) (offset : Nat) (quote : Char) : Prop :=
  ∃ before rest, input = before ++ String.ofList (quote :: rest) ∧ before.length = offset ∧
    isQuote quote = true ∧ (∃ lexemes, tokenize before = .ok lexemes) ∧ Unclosed quote rest

/-- An input without tokens is one in which the lexer fails at a quote. -/
theorem tokenize_eq_error_iff_scan {input : String} {error : SyntaxError} :
    tokenize input = .error error ↔
      ∃ unclosed, scan input.toList.length 0 input.toList = .error unclosed ∧
        error = { cause := .unterminatedString, offset := unclosed.offset,
                  token := unclosed.quote.toString, input } := by
  unfold tokenize
  dsimp only
  cases scan input.toList.length 0 input.toList with
  | error unclosed => simp [Except.mapError, eq_comm]
  | ok lexemes => simp [Except.mapError]

/-- An input without tokens is one in which a string is never closed. -/
theorem tokenize_eq_error_iff {input : String} {error : SyntaxError} :
    tokenize input = .error error ↔ ∃ offset quote, LeftOpen input offset quote ∧
      error = { cause := .unterminatedString, offset, token := quote.toString, input } := by
  rw [tokenize_eq_error_iff_scan]
  constructor
  · rintro ⟨unclosed, failed, rfl⟩
    obtain ⟨before, quote, rest, tokens, same, spells, is_quote, never⟩ :=
      exists_quote_of_scan failed
    have there := scan_eq_error spells is_quote never (Nat.le_refl _) 0
    rw [← same, failed, Nat.zero_add] at there
    cases there
    rw [← String.toList_ofList (l := before)] at spells
    obtain ⟨lexemes, lexed, -⟩ := tokenize_of_spells spells
    refine ⟨_, quote, ⟨String.ofList before, rest, ?_, String.length_ofList, is_quote,
      ⟨lexemes, lexed⟩, unclosed_of_stringContent? never⟩, rfl⟩
    rw [← String.ofList_append, ← same, String.ofList_toList]
  · rintro ⟨_, quote, ⟨before, rest, rfl, rfl, is_quote, ⟨lexemes, lexed⟩, unclosed⟩, rfl⟩
    obtain ⟨tokens, -, spells⟩ := spells_of_tokenize lexed
    have never := unclosed.stringContent?_eq_none (divides_of_isQuote is_quote).2.2
    rw [String.toList_append, String.toList_ofList]
    refine ⟨_, scan_eq_error spells is_quote never (Nat.le_refl _) 0, ?_⟩
    rw [String.length_toList, Nat.zero_add]

/-- The tokens of an input cover it up to blanks, each one by itself, and the end stands behind the
last character.  An input is refused only for a string that is never closed, at its quote. -/
theorem tokenize_tiles (input : String) :
    (∀ lexemes, tokenize input = .ok lexemes →
      ∃ inner, lexemes = inner ++ [⟨.endOfInput, ⟨input.length, input.length⟩⟩] ∧
        Tiling input inner) ∧
    ∀ error, tokenize input = .error error ↔ ∃ offset quote, LeftOpen input offset quote ∧
      error = { cause := .unterminatedString, offset, token := quote.toString, input } :=
  ⟨fun _ => tiling_of_tokenize, fun _ => tokenize_eq_error_iff⟩

end Token

end Schemata
