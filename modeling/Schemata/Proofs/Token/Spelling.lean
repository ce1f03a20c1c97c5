import Schemata.Proofs.Token.Words
import Schemata.Text.Quoted

/-!
# Spellings of tokens

A text spells some tokens when the lexer cuts it into them, wherever in an input it stands.  Words
end at a boundary, and quoted text and marks end by themselves, so spellings are put together from
those of their parts.
-/

namespace Schemata.Token

open Text

/-- A text that is cut into tokens, the end of the input aside. -/
inductive Spells : List Char → List Token → Prop where
  | nil : Spells [] []
  | blank {char : Char} {rest : List Char} {tokens : List Token}
      (blank : Character.isBlank char = true) (later : Spells rest tokens) :
      Spells (char :: rest) tokens
  | token {char : Char} {rest : List Char} {token : Token} {width : Nat} {tokens : List Token}
      (visible : Character.isBlank char = false)
      (first : first? (char :: rest) = some (token, width)) (some_chars : 0 < width)
      (later : Spells ((char :: rest).drop width) tokens) : Spells (char :: rest) (token :: tokens)

/-- The lexer cuts a text into the tokens it spells. -/
theorem Spells.scan {text : List Char} {tokens : List Token} (spells : Spells text tokens)
    {steps : Nat} (enough : text.length ≤ steps) (offset : Nat) :
    ∃ lexemes, scan steps offset text = .ok lexemes ∧
      lexemes.map Lexeme.token = tokens ++ [Token.endOfInput] := by
  induction spells generalizing steps offset with
  | nil =>
      refine ⟨[⟨.endOfInput, ⟨offset, offset⟩⟩], ?_, rfl⟩
      cases steps <;> rfl
  | @blank char rest _ blank _ ih =>
      cases steps with
      | zero => exact absurd enough (by simp)
      | succ steps =>
          obtain ⟨lexemes, scanned, same⟩ := ih (Nat.le_of_succ_le_succ enough) (offset + 1)
          refine ⟨lexemes, ?_, same⟩
          rw [Token.scan, if_pos blank, scanned]
  | @token char rest token width _ visible first some_chars _ ih =>
      cases steps with
      | zero => exact absurd enough (by simp)
      | succ steps =>
          have shorter : ((char :: rest).drop width).length ≤ steps := by
            rw [List.length_drop]
            rw [List.length_cons] at enough ⊢
            omega
          obtain ⟨lexemes, scanned, same⟩ := ih shorter (offset + width)
          refine ⟨⟨token, ⟨offset, offset + width⟩⟩ :: lexemes, ?_, ?_⟩
          · rw [Token.scan, if_neg (by rw [visible]; decide), first]
            dsimp only
            rw [scanned]
            rfl
          · rw [List.map_cons, same, List.cons_append]

/-- A text at whose start a word ends. -/
def AtBoundary (text : List Char) : Prop :=
  ∀ char ∈ text.head?, isWordChar char = false

theorem atBoundary_nil : AtBoundary [] :=
  fun _ nothing => nomatch nothing

/-- A text that spells some tokens before every boundary. -/
def Covers (text : List Char) (tokens : List Token) : Prop :=
  ∀ ⦃rest later⦄, AtBoundary rest → Spells rest later → Spells (text ++ rest) (tokens ++ later)

/-- A text that begins with a boundary and spells some tokens before everything. -/
structure Delimits (text : List Char) (tokens : List Token) : Prop where
  some_chars : text ≠ []
  boundary : AtBoundary text
  spells : ∀ ⦃rest later⦄, Spells rest later → Spells (text ++ rest) (tokens ++ later)

theorem AtBoundary.append {text : List Char} (boundary : AtBoundary text) (some_chars : text ≠ [])
    (rest : List Char) : AtBoundary (text ++ rest) := by
  cases text with
  | nil => exact absurd rfl some_chars
  | cons first more => exact boundary

theorem Covers.append {text separator text' : List Char} {tokens marks tokens' : List Token}
    (left : Covers text tokens) (between : Delimits separator marks)
    (right : Covers text' tokens') :
    Covers (text ++ (separator ++ text')) (tokens ++ (marks ++ tokens')) := by
  intro rest later boundary spells
  simp only [List.append_assoc]
  refine left (between.boundary.append between.some_chars _) ?_
  exact between.spells (right boundary spells)

theorem Covers.close {text separator : List Char} {tokens marks : List Token}
    (left : Covers text tokens) (closing : Delimits separator marks) :
    Covers (text ++ separator) (tokens ++ marks) := by
  intro rest later _ spells
  simp only [List.append_assoc]
  exact left (closing.boundary.append closing.some_chars _) (closing.spells spells)

theorem Delimits.covers {text : List Char} {tokens : List Token} (delimits : Delimits text tokens) :
    Covers text tokens :=
  fun _ _ _ spells => delimits.spells spells

theorem Delimits.append {text text' : List Char} {tokens tokens' : List Token}
    (left : Delimits text tokens) (right : Delimits text' tokens') :
    Delimits (text ++ text') (tokens ++ tokens') where
  some_chars := by simp [left.some_chars]
  boundary := left.boundary.append left.some_chars _
  spells := by
    intro rest later spells
    simp only [List.append_assoc]
    exact left.spells (right.spells spells)

/-! ## Words -/

/-- What a word can begin with begins no mark. -/
theorem markAt?_of_isWordChar {char : Char} (held : isWordChar char = true) (rest : List Char) :
    markAt? (char :: rest) = none := by
  have alone : markAt? [char] = none := by
    simp only [isWordChar, Bool.not_eq_true', Bool.or_eq_false_iff] at held
    simpa using held.2
  unfold markAt?
  split
  all_goals first
    | rfl
    | next same =>
        cases same
        exact absurd alone (by decide)

/-- A word up to a boundary is the token it stands for. -/
theorem first?_word {char : Char} {more rest : List Char}
    (each : ∀ other ∈ char :: more, isWordChar other = true) (boundary : AtBoundary rest) :
    Character.isBlank char = false ∧
      first? (char :: more ++ rest) = some (ofWord (char :: more), (char :: more).length) := by
  have held := each char List.mem_cons_self
  have apart : Character.isBlank char = false ∧ isQuote char = false := by
    simp only [isWordChar, Bool.not_eq_true', Bool.or_eq_false_iff] at held
    exact held.1
  have word := Decimal.takeWhile_append_of_head each boundary
  rw [List.cons_append] at word ⊢
  refine ⟨apart.1, ?_⟩
  simp only [first?, apart.2, markAt?_of_isWordChar held, word]
  rfl

theorem covers_word {word : List Char} (some_chars : word ≠ [])
    (each : ∀ char ∈ word, isWordChar char = true) : Covers word [ofWord word] := by
  intro rest later boundary spells
  cases word with
  | nil => exact absurd rfl some_chars
  | cons char more =>
      obtain ⟨visible, first⟩ := first?_word each boundary
      have behind : (char :: more ++ rest).drop (char :: more).length = rest := List.drop_left
      exact .token visible first (by simp) (behind.symm ▸ spells)

/-! ## Quoted text -/

theorem stringContent?_escaped (content rest : List Char) :
    stringContent? Quoted.quote (Quoted.escaped content ++ Quoted.quote :: rest) =
      some (content, (Quoted.escaped content).length + 1) := by
  induction content with
  | nil => cases rest <;> rfl
  | cons char more ih =>
      unfold Quoted.escaped
      split
      next special =>
        have read : stringContent? Quoted.quote (Quoted.escape :: char ::
            (Quoted.escaped more ++ Quoted.quote :: rest)) =
            some (char :: more, (Quoted.escaped more).length + 1 + 2) := by
          unfold stringContent?
          rw [if_neg (by decide), if_pos ⟨rfl, special⟩, ih]
          rfl
        exact read
      next plain =>
        obtain ⟨notQuote, notEscape⟩ := not_or.mp plain
        -- The character is plain, and at least the closing quote stands behind it.
        obtain ⟨next, others, behind⟩ : ∃ next others,
            Quoted.escaped more ++ Quoted.quote :: rest = next :: others := by
          cases Quoted.escaped more with
          | nil => exact ⟨_, _, rfl⟩
          | cons next others => exact ⟨_, _, rfl⟩
        rw [List.cons_append, behind]
        rw [behind] at ih
        unfold stringContent?
        rw [if_neg notQuote, if_neg (fun escapes => notEscape escapes.1), ih]
        rfl

theorem delimits_quoted (content : List Char) :
    Delimits (Quoted.encode content) [.string (String.ofList content)] where
  some_chars := by simp [Quoted.encode]
  boundary := by
    intro char first
    obtain rfl : Quoted.quote = char := by simpa [Quoted.encode] using first
    decide
  spells := by
    intro rest later spells
    have text : Quoted.encode content ++ rest =
        Quoted.quote :: (Quoted.escaped content ++ Quoted.quote :: rest) := by
      simp [Quoted.encode]
    have first : first? (Quoted.quote :: (Quoted.escaped content ++ Quoted.quote :: rest)) =
        some (.string (String.ofList content), (Quoted.escaped content).length + 1 + 1) := by
      have quote : isQuote Quoted.quote = true := by decide
      simp only [first?, quote, if_true, stringContent?_escaped]
      rfl
    have behind : (Quoted.quote :: (Quoted.escaped content ++ Quoted.quote :: rest)).drop
        ((Quoted.escaped content).length + 1 + 1) = rest := by
      simp [List.drop_append]
    rw [text]
    exact .token (by decide) first (by simp) (behind.symm ▸ spells)

/-! ## Marks -/

theorem delimits_single {char : Char} {mark : Punctuation} (apart : isWordChar char = false)
    (visible : Character.isBlank char = false)
    (first : ∀ rest, first? (char :: rest) = some (.punctuation mark, 1)) :
    Delimits [char] [.punctuation mark] where
  some_chars := by simp
  boundary := by
    intro found head
    obtain rfl : char = found := by simpa using head
    exact apart
  spells := fun rest _ spells => .token visible (first rest) (by decide) spells

/-- A mark that no other mark begins with ends by itself. -/
theorem delimits_mark (mark : Punctuation) (single : mark ∈ ([.pipe, .ampersand, .less, .greater,
    .comma, .openBrace, .closeBrace, .question] : List Punctuation)) :
    Delimits mark.text.toList [.punctuation mark] := by
  simp only [List.mem_cons, List.not_mem_nil, or_false] at single
  rcases single with rfl | rfl | rfl | rfl | rfl | rfl | rfl | rfl
  all_goals exact delimits_single (by decide) (by decide) fun _ => rfl

theorem delimits_space : Delimits [' '] [] where
  some_chars := by decide
  boundary := by
    intro char first
    obtain rfl : ' ' = char := by simpa using first
    decide
  spells := fun _ _ spells => .blank (by decide) spells

theorem delimits_comma : Delimits ", ".toList [.punctuation .comma] :=
  (delimits_mark .comma (by decide)).append delimits_space

/-- A colon stands before a blank, so that it is no half of a double one. -/
theorem delimits_colon : Delimits ": ".toList [.punctuation .colon] where
  some_chars := by decide
  boundary := by
    intro char first
    obtain rfl : ':' = char := by simpa using first
    decide
  spells := by
    intro rest later spells
    have first : first? (':' :: ' ' :: rest) = some (.punctuation .colon, 1) := rfl
    exact .token (by decide) first (by decide) (.blank (by decide) spells)

/-- Two colons end a word and are a mark of their own. -/
theorem delimits_doubleColon : Delimits "::".toList [.punctuation .doubleColon] where
  some_chars := by decide
  boundary := by
    intro char first
    obtain rfl : ':' = char := by simpa using first
    decide
  spells := by
    intro rest later spells
    have first : first? (':' :: ':' :: rest) = some (.punctuation .doubleColon, 2) := rfl
    exact .token (by decide) first (by decide) spells

/-! ## Lists -/

/-- Runs of tokens with a mark between them. -/
def joined (mark : Punctuation) : List (List Token) → List Token
  | [] => []
  | first :: rest => first ++ rest.flatMap (.punctuation mark :: ·)

theorem joined_cons_cons (mark : Punctuation) (first second : List Token)
    (rest : List (List Token)) :
    joined mark (first :: second :: rest) =
      first ++ (.punctuation mark :: joined mark (second :: rest)) := by
  simp [joined]

theorem length_le_flatMap (mark : Punctuation) (runs : List (List Token)) :
    runs.length ≤ (runs.flatMap (.punctuation mark :: ·)).length := by
  induction runs with
  | nil => exact Nat.le_refl _
  | cons first rest ih =>
      rw [List.flatMap_cons, List.length_append, List.length_cons, List.length_cons]
      omega

theorem length_le_joined (mark : Punctuation) (runs : List (List Token)) :
    runs.length ≤ (joined mark runs).length + 1 := by
  cases runs with
  | nil => exact Nat.zero_le _
  | cons first rest =>
      have others := length_le_flatMap mark rest
      rw [joined, List.length_append, List.length_cons]
      omega

/-- Texts with a separator between them spell their tokens with a mark between them. -/
theorem covers_intercalate {α : Type} {separator : List Char} {mark : Punctuation}
    (between : Delimits separator [.punctuation mark]) {text : α → List Char}
    {tokens : α → List Token} {items : List α} (some_items : items ≠ [])
    (each : ∀ item ∈ items, Covers (text item) (tokens item)) :
    Covers (separator.intercalate (items.map text)) (joined mark (items.map tokens)) := by
  induction items with
  | nil => exact absurd rfl some_items
  | cons first rest ih =>
      obtain ⟨here, others⟩ := List.forall_mem_cons.mp each
      cases rest with
      | nil => simpa [joined] using here
      | cons second rest =>
          have later := ih (by simp) others
          simp only [List.map_cons] at later ⊢
          rw [List.intercalate_cons_cons, joined_cons_cons, List.append_assoc]
          exact here.append between later

end Schemata.Token
