import Schemata.Proofs.Outcome
import Schemata.Proofs.Token.Spelling

/-!
# Replacing a stretch of an input

An input spells the tokens it is cut into.  It can be cut where a token begins, and its parts spell
what they spell in it.  A parenthesis can be put behind any of them.
-/

namespace Schemata.Token

open Text

/-! ## What an input spells -/

theorem ofWord_ne_endOfInput (word : List Char) : ofWord word ≠ .endOfInput := by
  rw [ofWord_eq]
  split
  · nofun
  · split
    · nofun
    · split
      · nofun
      · split
        · nofun
        · nofun

/-- Only a colon and an opening bracket make marks together with the next character. -/
theorem markAt?_cons {char : Char} (no_colon : char ≠ ':') (no_bracket : char ≠ '[')
    (rest : List Char) : markAt? (char :: rest) = markAt? [char] := by
  by_cases single : char ∈ ['|', '&', '<', '>', ',', '\x7b', '\x7d', '(', ')', '?', ']']
  · simp only [List.mem_cons, List.not_mem_nil, or_false] at single
    rcases single with rfl | rfl | rfl | rfl | rfl | rfl | rfl | rfl | rfl | rfl | rfl
    all_goals rfl
  · simp only [List.mem_cons, List.not_mem_nil, or_false, not_or] at single
    simp [markAt?, single, no_colon, no_bracket]

theorem markAt?_colon (rest : List Char) :
    markAt? (':' :: rest) = if rest.head? = some ':' then some .doubleColon else some .colon := by
  cases rest with
  | nil => rfl
  | cons next rest =>
      by_cases same : next = ':'
      · rw [same]
        rfl
      · simp [markAt?, same]

theorem markAt?_bracket (rest : List Char) :
    markAt? ('[' :: rest) =
      if rest.head? = some ']' then some .closedBrackets else some .openBracket := by
  cases rest with
  | nil => rfl
  | cons next rest =>
      by_cases same : next = ']'
      · rw [same]
        rfl
      · simp [markAt?, same]

/-- A mark depends on its first character and on a colon or a closing bracket behind it. -/
theorem markAt?_eq_of_head? (char : Char) {rest rest' : List Char}
    (colon : rest.head? = some ':' ↔ rest'.head? = some ':')
    (bracket : rest.head? = some ']' ↔ rest'.head? = some ']') :
    markAt? (char :: rest) = markAt? (char :: rest') := by
  by_cases is_colon : char = ':'
  · simp only [is_colon, markAt?_colon, colon]
  · by_cases is_bracket : char = '['
    · simp only [is_bracket, markAt?_bracket, bracket]
    · rw [markAt?_cons is_colon is_bracket rest, markAt?_cons is_colon is_bracket rest']

/-- Whether a mark begins depends on its first character. -/
theorem markAt?_eq_none_iff {char : Char} {rest : List Char} :
    markAt? (char :: rest) = none ↔ markAt? [char] = none := by
  by_cases is_colon : char = ':'
  · rw [is_colon, markAt?_colon, markAt?_colon]
    split <;> simp
  · by_cases is_bracket : char = '['
    · rw [is_bracket, markAt?_bracket, markAt?_bracket]
      split <;> simp
    · rw [markAt?_cons is_colon is_bracket]

/-- The token at the head of a text takes at least one character and is not the end. -/
theorem pos_of_first? {char : Char} {rest : List Char} {token : Token} {width : Nat}
    (visible : Character.isBlank char = false)
    (first : first? (char :: rest) = some (token, width)) :
    0 < width ∧ token ≠ .endOfInput := by
  unfold first? at first
  dsimp only at first
  split at first
  next quote =>
    obtain ⟨read, _, same⟩ := Option.map_eq_some_iff.mp first
    cases same
    exact ⟨Nat.succ_pos _, nofun⟩
  next no_quote =>
    split at first
    next mark _ =>
      cases first
      refine ⟨?_, nofun⟩
      cases mark <;> decide
    next absent =>
      cases first
      have held : isWordChar char = true := by
        simp [isWordChar, visible, markAt?_eq_none_iff.mp absent, no_quote]
      refine ⟨?_, ofWord_ne_endOfInput _⟩
      rw [List.takeWhile_cons_of_pos held]
      exact Nat.succ_pos _

/-- A run of the lexer skips a blank or takes the token at the head of the text. -/
theorem scan_cons_eq_ok {steps offset : Nat} {char : Char} {rest : List Char}
    {lexemes : List Lexeme} (scanned : scan (steps + 1) offset (char :: rest) = .ok lexemes) :
    (Character.isBlank char = true ∧ scan steps (offset + 1) rest = .ok lexemes) ∨
      ∃ token width others, Character.isBlank char = false ∧
        first? (char :: rest) = some (token, width) ∧ 0 < width ∧
          scan steps (offset + width) ((char :: rest).drop width) = .ok others ∧
            lexemes = ⟨token, ⟨offset, offset + width⟩⟩ :: others := by
  rw [scan] at scanned
  split at scanned
  next blank => exact .inl ⟨blank, scanned⟩
  next visible =>
    rw [Bool.not_eq_true] at visible
    split at scanned
    · cases scanned
    next token width first =>
      obtain ⟨others, run, rfl⟩ := Except.map_eq_ok_iff.mp scanned
      exact .inr ⟨token, width, others, visible, first, (pos_of_first? visible first).1, run, rfl⟩

/-- What the lexer cuts a text into is what the text spells. -/
theorem spells_of_scan {steps offset : Nat} {text : List Char} {lexemes : List Lexeme}
    (scanned : scan steps offset text = .ok lexemes) (enough : text.length ≤ steps) :
    ∃ tokens, lexemes.map Lexeme.token = tokens ++ [Token.endOfInput] ∧ Spells text tokens := by
  induction steps generalizing offset text lexemes with
  | zero =>
      obtain rfl := List.eq_nil_of_length_eq_zero (Nat.le_zero.mp enough)
      cases scanned
      exact ⟨[], rfl, .nil⟩
  | succ steps ih =>
      cases text with
      | nil =>
          cases scanned
          exact ⟨[], rfl, .nil⟩
      | cons char rest =>
          obtain ⟨blank, run⟩ | ⟨token, width, others, visible, first, some_chars, run, rfl⟩ :=
            scan_cons_eq_ok scanned
          · obtain ⟨tokens, same, spells⟩ := ih run (Nat.le_of_succ_le_succ enough)
            exact ⟨tokens, same, .blank blank spells⟩
          · have shorter : ((char :: rest).drop width).length ≤ steps := by
              rw [List.length_drop]
              rw [List.length_cons] at enough ⊢
              omega
            obtain ⟨tokens, same, spells⟩ := ih run shorter
            exact ⟨token :: tokens, by rw [List.map_cons, same, List.cons_append],
              .token visible first some_chars spells⟩

theorem scan_of_tokenize {input : String} {lexemes : List Lexeme}
    (lexed : tokenize input = .ok lexemes) :
    scan input.toList.length 0 input.toList = .ok lexemes := by
  unfold tokenize at lexed
  dsimp only at lexed
  cases scanned : scan input.toList.length 0 input.toList with
  | error unclosed =>
      rw [scanned] at lexed
      cases lexed
  | ok found =>
      rw [scanned] at lexed
      cases lexed
      rfl

theorem spells_of_tokenize {input : String} {lexemes : List Lexeme}
    (lexed : tokenize input = .ok lexemes) :
    ∃ tokens, lexemes.map Lexeme.token = tokens ++ [Token.endOfInput] ∧
      Spells input.toList tokens :=
  spells_of_scan (scan_of_tokenize lexed) (Nat.le_refl _)

/-- A text is cut into what it spells. -/
theorem tokenize_of_spells {input : String} {tokens : List Token}
    (spells : Spells input.toList tokens) :
    ∃ lexemes, tokenize input = .ok lexemes ∧
      lexemes.map Lexeme.token = tokens ++ [Token.endOfInput] := by
  obtain ⟨lexemes, scanned, same⟩ := spells.scan (Nat.le_refl _) 0
  exact ⟨lexemes, congrArg (Except.mapError _) scanned, same⟩

theorem Spells.no_end {text : List Char} {tokens : List Token} (spells : Spells text tokens) :
    .endOfInput ∉ tokens := by
  induction spells with
  | nil => exact List.not_mem_nil
  | blank _ _ ih => exact ih
  | token visible first _ _ ih =>
      rw [List.mem_cons, not_or]
      exact ⟨(pos_of_first? visible first).2.symm, ih⟩

/-! ## Behind a token -/

/-- A quoted string that is closed is the same before further characters. -/
theorem stringContent?_append {quote : Char} {text content : List Char} {width : Nat}
    (closed : stringContent? quote text = some (content, width)) (more : List Char) :
    stringContent? quote (text ++ more) = some (content, width) := by
  fun_induction stringContent? quote text generalizing content width with
  | case1 => cases closed
  | case2 =>
      cases closed
      cases more with
      | nil => exact if_pos rfl
      | cons next more => exact if_pos rfl
  | case3 _ _ => cases closed
  | case4 next rest =>
      cases closed
      exact if_pos rfl
  | case5 char next rest other escape ih =>
      obtain ⟨read, inner, same⟩ := Option.map_eq_some_iff.mp closed
      rw [List.cons_append, List.cons_append, stringContent?, if_neg other, if_pos escape,
        ih inner]
      exact congrArg some same
  | case6 char next rest other plain ih =>
      obtain ⟨read, inner, same⟩ := Option.map_eq_some_iff.mp closed
      rw [List.cons_append, List.cons_append, stringContent?, if_neg other, if_neg plain,
        ← List.cons_append, ih inner]
      exact congrArg some same

theorem le_length_of_stringContent? {quote : Char} {text content : List Char} {width : Nat}
    (closed : stringContent? quote text = some (content, width)) : width ≤ text.length := by
  fun_induction stringContent? quote text generalizing content width with
  | case1 => cases closed
  | case2 =>
      cases closed
      simp
  | case3 _ _ => cases closed
  | case4 next rest =>
      cases closed
      simp
  | case5 char next rest _ _ ih =>
      obtain ⟨read, inner, same⟩ := Option.map_eq_some_iff.mp closed
      cases same
      exact Nat.add_le_add_right (ih inner) 2
  | case6 char next rest _ _ ih =>
      obtain ⟨read, inner, same⟩ := Option.map_eq_some_iff.mp closed
      cases same
      exact Nat.add_le_add_right (ih inner) 1

theorem pos_of_stringContent? {quote : Char} {text content : List Char} {width : Nat}
    (closed : stringContent? quote text = some (content, width)) : 0 < width := by
  unfold stringContent? at closed
  split at closed
  · cases closed
  · split at closed
    · cases closed
      exact Nat.one_pos
    · cases closed
  · split at closed
    · cases closed
      exact Nat.one_pos
    · split at closed
      · obtain ⟨read, _, same⟩ := Option.map_eq_some_iff.mp closed
        cases same
        exact Nat.succ_pos _
      · obtain ⟨read, _, same⟩ := Option.map_eq_some_iff.mp closed
        cases same
        exact Nat.succ_pos _

/-- A string that is closed within the front of a text is closed without the rest. -/
theorem stringContent?_of_append {quote : Char} {front rest content : List Char} {width : Nat}
    (closed : stringContent? quote (front ++ rest) = some (content, width))
    (inside : width ≤ front.length) : stringContent? quote front = some (content, width) := by
  fun_induction stringContent? quote front generalizing content width with
  | case1 => exact absurd (pos_of_stringContent? closed) (Nat.not_lt.mpr inside)
  | case2 =>
      have alone : stringContent? quote ([quote] ++ rest) = some ([], 1) := by
        cases rest with
        | nil => exact if_pos rfl
        | cons next rest => exact if_pos rfl
      exact alone.symm.trans closed
  | case3 char other =>
      rw [List.cons_append, List.nil_append] at closed
      cases rest with
      | nil =>
          rw [stringContent?, if_neg other] at closed
          cases closed
      | cons next rest =>
          rw [stringContent?, if_neg other] at closed
          split at closed
          · obtain ⟨read, _, same⟩ := Option.map_eq_some_iff.mp closed
            cases same
            exact absurd inside (by simp)
          · obtain ⟨read, inner, same⟩ := Option.map_eq_some_iff.mp closed
            cases same
            have positive := pos_of_stringContent? inner
            simp only [List.length_singleton] at inside
            omega
  | case4 next front =>
      rw [List.cons_append, List.cons_append, stringContent?, if_pos rfl] at closed
      exact closed
  | case5 char next front other escape ih =>
      rw [List.cons_append, List.cons_append, stringContent?, if_neg other, if_pos escape] at closed
      obtain ⟨read, inner, same⟩ := Option.map_eq_some_iff.mp closed
      cases same
      rw [ih inner (by simp only [List.length_cons] at inside; omega)]
      rfl
  | case6 char next front other plain ih =>
      rw [List.cons_append, List.cons_append, stringContent?, if_neg other, if_neg plain,
        ← List.cons_append] at closed
      obtain ⟨read, inner, same⟩ := Option.map_eq_some_iff.mp closed
      cases same
      rw [ih inner (by simp only [List.length_cons] at inside ⊢; omega)]
      rfl

/-- Parentheses are no part of a mark or a word before them. -/
def IsParen (char : Char) : Prop :=
  char = '(' ∨ char = ')'

/-- A character that is no part of a mark or a word before it. -/
structure Divides (char : Char) : Prop where
  no_word : isWordChar char = false
  no_colon : char ≠ ':'
  no_bracket : char ≠ ']'

theorem IsParen.divides {paren : Char} (is_paren : IsParen paren) : Divides paren := by
  rcases is_paren with rfl | rfl
  · exact ⟨by decide, by decide, by decide⟩
  · exact ⟨by decide, by decide, by decide⟩

theorem divides_closeBrace : Divides '\x7d' :=
  ⟨by decide, by decide, by decide⟩

/-- The mark at the head of a text is the same before a dividing character. -/
theorem markAt?_append_divider {divider : Char} (divides : Divides divider) (char : Char)
    (rest more : List Char) :
    markAt? (char :: (rest ++ divider :: more)) = markAt? (char :: rest) := by
  have other (mark : Char) (apart : divider ≠ mark) :
      (rest ++ divider :: more).head? = some mark ↔ rest.head? = some mark := by
    cases rest with
    | nil => simp [apart]
    | cons next rest => rfl
  exact markAt?_eq_of_head? char (other ':' divides.no_colon) (other ']' divides.no_bracket)

/-- A mark that lies within the front of a text is there without the rest. -/
theorem markAt?_of_append {char : Char} {front rest : List Char} {mark : Punctuation}
    (found : markAt? (char :: (front ++ rest)) = some mark)
    (inside : mark.text.length ≤ (char :: front).length) :
    markAt? (char :: front) = some mark := by
  cases front with
  | cons next front =>
      have same : markAt? (char :: next :: front) = markAt? (char :: next :: (front ++ rest)) :=
        markAt?_eq_of_head? char Iff.rfl Iff.rfl
      exact same.trans found
  | nil =>
      -- A mark of two characters does not fit.
      rw [List.nil_append] at found
      by_cases is_colon : char = ':'
      · rw [is_colon, markAt?_colon] at found
        rw [is_colon] at inside ⊢
        split at found
        · cases found
          exact absurd inside (by decide)
        · exact found
      · by_cases is_bracket : char = '['
        · rw [is_bracket, markAt?_bracket] at found
          rw [is_bracket] at inside ⊢
          split at found
          · cases found
            exact absurd inside (by decide)
          · exact found
        · rwa [markAt?_cons is_colon is_bracket] at found

theorem le_length_of_markAt? {char : Char} {rest : List Char} {mark : Punctuation}
    (found : markAt? (char :: rest) = some mark) : mark.text.length ≤ (char :: rest).length := by
  cases rest with
  | cons next rest =>
      have short : mark.text.length ≤ 2 := by cases mark <;> decide
      exact Nat.le_trans short (by simp)
  | nil =>
      unfold markAt? at found
      split at found
      all_goals first
        | next same => cases same
        | cases found
      all_goals
        change _ ≤ 1
        decide

theorem le_length_of_first? {char : Char} {rest : List Char} {token : Token} {width : Nat}
    (first : first? (char :: rest) = some (token, width)) : width ≤ (char :: rest).length := by
  unfold first? at first
  dsimp only at first
  split at first
  · obtain ⟨read, closed, same⟩ := Option.map_eq_some_iff.mp first
    cases same
    exact Nat.succ_le_succ (le_length_of_stringContent? closed)
  · split at first
    next found =>
      cases first
      exact le_length_of_markAt? found
    · cases first
      exact (List.takeWhile_prefix _).length_le

/-- The token at the head of a text is the same before a dividing character. -/
theorem first?_append_divider {char : Char} {rest : List Char} {token : Token} {width : Nat}
    {divider : Char} (divides : Divides divider)
    (first : first? (char :: rest) = some (token, width)) (more : List Char) :
    first? (char :: (rest ++ divider :: more)) = some (token, width) := by
  have ends : (divider :: more).takeWhile isWordChar = [] :=
    List.takeWhile_cons_of_neg (by simp [divides.no_word])
  unfold first? at first ⊢
  dsimp only at first ⊢
  split at first
  next quote =>
    obtain ⟨read, closed, same⟩ := Option.map_eq_some_iff.mp first
    rw [if_pos quote, stringContent?_append closed]
    exact congrArg some same
  next no_quote =>
    rw [if_neg no_quote, markAt?_append_divider divides]
    split at first
    · exact first
    · have word : (char :: (rest ++ divider :: more)).takeWhile isWordChar =
          (char :: rest).takeWhile isWordChar := by
        rw [← List.cons_append, List.takeWhile_append, ends, List.append_nil]
        split
        next all => exact ((List.takeWhile_prefix _).eq_of_length all).symm
        · rfl
      rw [word]
      exact first

/-- A token that lies within the front of a text is there without the rest. -/
theorem first?_of_append {char : Char} {front rest : List Char} {token : Token} {width : Nat}
    (first : first? (char :: (front ++ rest)) = some (token, width))
    (inside : width ≤ (char :: front).length) : first? (char :: front) = some (token, width) := by
  unfold first? at first ⊢
  dsimp only at first ⊢
  split at first
  next quote =>
    obtain ⟨read, closed, same⟩ := Option.map_eq_some_iff.mp first
    cases same
    rw [if_pos quote, stringContent?_of_append closed (Nat.le_of_succ_le_succ inside)]
    rfl
  next no_quote =>
    rw [if_neg no_quote]
    split at first
    next mark found =>
      cases first
      rw [markAt?_of_append found inside]
    next absent =>
      cases first
      have word : (char :: (front ++ rest)).takeWhile isWordChar =
          (char :: front).takeWhile isWordChar := by
        rw [← List.cons_append, List.takeWhile_append] at inside ⊢
        split
        next all =>
          rw [if_pos all, List.length_append] at inside
          have none : (rest.takeWhile isWordChar).length = 0 := by omega
          rw [List.eq_nil_of_length_eq_zero none, List.append_nil]
          exact ((List.takeWhile_prefix _).eq_of_length all).symm
        · rfl
      rw [markAt?_eq_none_iff.mpr (markAt?_eq_none_iff.mp absent), word]

/-- What stands before a dividing character spells what it spells by itself. -/
theorem Spells.append_divider {text rest : List Char} {tokens later : List Token} {divider : Char}
    (spells : Spells text tokens) (divides : Divides divider)
    (behind : Spells (divider :: rest) later) :
    Spells (text ++ divider :: rest) (tokens ++ later) := by
  induction spells with
  | nil => exact behind
  | blank blank _ ih => exact .blank blank ih
  | @token char text token width tokens visible first some_chars _ ih =>
      refine .token visible (first?_append_divider divides first rest) some_chars ?_
      change Spells ((char :: text ++ divider :: rest).drop width) (tokens ++ later)
      rwa [List.drop_append_of_le_length (le_length_of_first? first)]

/-! ## Cutting an input -/

theorem le_start_of_scan {steps offset : Nat} {text : List Char} {lexemes : List Lexeme}
    (scanned : scan steps offset text = .ok lexemes) :
    ∀ lexeme ∈ lexemes, offset ≤ lexeme.span.start := by
  induction steps generalizing offset text lexemes with
  | zero =>
      cases scanned
      simp
  | succ steps ih =>
      cases text with
      | nil =>
          cases scanned
          simp
      | cons char rest =>
          obtain ⟨_, run⟩ | ⟨token, width, others, _, _, _, run, rfl⟩ := scan_cons_eq_ok scanned
          · exact fun lexeme among => Nat.le_of_succ_le (ih run lexeme among)
          · refine List.forall_mem_cons.mpr ⟨Nat.le_refl _, fun lexeme among => ?_⟩
            exact Nat.le_of_add_right_le (ih run lexeme among)

/-- Nothing stands before a token at the start. -/
theorem eq_nil_of_scan {steps offset : Nat} {text : List Char} {earlier later : List Lexeme}
    {lexeme : Lexeme} (scanned : scan steps offset text = .ok (earlier ++ lexeme :: later))
    (starts : lexeme.span.start = offset) : earlier = [] := by
  cases earlier with
  | nil => rfl
  | cons found earlier =>
      exfalso
      have among : lexeme ∈ earlier ++ lexeme :: later := by simp
      cases steps with
      | zero =>
          cases earlier <;> cases scanned
      | succ steps =>
          cases text with
          | nil => cases earlier <;> cases scanned
          | cons char rest =>
              obtain ⟨_, run⟩ | ⟨token, width, others, _, _, some_chars, run, same⟩ :=
                scan_cons_eq_ok scanned
              · have behind := le_start_of_scan run lexeme (List.mem_cons_of_mem _ among)
                omega
              · cases same
                have behind := le_start_of_scan run lexeme among
                omega

/-- An input can be cut where a token begins. -/
theorem cut_of_scan {steps offset : Nat} {front rest : List Char} {earlier later : List Lexeme}
    {lexeme : Lexeme}
    (scanned : scan steps offset (front ++ rest) = .ok (earlier ++ lexeme :: later))
    (enough : (front ++ rest).length ≤ steps)
    (starts : lexeme.span.start = offset + front.length) :
    Spells front (earlier.map Lexeme.token) ∧
      ∃ steps, scan steps (offset + front.length) rest = .ok (lexeme :: later) ∧
        rest.length ≤ steps := by
  induction steps generalizing offset front earlier with
  | zero =>
      obtain ⟨rfl, rfl⟩ := List.append_eq_nil_iff.mp
        (List.eq_nil_of_length_eq_zero (Nat.le_zero.mp enough))
      obtain rfl := eq_nil_of_scan scanned starts
      exact ⟨.nil, 0, scanned, Nat.le_refl _⟩
  | succ steps ih =>
      cases front with
      | nil =>
          obtain rfl := eq_nil_of_scan scanned starts
          exact ⟨.nil, steps + 1, scanned, enough⟩
      | cons char front =>
          rw [List.cons_append] at scanned
          rw [List.length_cons] at starts
          obtain ⟨blank, run⟩ | ⟨token, width, others, visible, first, some_chars, run, same⟩ :=
            scan_cons_eq_ok scanned
          · obtain ⟨spells, more, run, left⟩ :=
              ih run (Nat.le_of_succ_le_succ enough) (by omega)
            refine ⟨.blank blank spells, more, ?_, left⟩
            rw [← run]
            congr 1
            simp only [List.length_cons]
            omega
          · cases earlier with
            | nil =>
                cases same
                simp only at starts
                omega
            | cons found earlier =>
                cases same
                have among : lexeme ∈ earlier ++ lexeme :: later := by simp
                have behind := le_start_of_scan run lexeme among
                have inside : width ≤ (char :: front).length := by
                  rw [List.length_cons]
                  omega
                rw [← List.cons_append, List.drop_append_of_le_length inside] at run
                have length : ((char :: front).drop width).length = front.length + 1 - width := by
                  rw [List.length_drop, List.length_cons]
                have fewer : ((char :: front).drop width ++ rest).length ≤ steps := by
                  rw [List.length_append, length]
                  rw [List.length_append, List.length_cons] at enough
                  omega
                obtain ⟨spells, more, run, left⟩ := ih run fewer (by omega)
                refine ⟨.token visible (first?_of_append first inside) some_chars spells, more, ?_,
                  left⟩
                rw [← run]
                congr 1
                rw [List.length_drop]
                omega

/-- The stretches before and behind a token spell the tokens before and behind it. -/
theorem spells_around {before middle behind : String} {earlier later : List Lexeme} {token : Token}
    (lexed : tokenize (before ++ middle ++ behind) =
      .ok (earlier ++ ⟨token, ⟨before.length, before.length + middle.length⟩⟩ :: later))
    (not_end : token ≠ .endOfInput) :
    Spells before.toList (earlier.map Lexeme.token) ∧
      ∃ tokens, later.map Lexeme.token = tokens ++ [Token.endOfInput] ∧
        Spells behind.toList tokens := by
  have scanned := scan_of_tokenize lexed
  rw [String.toList_append, String.toList_append, List.append_assoc] at scanned
  obtain ⟨spells, steps, run, enough⟩ := cut_of_scan scanned (Nat.le_refl _) (by
    rw [String.length_toList, Nat.zero_add])
  rw [String.length_toList, Nat.zero_add] at run
  refine ⟨spells, ?_⟩
  cases steps with
  | zero =>
      simp only [scan, Except.ok.injEq, List.cons.injEq, Lexeme.mk.injEq] at run
      exact absurd run.1.1.symm not_end
  | succ steps =>
      cases all : middle.toList ++ behind.toList with
      | nil =>
          rw [all] at run
          simp only [scan, Except.ok.injEq, List.cons.injEq, Lexeme.mk.injEq] at run
          exact absurd run.1.1.symm not_end
      | cons char rest =>
          rw [all] at run
          obtain ⟨_, run⟩ | ⟨found, width, others, _, _, some_chars, left, same⟩ :=
            scan_cons_eq_ok run
          · have behind := le_start_of_scan run _ List.mem_cons_self
            exact absurd behind (Nat.not_succ_le_self _)
          · simp only [List.cons.injEq, Lexeme.mk.injEq, Span.mk.injEq] at same
            obtain ⟨⟨rfl, _, same⟩, rfl⟩ := same
            obtain rfl : width = middle.toList.length := by
              rw [String.length_toList]
              omega
            rw [← all, List.drop_left] at left
            refine spells_of_scan left ?_
            rw [List.length_append] at enough
            omega

theorem spells_paren {text : List Char} {tokens : List Token} (spells : Spells text tokens) :
    Spells ('(' :: text) (.punctuation .openParen :: tokens) ∧
      Spells (')' :: text) (.punctuation .closeParen :: tokens) :=
  ⟨.token (by decide) rfl Nat.one_pos spells, .token (by decide) rfl Nat.one_pos spells⟩

/-- Text in parentheses between two others. -/
theorem Spells.parenthesized {before middle behind : List Char}
    {earlier inner later : List Token} (spells : Spells before earlier)
    (inside : Spells middle inner) (after : Spells behind later) :
    Spells (before ++ '(' :: (middle ++ ')' :: behind))
      (earlier ++ .punctuation .openParen :: (inner ++ .punctuation .closeParen :: later)) :=
  spells.append_divider (IsParen.divides (.inl rfl))
    (spells_paren (inside.append_divider (IsParen.divides (.inr rfl)) (spells_paren after).2)).1

end Schemata.Token
