import Mathlib.Data.List.TakeWhile
import Schemata.Proofs.Source.Lexer
import Schemata.Proofs.Token.Words

/-!
# Spellings of a module's tokens

A text spells some tokens when the lexer cuts it into them, wherever in a module it stands.  Names
and numbers end at a boundary, and quoted texts and marks end by themselves, so spellings are put
together from those of their parts.
-/

namespace Schemata.Source

open Text

/-- A text that the lexer cuts into tokens, step by step. -/
inductive Spells : List Char → List Token → Prop where
  | nil : Spells [] []
  | step {text rest : List Char} {token : Option Token} {tokens : List Token}
      (first : next? text = some (token, rest)) (shorter : rest.length < text.length)
      (later : Spells rest tokens) : Spells text (token.toList ++ tokens)

/-- The lexer cuts a text into the tokens it spells. -/
theorem Spells.lex {text : List Char} {tokens : List Token} (spells : Spells text tokens)
    {steps : Nat} (enough : text.length ≤ steps) : lex steps text = some tokens := by
  induction spells generalizing steps with
  | nil => cases steps <;> rfl
  | @step text rest token tokens first shorter _ ih =>
      cases text with
      | nil => exact absurd shorter (Nat.not_lt_zero _)
      | cons char more =>
          cases steps with
          | zero => exact absurd enough (by simp)
          | succ steps =>
              rw [Source.lex, first]
              change (Source.lex steps rest).bind _ = _
              rw [ih (by omega)]
              rfl

/-- Whether names and numbers end before a text. -/
def isBoundary : List Char → Bool
  | [] => true
  | [char] => !isNameChar char
  | char :: next :: _ =>
      !isNameChar char && !(char == ':' && next == ':') && !(char == '.' && next.isDigit)

theorem head_of_boundary {rest : List Char} (boundary : isBoundary rest = true) :
    ∀ char ∈ rest.head?, isNameChar char = false := by
  cases rest with
  | nil => exact fun _ nothing => nomatch nothing
  | cons first more =>
      rintro _ ⟨⟩
      cases more <;> simp_all [isBoundary]

/-- A text that spells some tokens before every boundary. -/
def Covers (text : List Char) (tokens : List Token) : Prop :=
  ∀ ⦃rest later⦄, isBoundary rest = true → Spells rest later →
    Spells (text ++ rest) (tokens ++ later)

/-- A text that begins with a boundary and spells some tokens before everything. -/
structure Delimits (text : List Char) (tokens : List Token) : Prop where
  boundary : ∀ rest, isBoundary (text ++ rest) = true
  spells : ∀ ⦃rest later⦄, Spells rest later → Spells (text ++ rest) (tokens ++ later)

section

variable {text text' separator : List Char} {tokens tokens' marks : List Token}

theorem Covers.append (left : Covers text tokens) (between : Delimits separator marks)
    (right : Covers text' tokens') :
    Covers (text ++ (separator ++ text')) (tokens ++ (marks ++ tokens')) := by
  intro rest later boundary spells
  simp only [List.append_assoc]
  exact left (between.boundary _) (between.spells (right boundary spells))

theorem Covers.close (left : Covers text tokens) (closing : Delimits separator marks) :
    Covers (text ++ separator) (tokens ++ marks) := by
  intro rest later _ spells
  simp only [List.append_assoc]
  exact left (closing.boundary _) (closing.spells spells)

theorem Delimits.covers (delimits : Delimits text tokens) : Covers text tokens :=
  fun _ _ _ spells => delimits.spells spells

theorem Delimits.before (opening : Delimits separator marks) (right : Covers text tokens) :
    Covers (separator ++ text) (marks ++ tokens) := by
  intro rest later boundary spells
  simp only [List.append_assoc]
  exact opening.spells (right boundary spells)

theorem Delimits.append (left : Delimits text tokens) (right : Delimits text' tokens') :
    Delimits (text ++ text') (tokens ++ tokens') where
  boundary rest := by
    rw [List.append_assoc]
    exact left.boundary _
  spells := by
    intro rest later spells
    simp only [List.append_assoc]
    exact left.spells (right.spells spells)

end

/-! ## Names -/

section

variable {char : Char} {rest more : List Char}

theorem splitName_colons (rest : List Char) :
    splitName (':' :: ':' :: rest) = (splitName rest).map (':' :: ':' :: ·) id := rfl

theorem splitName_of_isNameChar (held : isNameChar char = true) (rest : List Char) :
    splitName (char :: rest) = (splitName rest).map (char :: ·) id := by
  rw [splitName, if_pos held]
  rintro _ rfl
  cases held

theorem splitName_of_not_isNameChar (other : isNameChar char = false)
    (single : ∀ more, char = ':' → rest = ':' :: more → False) :
    splitName (char :: rest) = ([], char :: rest) := by
  rw [splitName, if_neg (by rw [other]; decide)]
  exact single

theorem splitName_of_boundary (boundary : isBoundary rest = true) :
    splitName rest = ([], rest) := by
  cases rest with
  | nil => rfl
  | cons char more =>
      have other : isNameChar char = false := by
        cases more <;> simp_all [isBoundary]
      refine splitName_of_not_isNameChar other ?_
      rintro others rfl rfl
      cases boundary

/-- A name is taken whole before a boundary. -/
theorem splitName_append {name : List Char} (whole : splitName name = (name, []))
    (boundary : isBoundary rest = true) : splitName (name ++ rest) = (name, rest) := by
  fun_induction splitName name with
  | case1 inner ih =>
      have inside : splitName inner = (inner, []) := by
        simpa [Prod.ext_iff] using whole
      rw [List.cons_append, List.cons_append, splitName_colons, ih inside]
      rfl
  | case2 char inner _ held ih =>
      have inside : splitName inner = (inner, []) := by
        simpa [Prod.ext_iff] using whole
      rw [List.cons_append, splitName_of_isNameChar held, ih inside]
      rfl
  | case3 => cases whole
  | case4 => exact splitName_of_boundary boundary

end

theorem any_isNameChar_blankCodes :
    (Character.blankCodes.any fun code => isNameChar (Char.ofNat code)) = false := by
  decide

/-- What names are made of opens nothing else. -/
theorem visible_of_isNameChar {char : Char} (held : isNameChar char = true) :
    Character.isBlank char = false ∧ char ≠ '/' ∧ char ≠ Escaped.quote := by
  refine ⟨?_, ?_, ?_⟩
  · rw [Bool.eq_false_iff]
    intro blank
    have other := List.any_eq_false.mp any_isNameChar_blankCodes _
      (Character.toNat_mem_blankCodes blank)
    rw [Char.ofNat_toNat] at other
    exact other held
  · rintro rfl
    cases held
  · rintro rfl
    cases held

theorem isNameChar_of_isDigit {char : Char} (digit : Character.isDigit char = true) :
    isNameChar char = true := by
  rw [Decimal.isDigit_eq] at digit
  simp [isNameChar, Char.isAlphanum, digit]

/-- A number or a name begins with a character of names. -/
theorem next?_of_isNameChar {char : Char} (held : isNameChar char = true) (rest : List Char) :
    next? (char :: rest) =
      if Character.isDigit char then
        (number? (char :: rest)).map fun read => (some read.1, read.2)
      else
        some (some (.name (String.ofList (splitName (char :: rest)).1)),
          (splitName (char :: rest)).2) := by
  obtain ⟨visible, notSlash, notQuote⟩ := visible_of_isNameChar held
  rw [next?, visible, if_neg (by decide), if_neg (fun comment => notSlash comment.1),
    if_neg notQuote]
  cases digit : Character.isDigit char with
  | true => rfl
  | false =>
      have starts : isNameStart char = true := by rw [isNameStart, held, digit]; rfl
      rw [starts]
      rfl

/-- A text that is a name, with the path before it. -/
def IsName (name : String) : Prop :=
  splitName name.toList = (name.toList, []) ∧ name.toList.head?.any isNameStart = true

/-- A fixed text is checked character by character. -/
theorem isName_ofList {name : List Char}
    (whole : splitName name = (name, []) ∧ name.head?.any isNameStart = true) :
    IsName (String.ofList name) := by
  rwa [IsName, String.toList_ofList]

theorem covers_name {name : String} (isName : IsName name) :
    Covers name.toList [.name name] := by
  intro rest later boundary spells
  obtain ⟨whole, starts⟩ := isName
  have taken := splitName_append whole boundary
  cases text : name.toList with
  | nil =>
      rw [text] at starts
      cases starts
  | cons char more =>
      rw [text] at starts taken
      have starts : isNameStart char = true := starts
      obtain ⟨held, notDigit⟩ := Bool.and_eq_true_iff.mp starts
      have first : next? (char :: more ++ rest) = some (some (.name name), rest) := by
        rw [List.cons_append] at taken ⊢
        rw [next?_of_isNameChar held, if_neg (by simpa using notDigit), taken, ← text,
          String.ofList_toList]
      have shorter : rest.length < (char :: more ++ rest).length := by
        rw [List.length_append, List.length_cons]
        omega
      exact .step first shorter spells

/-! ## Marks -/

/-- Characters that are marks wherever they stand. -/
def isMark (char : Char) : Bool :=
  !(Character.isBlank char || isNameChar char || char == '/' || char == Escaped.quote)

theorem next?_of_isMark {char : Char} (mark : isMark char = true) (rest : List Char) :
    next? (char :: rest) = some (some (.mark char), rest) := by
  simp only [isMark, Bool.not_eq_true', Bool.or_eq_false_iff, beq_eq_false_iff_ne] at mark
  obtain ⟨⟨⟨visible, other⟩, notSlash⟩, notQuote⟩ := mark
  have notDigit : Character.isDigit char = false := by
    rw [Bool.eq_false_iff]
    intro digit
    rw [isNameChar_of_isDigit digit] at other
    cases other
  have notStart : isNameStart char = false := by rw [isNameStart, other]; rfl
  rw [next?, visible, if_neg (by decide), if_neg (fun comment => notSlash comment.1),
    if_neg notQuote, notDigit, if_neg (by decide), notStart]
  rfl

/-- A mark stands alone if it is no half of a double colon and no point of a number. -/
theorem delimits_mark (char : Char) (alone : isMark char = true ∧ char ≠ ':' ∧ char ≠ '.') :
    Delimits [char] [.mark char] where
  boundary rest := by
    obtain ⟨mark, notColon, notPoint⟩ := alone
    simp only [isMark, Bool.not_eq_true', Bool.or_eq_false_iff] at mark
    cases rest <;> simp [isBoundary, mark.1.1.2, notColon, notPoint]
  spells := fun _ _ spells => .step (next?_of_isMark alone.1 _) (by simp) spells

theorem delimits_blank : Delimits [' '] [] where
  boundary rest := by cases rest <;> rfl
  spells := by
    intro rest later spells
    have first : next? (' ' :: rest) = some (none, rest) := rfl
    exact .step first (by simp) spells

theorem delimits_comma : Delimits ", ".toList [.mark ','] :=
  (delimits_mark ',' (by decide)).append delimits_blank

/-- A colon stands before a blank, so that it is no half of a double one. -/
theorem delimits_colon : Delimits ": ".toList [.mark ':'] where
  boundary _ := rfl
  spells := by
    intro rest later spells
    have mark : isMark ':' = true := by decide
    refine .step (next?_of_isMark mark (' ' :: rest)) (by simp) ?_
    exact delimits_blank.spells spells

/-- A point stands before a name, so that it is not the point of a number. -/
theorem covers_member {text : List Char} {tokens : List Token} {name : String}
    (receiver : Covers text tokens) (isName : IsName name) :
    Covers (text ++ ('.' :: name.toList)) (tokens ++ [Token.mark '.', .name name]) := by
  intro rest later boundary spells
  simp only [List.append_assoc]
  refine receiver ?_ ?_
  · obtain ⟨_, starts⟩ := isName
    cases written : name.toList with
    | nil =>
        rw [written] at starts
        cases starts
    | cons char more =>
        rw [written] at starts
        have notDigit : (!Character.isDigit char) = true :=
          (Bool.and_eq_true_iff.mp starts).2
        rw [Decimal.isDigit_eq] at notDigit
        have point : isNameChar '.' = false := by decide
        simpa [isBoundary, point] using notDigit
  · exact .step (next?_of_isMark (by decide) _) (by simp) (covers_name isName boundary spells)

/-! ## Lines -/

/-- What stands before the end of a line is cut without looking past it. -/
theorem splitName_line {text : List Char} (ends : '\n' ∈ text) (more : List Char) :
    splitName (text ++ more) = ((splitName text).1, (splitName text).2 ++ more) := by
  fun_induction splitName text with
  | case1 rest ih =>
      have inside : '\n' ∈ rest := by simpa using ends
      rw [List.cons_append, List.cons_append, splitName_colons, ih inside]
      rfl
  | case2 char rest _ held ih =>
      have inside : '\n' ∈ rest := by
        rcases List.mem_cons.mp ends with rfl | inside
        · cases held
        · exact inside
      rw [List.cons_append, splitName_of_isNameChar held, ih inside]
      rfl
  | case3 char rest single other =>
      rw [List.cons_append, splitName_of_not_isNameChar (by simpa using other)]
      rintro others rfl joined
      cases rest with
      | nil => simp at ends
      | cons next _ =>
          obtain ⟨rfl, _⟩ := List.cons_eq_cons.mp joined
          exact single _ rfl rfl
  | case4 => cases ends

theorem splitName_suffix (text : List Char) : (splitName text).2 <:+ text := by
  fun_induction splitName text with
  | case1 rest ih => exact (ih.trans (List.suffix_cons _ _)).trans (List.suffix_cons _ _)
  | case2 char rest _ held ih => exact ih.trans (List.suffix_cons _ _)
  | case3 => exact List.suffix_refl _
  | case4 => exact List.suffix_refl _

/-- No digit and no quote stands in a text. -/
def IsPlain (text : List Char) : Prop :=
  ∀ char ∈ text, Character.isDigit char = false ∧ char ≠ Escaped.quote

theorem next?_of_plain {char : Char} {rest : List Char}
    (visible : Character.isBlank char = false) (notDigit : Character.isDigit char = false)
    (notQuote : char ≠ Escaped.quote) :
    next? (char :: rest) =
      if char = '/' ∧ rest.head? = some '/' then some (none, rest.dropWhile (· ≠ '\n'))
      else if isNameStart char then
        some (some (.name (String.ofList (splitName (char :: rest)).1)),
          (splitName (char :: rest)).2)
      else some (some (.mark char), rest) := by
  rw [next?, visible, notDigit, if_neg (by decide), if_neg notQuote]
  rfl

/-- A step inside of a line goes no further than the line. -/
theorem next?_line {char : Char} {tail rest : List Char} {token : Option Token}
    (plain : IsPlain (char :: tail)) (ends : '\n' ∈ char :: tail)
    (read : next? (char :: tail) = some (token, rest)) (more : List Char) :
    next? (char :: (tail ++ more)) = some (token, rest ++ more) ∧ rest <:+ tail := by
  cases blank : Character.isBlank char with
  | true =>
      have step (rest : List Char) : next? (char :: rest) = some (none, rest) := by
        rw [next?, blank, if_pos rfl]
      rw [step] at read ⊢
      cases read
      exact ⟨rfl, List.suffix_refl _⟩
  | false =>
      obtain ⟨notDigit, notQuote⟩ := plain char List.mem_cons_self
      have inside : '\n' ∈ tail := by
        rcases List.mem_cons.mp ends with rfl | inside
        · cases blank
        · exact inside
      have second : (tail ++ more).head? = tail.head? := by
        cases tail with
        | nil => cases inside
        | cons => rfl
      rw [next?_of_plain blank notDigit notQuote] at read ⊢
      rw [second]
      by_cases comment : char = '/' ∧ tail.head? = some '/'
      · rw [if_pos comment] at read ⊢
        cases read
        have stops : ¬ ((tail.dropWhile (· ≠ '\n')).isEmpty = true) := by
          intro nothing
          have passed := List.dropWhile_eq_nil_iff.mp (List.isEmpty_iff.mp nothing) '\n' inside
          simp at passed
        rw [List.dropWhile_append, if_neg stops]
        exact ⟨rfl, List.dropWhile_suffix _⟩
      rw [if_neg comment] at read ⊢
      by_cases starts : isNameStart char = true
      · have held := (Bool.and_eq_true_iff.mp starts).1
        have name := splitName_line ends more
        rw [List.cons_append] at name
        rw [if_pos starts] at read ⊢
        cases read
        rw [name, splitName_of_isNameChar held]
        exact ⟨rfl, splitName_suffix tail⟩
      · rw [if_neg starts] at read ⊢
        cases read
        exact ⟨rfl, List.suffix_refl _⟩

/-- A plain line spells its tokens, whatever stands behind it. -/
theorem Spells.line {text rest : List Char} {tokens later : List Token} {steps : Nat}
    (plain : IsPlain text) (ends : text = [] ∨ text.getLast? = some '\n')
    (read : Source.lex steps text = some tokens) (spells : Spells rest later) :
    Spells (text ++ rest) (tokens ++ later) := by
  induction steps generalizing text tokens with
  | zero =>
      obtain ⟨rfl, rfl⟩ : text = [] ∧ [] = tokens := by simpa [Source.lex] using read
      exact spells
  | succ steps ih =>
      cases text with
      | nil =>
          cases read
          exact spells
      | cons char tail =>
          have last : (char :: tail).getLast? = some '\n' := by simpa using ends
          obtain ⟨⟨token, left⟩, first, read⟩ := Option.bind_eq_some_iff.mp read
          obtain ⟨others, read', same⟩ := Option.bind_eq_some_iff.mp read
          obtain rfl := Option.some.inj same
          obtain ⟨first', suffix⟩ := next?_line plain (List.mem_of_getLast? last) first rest
          have shorter := suffix.length_le
          rw [List.append_assoc]
          refine .step first' (by simp; omega) (ih ?_ ?_ read')
          · exact fun other among => plain other (List.mem_cons_of_mem _ (suffix.mem among))
          · rcases List.eq_nil_or_concat left with rfl | ⟨front, final, rfl⟩
            · exact .inl rfl
            · right
              obtain ⟨front', same⟩ := suffix
              have joined : char :: (front' ++ front.concat final) =
                  (char :: (front' ++ front)) ++ [final] := by simp
              rw [List.concat_eq_append]
              rw [← same, joined, List.getLast?_concat] at last
              rw [List.getLast?_concat, last]

end Schemata.Source
