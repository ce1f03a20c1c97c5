import Schemata.Proofs.Source.Lexer

/-!
# Terms of a module

The calls that a module spells, before they mean anything, and the reader that finds them in its
tokens.  The reader gives back every term from the tokens of the term.
-/

namespace Schemata.Source

/-- A nesting of calls. -/
inductive Term where
  | path (name : String)
  | integer (value : Int)
  | float (value : Binary64)
  | text (content : String)
  | pair (first second : Term)
  | array (items : List Term)
  /-- A vector of items. -/
  | vector (items : List Term)
  | call (function : String) (arguments : List Term)
  | record (name : String) (fields : List (String × Term))
  | method (receiver : Term) (name : String) (arguments : List Term)
  /-- A term before the mark that passes a failure on. -/
  | tried (inner : Term)

/-! ## Reading -/

/-- A reader takes what some tokens begin with, and leaves what follows it. -/
abbrev Reader (α : Type) := List Token → Option (α × List Token)

/-- Items up to a closing mark, with commas between them. -/
def listed? {α : Type} (item? : Reader α) (closing : Char) : Nat → Reader (List α)
  | 0, _ => none
  | turns + 1, tokens =>
      if tokens.head? = some (.mark closing) then some ([], tokens.tail)
      else do
        let (first, rest) ← item? tokens
        if rest.head? = some (.mark ',') then do
          let (others, rest) ← listed? item? closing turns rest.tail
          return (first :: others, rest)
        else if rest.head? = some (.mark closing) then return ([first], rest.tail)
        else none

def negative? : Reader Term
  | .integer value :: rest => some (.integer (-value), rest)
  | .float value :: rest => some (.float (negated value), rest)
  | _ => none

def member? : Reader String
  | .name name :: .mark char :: rest => if char = '(' then some (name, rest) else none
  | _ => none

def field? (term? : Reader Term) : Reader (String × Term)
  | .name name :: .mark char :: rest =>
      if char = ':' then (term? rest).map fun read => ((name, read.1), read.2) else none
  | _ => none

mutual

/-- The term that some tokens begin with.  Every turn takes a token at least. -/
def term? : Nat → Reader Term
  | 0, _ => none
  | _ + 1, [] => none
  | turns + 1, .integer value :: rest => suffixed? turns (.integer value) rest
  | turns + 1, .float value :: rest => suffixed? turns (.float value) rest
  | turns + 1, .text content :: rest => suffixed? turns (.text content) rest
  | turns + 1, .name name :: rest =>
      if rest.head? = some (.mark '(') then do
        let (arguments, rest) ← listed? (term? turns) ')' turns rest.tail
        suffixed? turns (.call name arguments) rest
      else if rest.head? = some (.mark '\x7b') then do
        let (fields, rest) ← listed? (field? (term? turns)) '\x7d' turns rest.tail
        suffixed? turns (.record name fields) rest
      else if name = "vec" ∧ rest.take 2 = [.mark '!', .mark '['] then do
        let (items, rest) ← listed? (term? turns) ']' turns (rest.drop 2)
        suffixed? turns (.vector items) rest
      else suffixed? turns (.path name) rest
  | turns + 1, .mark char :: rest =>
      if char = '-' then do
        let (number, rest) ← negative? rest
        suffixed? turns number rest
      else if char = '(' then do
        let (items, rest) ← listed? (term? turns) ')' turns rest
        match items with
        | [first, second] => suffixed? turns (.pair first second) rest
        | _ => none
      else if char = '[' then do
        let (items, rest) ← listed? (term? turns) ']' turns rest
        suffixed? turns (.array items) rest
      else none

/-- A term with the methods and the failure marks behind it. -/
def suffixed? : Nat → Term → Reader Term
  | 0, _, _ => none
  | turns + 1, term, .mark char :: rest =>
      if char = '?' then suffixed? turns (.tried term) rest
      else if char = '.' then do
        let (name, rest) ← member? rest
        let (arguments, rest) ← listed? (term? turns) ')' turns rest
        suffixed? turns (.method term name arguments) rest
      else some (term, .mark char :: rest)
  | _ + 1, term, rest => some (term, rest)

end

/-! ## One turn -/

section

variable {turns : Nat} {rest : List Token}

theorem term?_name (name : String) :
    term? (turns + 1) (.name name :: rest) =
      if rest.head? = some (.mark '(') then
        (listed? (term? turns) ')' turns rest.tail).bind fun read =>
          suffixed? turns (.call name read.1) read.2
      else if rest.head? = some (.mark '\x7b') then
        (listed? (field? (term? turns)) '\x7d' turns rest.tail).bind fun read =>
          suffixed? turns (.record name read.1) read.2
      else if name = "vec" ∧ rest.take 2 = [.mark '!', .mark '['] then
        (listed? (term? turns) ']' turns (rest.drop 2)).bind fun read =>
          suffixed? turns (.vector read.1) read.2
      else suffixed? turns (.path name) rest := rfl

theorem term?_minus :
    term? (turns + 1) (.mark '-' :: rest) =
      (negative? rest).bind fun read => suffixed? turns read.1 read.2 := rfl

theorem term?_round {first second : Term} {more : List Token}
    (read : listed? (term? turns) ')' turns rest = some ([first, second], more)) :
    term? (turns + 1) (.mark '(' :: rest) = suffixed? turns (.pair first second) more := by
  change (listed? (term? turns) ')' turns rest).bind _ = _
  rw [read]
  rfl

theorem term?_square :
    term? (turns + 1) (.mark '[' :: rest) =
      (listed? (term? turns) ']' turns rest).bind fun read =>
        suffixed? turns (.array read.1) read.2 := rfl

theorem suffixed?_tried (term : Term) :
    suffixed? (turns + 1) term (.mark '?' :: rest) = suffixed? turns (.tried term) rest := rfl

theorem suffixed?_member (term : Term) (name : String) :
    suffixed? (turns + 1) term (.mark '.' :: .name name :: .mark '(' :: rest) =
      (listed? (term? turns) ')' turns rest).bind fun read =>
        suffixed? turns (.method term name read.1) read.2 := rfl

theorem suffixed?_mark {char : Char} (term : Term) (notTried : char ≠ '?')
    (notMember : char ≠ '.') :
    suffixed? (turns + 1) term (.mark char :: rest) = some (term, .mark char :: rest) :=
  (if_neg notTried).trans (if_neg notMember)

end

/-! ## The tokens of a term -/

/-- Runs of tokens with commas between them. -/
def separated (runs : List (List Token)) : List Token :=
  [.mark ','].intercalate runs

mutual

def Term.tokens : Term → List Token
  | .path name => [.name name]
  | .integer value =>
      if value < 0 then [.mark '-', .integer value.natAbs] else [.integer value.natAbs]
  | .float value =>
      if isNegative value then [.mark '-', .float (negated value)] else [.float value]
  | .text content => [.text content]
  | .pair first second => .mark '(' :: (first.tokens ++ .mark ',' :: (second.tokens ++ [.mark ')']))
  | .array items => .mark '[' :: (separated (runs items) ++ [.mark ']'])
  | .vector items =>
      .name "vec" :: .mark '!' :: .mark '[' :: (separated (runs items) ++ [.mark ']'])
  | .call function arguments =>
      .name function :: .mark '(' :: (separated (runs arguments) ++ [.mark ')'])
  | .record name fields =>
      .name name :: .mark '\x7b' :: (separated (fieldRuns fields) ++ [.mark '\x7d'])
  | .method receiver name arguments =>
      receiver.tokens ++ (.mark '.' :: .name name :: .mark '(' ::
        (separated (runs arguments) ++ [.mark ')']))
  | .tried inner => inner.tokens ++ [.mark '?']

def runs : List Term → List (List Token)
  | [] => []
  | term :: rest => term.tokens :: runs rest

def fieldRuns : List (String × Term) → List (List Token)
  | [] => []
  | (name, term) :: rest => (.name name :: .mark ':' :: term.tokens) :: fieldRuns rest

end

attribute [simp] Term.tokens runs fieldRuns

theorem runs_eq_map (terms : List Term) : runs terms = terms.map Term.tokens := by
  induction terms with
  | nil => rfl
  | cons term rest ih => exact congrArg (term.tokens :: ·) ih

def fieldTokens (field : String × Term) : List Token :=
  .name field.1 :: .mark ':' :: field.2.tokens

theorem fieldRuns_eq_map (fields : List (String × Term)) :
    fieldRuns fields = fields.map fieldTokens := by
  induction fields with
  | nil => rfl
  | cons field rest ih => exact congrArg (fieldTokens field :: ·) ih

/-! ## Reading terms back -/

/-- Marks that a name goes on with. -/
def nameMarks : List Char :=
  ['(', '\x7b', '!']

/-- Marks that a term goes on with. -/
def termMarks : List Char :=
  nameMarks ++ ['.', '?']

/-- Tokens that begin with none of some marks. -/
def Lacks (marks : List Char) (rest : List Token) : Prop :=
  ∀ char, rest.head? = some (.mark char) → char ∉ marks

theorem lacks_mark {marks : List Char} {char : Char} (other : char ∉ marks) (rest : List Token) :
    Lacks marks (.mark char :: rest) := by
  rintro _ ⟨⟩
  exact other

theorem Lacks.of_termMarks {rest : List Token} (lacks : Lacks termMarks rest) :
    Lacks nameMarks rest :=
  fun char first => fun among => lacks char first (List.mem_append_left _ among)

section

variable {α : Type} {item? : Reader α} {closing : Char} {tokensOf : α → List Token}

/-- Items are read back from runs of tokens that are read back one by one. -/
theorem listed?_separated {bound turns : Nat} {items : List α} {rest : List Token}
    (closes : closing ∉ termMarks ∧ closing ≠ ',')
    (opens : ∀ item ∈ items, ∀ rest, (tokensOf item ++ rest).head? ≠ some (.mark closing))
    (each : ∀ item ∈ items, ∀ rest, Lacks termMarks rest → (tokensOf item ++ rest).length < bound →
      item? (tokensOf item ++ rest) = some (item, rest))
    (short : (separated (items.map tokensOf) ++ .mark closing :: rest).length < bound)
    (enough : (separated (items.map tokensOf) ++ .mark closing :: rest).length < turns) :
    listed? item? closing turns (separated (items.map tokensOf) ++ .mark closing :: rest) =
      some (items, rest) := by
  induction items generalizing turns with
  | nil =>
      cases turns with
      | zero => exact absurd enough (Nat.not_lt_zero _)
      | succ turns => exact if_pos rfl
  | cons item others ih =>
      obtain ⟨opensHere, opensLater⟩ := List.forall_mem_cons.mp opens
      obtain ⟨here, later⟩ := List.forall_mem_cons.mp each
      cases turns with
      | zero => exact absurd enough (Nat.not_lt_zero _)
      | succ turns =>
          cases others with
          | nil =>
              have alone : separated ([item].map tokensOf) = tokensOf item := by
                simp [separated]
              rw [alone] at short enough ⊢
              rw [listed?, if_neg (opensHere _), here _ (lacks_mark closes.1 rest) short]
              simp [closes.2]
          | cons second others =>
              have joined : separated ((item :: second :: others).map tokensOf) =
                  tokensOf item ++ .mark ',' :: separated ((second :: others).map tokensOf) := by
                simp [separated]
              rw [joined, List.append_assoc, List.cons_append] at short enough ⊢
              have apart : ',' ∉ termMarks := by decide
              have comma := lacks_mark apart
                (separated ((second :: others).map tokensOf) ++ .mark closing :: rest)
              have fewer : listed? item? closing turns
                  (separated ((second :: others).map tokensOf) ++ .mark closing :: rest) =
                    some (second :: others, rest) :=
                ih opensLater later
                  (by simp only [List.length_append, List.length_cons] at short ⊢; omega)
                  (by simp only [List.length_append, List.length_cons] at enough ⊢; omega)
              rw [listed?, if_neg (opensHere _), here _ comma short]
              simp only [Option.bind_eq_bind, Option.bind_some, List.head?_cons, if_true,
                List.tail_cons, fewer]
              rfl

end

def closingMarks : List Char :=
  [')', ']', '\x7d']

theorem mem_closingMarks {closing : Char} (closes : closing ∈ closingMarks) :
    closing = ')' ∨ closing = ']' ∨ closing = '\x7d' := by
  simpa [closingMarks] using closes

theorem closes_of_closingMarks {closing : Char} (closes : closing ∈ closingMarks) :
    closing ∉ termMarks ∧ closing ≠ ',' := by
  obtain rfl | rfl | rfl := mem_closingMarks closes
  all_goals decide

/-- No term begins with a closing mark. -/
theorem head_tokens_ne {closing : Char} (closes : closing ∈ closingMarks) (term : Term)
    (rest : List Token) : (term.tokens ++ rest).head? ≠ some (.mark closing) := by
  have apart : closing ≠ '-' ∧ closing ≠ '(' ∧ closing ≠ '[' := by
    obtain rfl | rfl | rfl := mem_closingMarks closes
    all_goals decide
  match term with
  | .path _ | .text _ | .vector _ | .call .. | .record .. => simp
  | .pair .. | .array _ => simp [Ne.symm apart.2.1, Ne.symm apart.2.2]
  | .integer value =>
      rw [Term.tokens]
      split <;> simp [Ne.symm apart.1]
  | .float value =>
      rw [Term.tokens]
      split <;> simp [Ne.symm apart.1]
  | .method receiver name arguments =>
      rw [Term.tokens, List.append_assoc]
      exact head_tokens_ne closes receiver _
  | .tried inner =>
      rw [Term.tokens, List.append_assoc]
      exact head_tokens_ne closes inner _

/-- A term is read from its tokens, and then what stands behind it is read. -/
def Reads (term : Term) : Prop :=
  ∀ ⦃turns rest⦄, Lacks nameMarks rest → (term.tokens ++ rest).length < turns →
    ∃ left, rest.length < left ∧ term? turns (term.tokens ++ rest) = suffixed? left term rest

section

variable {term : Term} {turns : Nat} {rest : List Token}

theorem suffixed?_of_lacks (lacks : Lacks termMarks rest) (some_turns : 0 < turns) :
    suffixed? turns term rest = some (term, rest) := by
  cases turns with
  | zero => exact absurd some_turns (Nat.lt_irrefl _)
  | succ turns =>
      cases rest with
      | nil => rfl
      | cons token more =>
          cases token with
          | mark char =>
              have other := lacks char rfl
              have notTried : char ≠ '?' := by
                rintro rfl
                exact other (by decide)
              have notMember : char ≠ '.' := by
                rintro rfl
                exact other (by decide)
              exact suffixed?_mark term notTried notMember
          | name | integer | float | text => rfl

/-- Where nothing goes on with a term, it is read whole. -/
theorem Reads.whole (reads : Reads term) (lacks : Lacks termMarks rest)
    (enough : (term.tokens ++ rest).length < turns) :
    term? turns (term.tokens ++ rest) = some (term, rest) := by
  obtain ⟨left, some_turns, read⟩ := reads lacks.of_termMarks enough
  rw [read]
  exact suffixed?_of_lacks lacks (by omega)

theorem listed?_terms {items : List Term} (each : ∀ item ∈ items, Reads item) {closing : Char}
    (closes : closing ∈ closingMarks)
    (enough : (separated (runs items) ++ .mark closing :: rest).length < turns) :
    listed? (term? turns) closing turns (separated (runs items) ++ .mark closing :: rest) =
      some (items, rest) := by
  rw [runs_eq_map] at enough ⊢
  refine listed?_separated (closes_of_closingMarks closes) ?_ ?_ enough enough
  · exact fun item _ rest => head_tokens_ne closes item rest
  · exact fun item among rest lacks short => (each item among).whole lacks short

theorem listed?_fields {fields : List (String × Term)}
    (each : ∀ field ∈ fields, Reads field.2)
    (enough : (separated (fieldRuns fields) ++ .mark '\x7d' :: rest).length < turns) :
    listed? (field? (term? turns)) '\x7d' turns
      (separated (fieldRuns fields) ++ .mark '\x7d' :: rest) = some (fields, rest) := by
  rw [fieldRuns_eq_map] at enough ⊢
  refine listed?_separated (closes_of_closingMarks (by decide)) ?_ ?_ enough enough
  · exact fun field _ rest => by simp [fieldTokens]
  · intro field among rest lacks short
    have inside : (field.2.tokens ++ rest).length < turns := by
      simp only [fieldTokens, List.cons_append, List.length_cons] at short
      omega
    simp only [fieldTokens, List.cons_append, field?, if_true]
    rw [(each field among).whole lacks inside]
    rfl

end

/-! ## One lemma for each term -/

/-- The first turn of a reader takes the first token of a term. -/
theorem Reads.of_turn {term : Term}
    (turn : ∀ turns rest, Lacks nameMarks rest → (term.tokens ++ rest).length ≤ turns →
      ∃ left, rest.length < left ∧
        term? (turns + 1) (term.tokens ++ rest) = suffixed? left term rest) : Reads term := by
  intro turns rest lacks enough
  cases turns with
  | zero => exact absurd enough (Nat.not_lt_zero _)
  | succ turns => exact turn turns rest lacks (Nat.le_of_lt_succ enough)

theorem reads_path (name : String) : Reads (.path name) := by
  refine .of_turn fun turns rest lacks enough => ⟨turns, enough, ?_⟩
  have notCall : rest.head? ≠ some (.mark '(') := fun first => lacks _ first (by decide)
  have notRecord : rest.head? ≠ some (.mark '\x7b') := fun first => lacks _ first (by decide)
  have notVector : ¬ (name = "vec" ∧ rest.take 2 = [.mark '!', .mark '[']) := by
    rintro ⟨_, taken⟩
    cases rest with
    | nil => cases taken
    | cons first more =>
        obtain ⟨rfl, _⟩ := List.cons_eq_cons.mp taken
        exact lacks _ rfl (by decide)
  rw [Term.tokens, List.singleton_append, term?_name, if_neg notCall, if_neg notRecord,
    if_neg notVector]

theorem reads_text (content : String) : Reads (.text content) :=
  .of_turn fun turns _ _ enough => ⟨turns, enough, rfl⟩

theorem reads_integer (value : Int) : Reads (.integer value) := by
  refine .of_turn fun turns rest _ enough => ⟨turns, ?_, ?_⟩
  · rw [Term.tokens] at enough
    split at enough <;> simp at enough <;> omega
  · rw [Term.tokens]
    split
    next negative =>
      have same : -(value.natAbs : Int) = value := by omega
      rw [List.cons_append, List.singleton_append, term?_minus, negative?, same]
      rfl
    next positive =>
      have same : (value.natAbs : Int) = value := by omega
      exact congrArg (fun value => suffixed? turns (.integer value) rest) same

theorem negated_negated (value : Binary64) : negated (negated value) = value := by
  cases value <;> simp [negated]

theorem reads_float (value : Binary64) : Reads (.float value) := by
  refine .of_turn fun turns rest _ enough => ⟨turns, ?_, ?_⟩
  · rw [Term.tokens] at enough
    split at enough <;> simp at enough <;> omega
  · rw [Term.tokens]
    split
    · rw [List.cons_append, List.singleton_append, term?_minus, negative?, negated_negated]
      rfl
    · rfl

section

variable {items : List Term}

theorem reads_array (each : ∀ item ∈ items, Reads item) : Reads (.array items) := by
  refine .of_turn fun turns rest _ enough => ⟨turns, ?_, ?_⟩
  all_goals simp only [Term.tokens, List.cons_append, List.append_assoc, List.nil_append,
    List.length_cons, List.length_append] at enough ⊢
  · omega
  · rw [term?_square, listed?_terms each (by decide) (by simp; omega)]
    rfl

theorem reads_vector (each : ∀ item ∈ items, Reads item) : Reads (.vector items) := by
  refine .of_turn fun turns rest _ enough => ⟨turns, ?_, ?_⟩
  all_goals simp only [Term.tokens, List.cons_append, List.append_assoc, List.nil_append,
    List.length_cons, List.length_append] at enough ⊢
  · omega
  · rw [term?_name, if_neg (by simp), if_neg (by simp), if_pos (by simp), List.drop_succ_cons,
      List.drop_succ_cons, List.drop_zero, listed?_terms each (by decide) (by simp; omega)]
    rfl

theorem reads_call (function : String) (each : ∀ item ∈ items, Reads item) :
    Reads (.call function items) := by
  refine .of_turn fun turns rest _ enough => ⟨turns, ?_, ?_⟩
  all_goals simp only [Term.tokens, List.cons_append, List.append_assoc, List.nil_append,
    List.length_cons, List.length_append] at enough ⊢
  · omega
  · rw [term?_name, if_pos (by simp), List.tail_cons,
      listed?_terms each (by decide) (by simp; omega)]
    rfl

theorem reads_record (name : String) {fields : List (String × Term)}
    (each : ∀ field ∈ fields, Reads field.2) : Reads (.record name fields) := by
  refine .of_turn fun turns rest _ enough => ⟨turns, ?_, ?_⟩
  all_goals simp only [Term.tokens, List.cons_append, List.append_assoc, List.nil_append,
    List.length_cons, List.length_append] at enough ⊢
  · omega
  · rw [term?_name, if_neg (by simp), if_pos (by simp), List.tail_cons,
      listed?_fields each (by simp; omega)]
    rfl

theorem reads_pair {first second : Term} (one : Reads first) (other : Reads second) :
    Reads (.pair first second) := by
  refine .of_turn fun turns rest _ enough => ⟨turns, ?_, ?_⟩
  all_goals simp only [Term.tokens, List.cons_append, List.append_assoc, List.nil_append,
    List.length_cons, List.length_append] at enough ⊢
  · omega
  · have both : listed? (term? turns) ')' turns
        (separated (runs [first, second]) ++ .mark ')' :: rest) = some ([first, second], rest) :=
      listed?_terms (by simp [one, other]) (by decide) (by simp [separated]; omega)
    simp only [separated, runs, List.intercalate_cons_cons, List.intercalate_singleton,
      List.append_assoc, List.cons_append, List.nil_append] at both
    exact term?_round both

theorem reads_method {receiver : Term} (name : String) (reads : Reads receiver)
    (each : ∀ item ∈ items, Reads item) : Reads (.method receiver name items) := by
  intro turns rest _ enough
  simp only [Term.tokens, List.append_assoc, List.cons_append, List.nil_append] at enough ⊢
  obtain ⟨left, some_turns, read⟩ := reads (lacks_mark (by decide) _) enough
  rw [read]
  cases left with
  | zero => exact absurd some_turns (Nat.not_lt_zero _)
  | succ left =>
      simp only [List.length_cons, List.length_append] at some_turns
      refine ⟨left, by omega, ?_⟩
      have inside : listed? (term? left) ')' left (separated (runs items) ++ .mark ')' :: rest) =
          some (items, rest) := listed?_terms each (by decide) (by simp; omega)
      rw [suffixed?_member, inside]
      rfl

theorem reads_tried {inner : Term} (reads : Reads inner) : Reads (.tried inner) := by
  intro turns rest _ enough
  simp only [Term.tokens, List.append_assoc, List.cons_append, List.nil_append] at enough ⊢
  obtain ⟨left, some_turns, read⟩ := reads (lacks_mark (by decide) _) enough
  rw [read]
  cases left with
  | zero => exact absurd some_turns (Nat.not_lt_zero _)
  | succ left =>
      simp only [List.length_cons] at some_turns
      exact ⟨left, by omega, suffixed?_tried inner⟩

end

mutual

/-- Every term is read back from its tokens. -/
theorem reads_term : (term : Term) → Reads term
  | .path name => reads_path name
  | .integer value => reads_integer value
  | .float value => reads_float value
  | .text content => reads_text content
  | .pair first second => reads_pair (reads_term first) (reads_term second)
  | .array items => reads_array (reads_terms items)
  | .vector items => reads_vector (reads_terms items)
  | .call function arguments => reads_call function (reads_terms arguments)
  | .record name fields => reads_record name (reads_fields fields)
  | .method receiver name arguments =>
      reads_method name (reads_term receiver) (reads_terms arguments)
  | .tried inner => reads_tried (reads_term inner)

theorem reads_terms : (items : List Term) → ∀ item ∈ items, Reads item
  | [] => fun _ nothing => nomatch nothing
  | term :: rest => List.forall_mem_cons.mpr ⟨reads_term term, reads_terms rest⟩

theorem reads_fields : (fields : List (String × Term)) → ∀ field ∈ fields, Reads field.2
  | [] => fun _ nothing => nomatch nothing
  | (_, term) :: rest => List.forall_mem_cons.mpr ⟨reads_term term, reads_fields rest⟩

end

end Schemata.Source
