import Mathlib.Data.List.TakeWhile
import Schemata.Proofs.Binary64.Text
import Schemata.Token.Lexer

/-!
# Numerals

The grammar of numbers in decimal, as rules about texts.  The lexer takes exactly the words of the
grammar for numbers, and the readers of integers and doubles read exactly the words of theirs.
-/

namespace Schemata

open Text

namespace Text.Decimal

/-- One or more digits. -/
structure IsDigits (text : List Char) : Prop where
  some_digits : text ≠ []
  each : ∀ char ∈ text, char.isDigit = true

/-- A text of some kind, with or without a sign in front of it. -/
inductive Signed (kind : List Char → Prop) : List Char → Prop where
  | unsigned {text : List Char} (spelled : kind text) : Signed kind text
  | plus {text : List Char} (spelled : kind text) : Signed kind ('+' :: text)
  | minus {text : List Char} (spelled : kind text) : Signed kind ('-' :: text)

/-- One or more digits with or without a sign, and the integer they spell. -/
inductive SpellsInteger : List Char → Int → Prop where
  | unsigned {digits : List Char} (spelled : IsDigits digits) :
      SpellsInteger digits (Nat.ofDigitChars 10 digits 0)
  | plus {digits : List Char} (spelled : IsDigits digits) :
      SpellsInteger ('+' :: digits) (Nat.ofDigitChars 10 digits 0)
  | minus {digits : List Char} (spelled : IsDigits digits) :
      SpellsInteger ('-' :: digits) (-(Nat.ofDigitChars 10 digits 0 : Int))

/-- Digits with a point behind them, among them or in front of them, or without one. -/
inductive IsMantissa : List Char → Prop where
  | whole {digits : List Char} (spelled : IsDigits digits) : IsMantissa digits
  | pointed {whole fraction : List Char} (spelled : IsDigits whole)
      (each : ∀ char ∈ fraction, char.isDigit = true) : IsMantissa (whole ++ '.' :: fraction)
  | fraction {digits : List Char} (spelled : IsDigits digits) : IsMantissa ('.' :: digits)

/-- An exponent of ten behind its mark, or nothing. -/
inductive IsExponent : List Char → Prop where
  | none : IsExponent []
  | some {mark : Char} {text : List Char} (marked : mark = 'e' ∨ mark = 'E')
      (spelled : Signed IsDigits text) : IsExponent (mark :: text)

/-- A mantissa and the exponent behind it. -/
inductive IsScaled : List Char → Prop where
  | intro {mantissa exponent : List Char} (digits : IsMantissa mantissa)
      (scale : IsExponent exponent) : IsScaled (mantissa ++ exponent)

/-- A number in decimal: a sign, digits with a point, and an exponent, of which only the digits have
to be there. -/
def IsNumber (text : List Char) : Prop :=
  Signed IsScaled text

variable {text digits rest : List Char} {kind : List Char → Prop}

/-! ## Signs and digits -/

/-- Where a text of some kind begins with no sign, the sign is what is split off. -/
theorem signed_iff (unsigned : ∀ text, kind text → ∀ char ∈ text.head?, char ≠ '-' ∧ char ≠ '+') :
    Signed kind text ↔ kind (splitSign text).2 := by
  constructor
  · intro signed
    cases signed with
    | unsigned spelled =>
        rw [splitSign_of_head (unsigned _ spelled)]
        exact spelled
    | plus spelled => exact spelled
    | minus spelled => exact spelled
  · intro spelled
    unfold splitSign at spelled
    split at spelled
    · exact .minus spelled
    · exact .plus spelled
    · exact .unsigned spelled

theorem all_isDigit_iff :
    text.all Character.isDigit = true ↔ ∀ char ∈ text, char.isDigit = true := by
  simp only [List.all_eq_true, isDigit_eq]

theorem isDigits_iff :
    IsDigits text ↔ text.isEmpty = false ∧ text.all Character.isDigit = true := by
  rw [List.isEmpty_eq_false_iff, all_isDigit_iff]
  constructor
  · intro spelled
    exact ⟨spelled.some_digits, spelled.each⟩
  · rintro ⟨some_digits, each⟩
    exact ⟨some_digits, each⟩

theorem IsDigits.head?_isDigit (spelled : IsDigits digits) (rest : List Char) :
    ∀ char ∈ (digits ++ rest).head?, char.isDigit = true :=
  Binary64.head_isDigit spelled.some_digits spelled.each rest

/-- A digit is none of the characters that stand between digits. -/
theorem ne_of_isDigit {char : Char} (digit : char.isDigit = true) :
    char ≠ '-' ∧ char ≠ '+' ∧ char ≠ '.' ∧ Token.isExponentMark char = false := by
  have apart {other : Char} (none : other.isDigit = false) : char ≠ other := by
    rintro rfl
    rw [none] at digit
    cases digit
  refine ⟨apart (by decide), apart (by decide), apart (by decide), ?_⟩
  rw [Token.isExponentMark, Bool.or_eq_false_iff, beq_eq_false_iff_ne, beq_eq_false_iff_ne]
  exact ⟨apart (by decide), apart (by decide)⟩

theorem IsDigits.unsigned (spelled : IsDigits digits) :
    ∀ char ∈ digits.head?, char ≠ '-' ∧ char ≠ '+' := by
  intro char first
  have here := spelled.each char (List.mem_of_mem_head? first)
  exact ⟨(ne_of_isDigit here).1, (ne_of_isDigit here).2.1⟩

theorem signed_isDigits_iff : Signed IsDigits text ↔ IsDigits (splitSign text).2 :=
  signed_iff fun _ => IsDigits.unsigned

/-! ## Integers -/

theorem natural?_eq_some_iff {magnitude : Nat} :
    natural? text = some magnitude ↔
      IsDigits text ∧ Nat.ofDigitChars 10 text 0 = magnitude := by
  have same : value text = Nat.ofDigitChars 10 text 0 := by
    rw [Nat.ofDigitChars_eq_foldl]
    rfl
  unfold natural?
  rw [isDigits_iff, same]
  cases text.isEmpty <;> cases text.all Character.isDigit <;> simp

/-- The sign of an integer belongs to the magnitude of its digits. -/
theorem integer?_eq_some_iff_natural? {integer : Int} :
    integer? text = some integer ↔ ∃ magnitude : Nat,
      natural? (splitSign text).2 = some magnitude ∧
        (if (splitSign text).1 then -(magnitude : Int) else magnitude) = integer := by
  unfold integer?
  dsimp only
  cases natural? (splitSign text).2 with
  | none => simp
  | some magnitude => simp

/-- The reader of integers reads what spells one. -/
theorem integer?_eq_some_iff {integer : Int} :
    integer? text = some integer ↔ SpellsInteger text integer := by
  simp only [integer?_eq_some_iff_natural?, natural?_eq_some_iff]
  constructor
  · rintro ⟨_, ⟨spelled, rfl⟩, rfl⟩
    unfold splitSign at spelled ⊢
    split at spelled
    · exact .minus spelled
    · exact .plus spelled
    · exact .unsigned spelled
  · intro spells
    cases spells with
    | unsigned spelled =>
        rw [splitSign_of_head spelled.unsigned]
        exact ⟨_, ⟨spelled, rfl⟩, rfl⟩
    | plus spelled => exact ⟨_, ⟨spelled, rfl⟩, rfl⟩
    | minus spelled => exact ⟨_, ⟨spelled, rfl⟩, rfl⟩

theorem signed_isDigits_iff_exists :
    Signed IsDigits text ↔ ∃ integer, SpellsInteger text integer := by
  constructor
  · intro signed
    cases signed with
    | unsigned spelled => exact ⟨_, .unsigned spelled⟩
    | plus spelled => exact ⟨_, .plus spelled⟩
    | minus spelled => exact ⟨_, .minus spelled⟩
  · rintro ⟨_, spells⟩
    cases spells with
    | unsigned spelled => exact .unsigned spelled
    | plus spelled => exact .plus spelled
    | minus spelled => exact .minus spelled

/-- The words of 64 bits are the integers between their bounds. -/
theorem toInt64?_eq_some_iff {integer : Int} {word : Int64} :
    toInt64? integer = some word ↔ integer = word.toInt := by
  constructor
  · intro found
    unfold toInt64? at found
    split at found
    next fits =>
      obtain rfl := Option.some.inj found
      rw [Int64.toInt_ofInt_of_le fits.1 (Int.lt_of_le_of_lt fits.2 (by decide))]
    next => cases found
  · rintro rfl
    exact toInt64?_toInt word

/-- The reader of words of 64 bits reads what spells an integer that fits. -/
theorem int64?_eq_some_iff {word : Int64} :
    int64? text = some word ↔ SpellsInteger text word.toInt := by
  rw [int64?, Option.bind_eq_some_iff]
  simp only [integer?_eq_some_iff, toInt64?_eq_some_iff]
  constructor
  · rintro ⟨_, spells, rfl⟩
    exact spells
  · intro spells
    exact ⟨_, spells, rfl⟩

/-- Integers are numbers without a point and without an exponent. -/
theorem SpellsInteger.isNumber {integer : Int} (spells : SpellsInteger text integer) :
    IsNumber text := by
  have scaled {digits : List Char} (spelled : IsDigits digits) : IsScaled digits := by
    have alone := IsScaled.intro (.whole spelled) .none
    rwa [List.append_nil] at alone
  cases spells with
  | unsigned spelled => exact .unsigned (scaled spelled)
  | plus spelled => exact .plus (scaled spelled)
  | minus spelled => exact .minus (scaled spelled)

/-! ## Mantissas -/

/-- A number begins with a digit or a point. -/
theorem IsScaled.head?_eq (scaled : IsScaled text) :
    ∀ char ∈ text.head?, char.isDigit = true ∨ char = '.' := by
  obtain ⟨digits, _⟩ := scaled
  intro char first
  cases digits with
  | whole spelled => exact .inl (spelled.head?_isDigit _ char first)
  | pointed spelled each =>
      rw [List.append_assoc] at first
      exact .inl (spelled.head?_isDigit _ char first)
  | fraction spelled =>
      cases first
      exact .inr rfl

theorem IsScaled.unsigned (scaled : IsScaled text) :
    ∀ char ∈ text.head?, char ≠ '-' ∧ char ≠ '+' := by
  intro char first
  rcases scaled.head?_eq char first with digit | rfl
  · exact ⟨(ne_of_isDigit digit).1, (ne_of_isDigit digit).2.1⟩
  · decide

theorem isNumber_iff : IsNumber text ↔ IsScaled (splitSign text).2 :=
  signed_iff fun _ => IsScaled.unsigned

/-- A mantissa has digits and points only. -/
theorem IsMantissa.each (mantissa : IsMantissa text) :
    ∀ char ∈ text, char.isDigit = true ∨ char = '.' := by
  cases mantissa with
  | whole spelled => exact fun char among => .inl (spelled.each char among)
  | pointed spelled each =>
      refine List.forall_mem_append.mpr ⟨?_, ?_⟩
      · exact fun char among => .inl (spelled.each char among)
      · exact List.forall_mem_cons.mpr ⟨.inr rfl, fun char among => .inl (each char among)⟩
  | fraction spelled =>
      exact List.forall_mem_cons.mpr ⟨.inr rfl, fun char among => .inl (spelled.each char among)⟩

theorem IsMantissa.isExponentMark_eq_false (mantissa : IsMantissa text) :
    ∀ char ∈ text, Token.isExponentMark char = false := by
  intro char among
  rcases mantissa.each char among with digit | rfl
  · exact (ne_of_isDigit digit).2.2.2
  · decide

def IsNumeralChar (char : Char) : Prop :=
  char.isDigit = true ∨ char ∈ ['.', 'e', 'E', '-', '+']

theorem Signed.each (held : ∀ text, kind text → ∀ char ∈ text, IsNumeralChar char)
    (signed : Signed kind text) : ∀ char ∈ text, IsNumeralChar char := by
  cases signed with
  | unsigned spelled => exact held _ spelled
  | plus spelled | minus spelled =>
      exact List.forall_mem_cons.mpr ⟨.inr (by decide), held _ spelled⟩

theorem IsExponent.each (exponent : IsExponent text) : ∀ char ∈ text, IsNumeralChar char := by
  cases exponent with
  | none => exact nofun
  | some marked spelled =>
      refine List.forall_mem_cons.mpr ⟨?_, ?_⟩
      · rcases marked with rfl | rfl <;> exact .inr (by decide)
      · exact spelled.each fun _ digits char among => .inl (digits.each char among)

theorem IsNumber.each (number : IsNumber text) : ∀ char ∈ text, IsNumeralChar char := by
  refine Signed.each ?_ number
  rintro _ ⟨mantissa, exponent⟩
  refine List.forall_mem_append.mpr ⟨?_, exponent.each⟩
  intro char among
  rcases mantissa.each char among with digit | rfl
  · exact .inl digit
  · exact .inr (by decide)

end Text.Decimal

namespace Token

open Text.Decimal

variable {text word : List Char} {kind : Char → Bool}

/-- A text in parts: all of it when it has no character of a kind, and otherwise what stands before
and behind the first one. -/
inductive SplitsInto (kind : Char → Bool) : List Char → List Char × Option (List Char) → Prop where
  | whole {text : List Char} (apart : ∀ char ∈ text, kind char = false) :
      SplitsInto kind text (text, none)
  | parts {before behind : List Char} {mark : Char} (apart : ∀ char ∈ before, kind char = false)
      (marked : kind mark = true) : SplitsInto kind (before ++ mark :: behind) (before, some behind)

theorem splitAtFirst_eq_of_splitsInto {parts : List Char × Option (List Char)}
    (splits : SplitsInto kind text parts) : splitAtFirst kind text = parts := by
  unfold splitAtFirst
  cases splits with
  | whole apart =>
      have inside : ∀ char ∈ text, (!kind char) = true := by simpa using apart
      rw [List.takeWhile_eq_self_iff.mpr inside, List.dropWhile_eq_nil_iff.mpr inside]
      rfl
  | @parts before behind mark apart marked =>
      have inside : ∀ char ∈ before, (!kind char) = true := by simpa using apart
      rw [List.takeWhile_append_of_pos inside, List.dropWhile_append_of_pos inside,
        List.takeWhile_cons_of_neg (by simpa using marked),
        List.dropWhile_cons_of_neg (by simpa using marked), List.append_nil]
      rfl

theorem splitsInto_splitAtFirst (kind : Char → Bool) (text : List Char) :
    SplitsInto kind text (splitAtFirst kind text) := by
  induction text with
  | nil => exact .whole fun _ nothing => nomatch nothing
  | cons char rest ih =>
      cases here : kind char with
      | true =>
          have splits : SplitsInto kind ([] ++ char :: rest) ([], some rest) :=
            .parts (fun _ nothing => nomatch nothing) here
          rwa [← splitAtFirst_eq_of_splitsInto splits] at splits
      | false =>
          have splits : ∃ parts, SplitsInto kind (char :: rest) parts := by
            generalize splitAtFirst kind rest = parts at ih
            cases ih with
            | whole apart => exact ⟨_, .whole (List.forall_mem_cons.mpr ⟨here, apart⟩)⟩
            | parts apart marked =>
                exact ⟨_, .parts (List.forall_mem_cons.mpr ⟨here, apart⟩) marked⟩
          obtain ⟨parts, splits⟩ := splits
          rwa [splitAtFirst_eq_of_splitsInto splits]

/-! ## What the lexer takes for a number -/

/-- The lexer finds the digits of a mantissa on both sides of the first point. -/
theorem isPointed_iff : isPointed text = true ↔ IsMantissa text := by
  constructor
  · intro pointed
    have splits := splitsInto_splitAtFirst (· == '.') text
    unfold isPointed at pointed
    generalize splitAtFirst (· == '.') text = parts at splits pointed
    simp only [Bool.and_eq_true, Bool.not_eq_true', Bool.and_eq_false_iff] at pointed
    obtain ⟨⟨each, each'⟩, some_digits⟩ := pointed
    cases splits with
    | whole apart =>
        apply IsMantissa.whole
        exact isDigits_iff.mpr ⟨some_digits.resolve_right (by simp), each⟩
    | @parts before behind mark apart marked =>
        obtain rfl := beq_iff_eq.mp marked
        cases before with
        | nil =>
            apply IsMantissa.fraction
            exact isDigits_iff.mpr ⟨some_digits.resolve_left (by simp), each'⟩
        | cons first rest =>
            apply IsMantissa.pointed
            · exact isDigits_iff.mpr ⟨rfl, each⟩
            · exact all_isDigit_iff.mp each'
  · intro mantissa
    have noPoint {digits : List Char} (each : ∀ char ∈ digits, char.isDigit = true) :
        ∀ char ∈ digits, (char == '.') = false := by
      intro char among
      exact beq_eq_false_iff_ne.mpr (ne_of_isDigit (each char among)).2.2.1
    have point : ('.' == '.') = true := beq_self_eq_true '.'
    unfold isPointed
    cases mantissa with
    | whole spelled =>
        obtain ⟨some_digits, each⟩ := isDigits_iff.mp spelled
        rw [splitAtFirst_eq_of_splitsInto (.whole (noPoint spelled.each))]
        simp [some_digits, each]
    | pointed spelled each' =>
        obtain ⟨some_digits, each⟩ := isDigits_iff.mp spelled
        rw [splitAtFirst_eq_of_splitsInto (.parts (noPoint spelled.each) point)]
        simp [some_digits, each, all_isDigit_iff.mpr each']
    | @fraction digits spelled =>
        obtain ⟨some_digits, each⟩ := isDigits_iff.mp spelled
        have parts : SplitsInto (· == '.') ([] ++ '.' :: digits) ([], some digits) :=
          .parts (fun _ nothing => nomatch nothing) point
        rw [List.nil_append] at parts
        rw [splitAtFirst_eq_of_splitsInto parts]
        simp [some_digits, each]

theorem isSignedDigits_iff : isSignedDigits text = true ↔ Signed IsDigits text := by
  rw [signed_isDigits_iff, isDigits_iff, isSignedDigits, Bool.and_eq_true, Bool.not_eq_true']

theorem isExponentMark_iff {char : Char} :
    isExponentMark char = true ↔ char = 'e' ∨ char = 'E' := by
  rw [isExponentMark, Bool.or_eq_true, beq_iff_eq, beq_iff_eq]

/-- The lexer takes the words of the grammar for numbers, and no others. -/
theorem isNumeric_iff : isNumeric word = true ↔ IsNumber word := by
  rw [isNumber_iff]
  unfold isNumeric
  generalize (splitSign word).2 = body
  rw [Bool.and_eq_true, isPointed_iff]
  constructor
  · rintro ⟨mantissa, exponent⟩
    have splits := splitsInto_splitAtFirst isExponentMark body
    generalize splitAtFirst isExponentMark body = parts at splits mantissa exponent
    cases splits with
    | whole apart =>
        have alone := IsScaled.intro mantissa .none
        rwa [List.append_nil] at alone
    | parts apart marked =>
        apply IsScaled.intro mantissa
        exact .some (isExponentMark_iff.mp marked) (isSignedDigits_iff.mp exponent)
  · rintro ⟨mantissa, exponent⟩
    have apart := mantissa.isExponentMark_eq_false
    cases exponent with
    | none =>
        rw [List.append_nil, splitAtFirst_eq_of_splitsInto (.whole apart)]
        exact ⟨mantissa, rfl⟩
    | some marked spelled =>
        rw [splitAtFirst_eq_of_splitsInto (.parts apart (isExponentMark_iff.mpr marked))]
        exact ⟨mantissa, isSignedDigits_iff.mpr spelled⟩

end Token

/-! ## What is read as a double -/

namespace Binary64

open Text.Decimal

variable {text : List Char}

/-- The exponent behind digits begins with no digit and no point. -/
theorem head?_ne_of_isExponent (exponent : IsExponent text) :
    ∀ char ∈ text.head?, char.isDigit = false ∧ char ≠ '.' := by
  cases exponent with
  | none => exact fun _ nothing => nomatch nothing
  | some marked spelled =>
      rintro _ ⟨⟩
      rcases marked with rfl | rfl
      · decide
      · decide

theorem exists_exponent?_iff : (∃ scale, exponent? text = some scale) ↔ IsExponent text := by
  constructor
  · rintro ⟨scale, read⟩
    cases text with
    | nil => exact .none
    | cons mark rest =>
        rw [exponent?, Option.ite_none_right_eq_some] at read
        obtain ⟨marked, spells⟩ := read
        apply IsExponent.some marked
        exact signed_isDigits_iff_exists.mpr ⟨scale, integer?_eq_some_iff.mp spells⟩
  · intro exponent
    cases exponent with
    | none => exact ⟨0, rfl⟩
    | some marked spelled =>
        obtain ⟨scale, spells⟩ := signed_isDigits_iff_exists.mp spelled
        refine ⟨scale, ?_⟩
        rw [exponent?, if_pos marked]
        exact integer?_eq_some_iff.mpr spells

/-- What a decimal is read from has the parts of a number behind its sign. -/
theorem isScaled_of_decimal? {decimal : Decimal} (read : decimal? text = some decimal) :
    IsScaled (splitSign text).2 := by
  unfold decimal? at read
  dsimp only at read
  generalize (splitSign text).2 = body at read ⊢
  have split := List.takeWhile_append_dropWhile (p := Character.isDigit) (l := body)
  have digits (text : List Char) :
      ∀ char ∈ text.takeWhile Character.isDigit, char.isDigit = true := by
    intro char among
    rw [← isDigit_eq]
    exact List.mem_takeWhile_imp among
  have whole := digits body
  generalize body.takeWhile Character.isDigit = before at split read whole
  split at read
  next more point =>
    rw [point] at split
    have split' := List.takeWhile_append_dropWhile (p := Character.isDigit) (l := more)
    have fraction := digits more
    generalize more.takeWhile Character.isDigit = after at split' read fraction
    rw [Option.ite_none_left_eq_some] at read
    obtain ⟨some_digits, read⟩ := read
    obtain ⟨scale, behind, -⟩ := Option.map_eq_some_iff.mp read
    have exponent := exists_exponent?_iff.mp ⟨scale, behind⟩
    rw [← split, ← split']
    cases before with
    | nil =>
        have pointed := IsMantissa.fraction ⟨by simpa using some_digits, fraction⟩
        rw [List.nil_append, ← List.cons_append]
        exact .intro pointed exponent
    | cons first rest =>
        have pointed := IsMantissa.pointed ⟨List.cons_ne_nil first rest, whole⟩ fraction
        have scaled := IsScaled.intro pointed exponent
        rwa [List.append_assoc] at scaled
  next =>
    rw [Option.ite_none_left_eq_some] at read
    obtain ⟨some_digits, read⟩ := read
    obtain ⟨scale, behind, -⟩ := Option.map_eq_some_iff.mp read
    rw [← split]
    apply IsScaled.intro
    · exact .whole ⟨by simpa using some_digits, whole⟩
    · exact exists_exponent?_iff.mp ⟨scale, behind⟩

/-- Every number is read as a decimal. -/
theorem exists_decimal?_of_isScaled (scaled : IsScaled (splitSign text).2) :
    ∃ decimal, decimal? text = some decimal := by
  obtain ⟨negative, body⟩ : ∃ negative, splitSign text = (negative, (splitSign text).2) := ⟨_, rfl⟩
  generalize (splitSign text).2 = unsigned at scaled body
  obtain ⟨mantissa, exponent⟩ := scaled
  obtain ⟨scale, read⟩ := exists_exponent?_iff.mpr exponent
  have ends := head?_ne_of_isExponent exponent
  have ends' := fun char first => (ends char first).1
  cases mantissa with
  | whole spelled =>
      exact ⟨_, decimal?_of_digits body spelled.some_digits spelled.each ends read⟩
  | pointed spelled each =>
      rw [List.append_assoc] at body
      exact ⟨_, decimal?_of_point body (.inl spelled.some_digits) spelled.each each ends' read⟩
  | fraction spelled =>
      have whole : ∀ char ∈ [], Char.isDigit char = true := nofun
      exact ⟨_, decimal?_of_point body (.inr spelled.some_digits) whole spelled.each ends' read⟩

theorem exists_decimal?_iff : (∃ decimal, decimal? text = some decimal) ↔ IsNumber text := by
  rw [isNumber_iff]
  constructor
  · rintro ⟨_, read⟩
    exact isScaled_of_decimal? read
  · exact exists_decimal?_of_isScaled

/-- The doubles are read from the numbers. -/
theorem exists_ofDecimalText?_iff :
    (∃ value, ofDecimalText? text = some value) ↔ IsNumber text := by
  rw [← exists_decimal?_iff]
  unfold ofDecimalText?
  cases decimal? text <;> simp

theorem toLower_of_isDigit {char : Char} (digit : char.isDigit = true) : char.toLower = char := by
  simp only [Char.isDigit, Bool.and_eq_true, decide_eq_true_eq] at digit
  unfold Char.toLower
  rw [dif_neg]
  rintro ⟨upper, -⟩
  exact absurd (UInt32.le_trans upper digit.2) (by decide)

/-- No number is the word for an infinity or for not a number. -/
theorem ofText?_of_isNumber (number : IsNumber text) : ofText? text = ofDecimalText? text := by
  have body := (isNumber_iff.mp number).head?_eq
  have other {word : List Char} (letter : 'i' ∈ word.head? ∨ 'n' ∈ word.head?) :
      lowered (splitSign text).2 ≠ word := by
    rintro rfl
    simp only [lowered, List.head?_map, Option.mem_def, Option.map_eq_some_iff] at letter
    have apart (char : Char) (first : (splitSign text).2.head? = some char) :
        char.toLower ≠ 'i' ∧ char.toLower ≠ 'n' := by
      rcases body char first with digit | rfl
      · rw [toLower_of_isDigit digit]
        constructor <;> rintro rfl <;> exact absurd digit (by decide)
      · decide
    rcases letter with ⟨char, first, same⟩ | ⟨char, first, same⟩
    · exact (apart char first).1 same
    · exact (apart char first).2 same
  have infinite : lowered (splitSign text).2 ≠ "inf".toList ∧
      lowered (splitSign text).2 ≠ "infinity".toList := ⟨other (.inl rfl), other (.inl rfl)⟩
  have no_number : lowered (splitSign text).2 ≠ "nan".toList := other (.inr rfl)
  unfold ofText?
  dsimp only
  rw [if_neg (not_or.mpr infinite), if_neg no_number]

end Binary64

/-! ## Words -/

namespace Token

open Text.Decimal

/-- A word is a boolean, an integer, a double or an identifier, the first of these it is read as. -/
theorem ofWord_eq (word : List Char) :
    ofWord word = if word = "true".toList then .bool true
      else if word = "false".toList then .bool false
      else
        match Decimal.int64? word with
        | some value => .integer value
        | none =>
            match Binary64.ofDecimalText? word with
            | some value => .float value
            | none => .word (String.ofList word) := by
  unfold ofWord
  by_cases number : IsNumber word
  · rw [Binary64.ofText?_of_isNumber number]
    exact if_congr .rfl rfl (if_congr .rfl rfl (if_pos (isNumeric_iff.mpr number)))
  · have no_integer : Decimal.int64? word = none := by
      rw [Option.eq_none_iff_forall_ne_some]
      intro value read
      exact number (int64?_eq_some_iff.mp read).isNumber
    have no_double : Binary64.ofDecimalText? word = none := by
      rw [Option.eq_none_iff_forall_ne_some]
      intro value read
      exact number (Binary64.exists_ofDecimalText?_iff.mp ⟨value, read⟩)
    rw [if_neg (isNumeric_iff.not.mpr number), no_integer, no_double]

end Token

end Schemata
