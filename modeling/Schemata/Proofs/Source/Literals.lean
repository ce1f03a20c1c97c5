import Schemata.Proofs.Source.Spelling

/-!
# Spellings of literals

The text of a number is taken whole before a boundary, and an escaped text up to its closing quote.
Both stand for what they were written from.
-/

namespace Schemata.Source

open Text

/-! ## Numbers -/

/-- No text, or a point before digits. -/
def IsFraction (text : List Char) : Prop :=
  text = [] ∨ ∃ digits, digits ≠ [] ∧ (∀ char ∈ digits, Character.isDigit char = true) ∧
    text = '.' :: digits

/-- No text, or a mark and a sign before digits. -/
def IsExponent (text : List Char) : Prop :=
  text = [] ∨ ∃ sign digits, sign ∈ [[], ['-'], ['+']] ∧ digits ≠ [] ∧
    (∀ char ∈ digits, Character.isDigit char = true) ∧ text = 'e' :: (sign ++ digits)

section

variable {whole fraction exponent tail rest : List Char}

theorem head_not_isDigit (boundary : isBoundary rest = true) :
    ∀ char ∈ rest.head?, Character.isDigit char = false := by
  intro char first
  cases digit : Character.isDigit char with
  | false => rfl
  | true => exact absurd (isNameChar_of_isDigit digit) (by simp [head_of_boundary boundary _ first])

theorem splitFraction_of_head (other : ∀ char ∈ rest.head?, char ≠ '.') :
    splitFraction rest = ([], rest) := by
  unfold splitFraction
  split
  · exact absurd rfl (other '.' rfl)
  · rfl

theorem splitFraction_of_boundary (boundary : isBoundary rest = true) :
    splitFraction rest = ([], rest) := by
  unfold splitFraction
  split
  next more =>
    have none : more.takeWhile Character.isDigit = [] := by
      cases more with
      | nil => rfl
      | cons next others =>
          have other : next.isDigit = false := by
            simp only [isBoundary] at boundary
            simpa using (Bool.and_eq_true_iff.mp boundary).2
          rw [List.takeWhile_cons_of_neg (by rw [Decimal.isDigit_eq, other]; decide)]
    rw [none]
    rfl
  · rfl

theorem splitFraction_append (fractional : IsFraction fraction)
    (ends : ∀ char ∈ tail.head?, Character.isDigit char = false)
    (none : splitFraction tail = ([], tail)) :
    splitFraction (fraction ++ tail) = (fraction, tail) := by
  rcases fractional with rfl | ⟨digits, some_digits, each, rfl⟩
  · exact none
  · rw [List.cons_append, splitFraction, Decimal.takeWhile_append_of_head each ends,
      Decimal.dropWhile_append_of_head each ends]
    simp [some_digits]

theorem splitExponent_of_boundary (boundary : isBoundary rest = true) :
    splitExponent rest = ([], rest) := by
  cases rest with
  | nil => rfl
  | cons mark more =>
      have other := head_of_boundary boundary mark rfl
      have apart : ¬ (mark = 'e' ∨ mark = 'E') := by
        rintro (rfl | rfl) <;> cases other
      rw [splitExponent, if_neg fun marked => apart marked.1]

theorem splitSign_of_isDigit {char : Char} (digit : Character.isDigit char = true)
    (rest : List Char) : splitSign (char :: rest) = ([], char :: rest) := by
  unfold splitSign
  split
  next same => cases same; cases digit
  next same => cases same; cases digit
  · rfl

theorem splitSign_append {sign digits : List Char} (signs : sign ∈ [[], ['-'], ['+']])
    (some_digits : digits ≠ []) (each : ∀ char ∈ digits, Character.isDigit char = true)
    (rest : List Char) : splitSign (sign ++ (digits ++ rest)) = (sign, digits ++ rest) := by
  simp only [List.mem_cons, List.not_mem_nil, or_false] at signs
  rcases signs with rfl | rfl | rfl
  · cases digits with
    | nil => exact absurd rfl some_digits
    | cons first more => exact splitSign_of_isDigit (each first List.mem_cons_self) _
  · rfl
  · rfl

theorem splitExponent_append (exponential : IsExponent exponent)
    (boundary : isBoundary rest = true) :
    splitExponent (exponent ++ rest) = (exponent, rest) := by
  rcases exponential with rfl | ⟨sign, digits, signs, some_digits, each, rfl⟩
  · exact splitExponent_of_boundary boundary
  · have ends := head_not_isDigit boundary
    rw [List.cons_append, List.append_assoc, splitExponent,
      splitSign_append signs some_digits each, Decimal.takeWhile_append_of_head each ends,
      Decimal.dropWhile_append_of_head each ends, if_pos ⟨.inl rfl, some_digits⟩]

/-- A number is taken whole before a boundary. -/
theorem number?_append (digits : ∀ char ∈ whole, Character.isDigit char = true)
    (fractional : IsFraction fraction) (exponential : IsExponent exponent)
    (boundary : isBoundary rest = true) :
    number? (whole ++ (fraction ++ (exponent ++ rest))) =
      if fraction.isEmpty && exponent.isEmpty then some (.integer (Decimal.value whole), rest)
      else
        (Binary64.ofDecimalText? (whole ++ (fraction ++ exponent))).map fun value =>
          (.float value, rest) := by
  have tail : (∀ char ∈ (exponent ++ rest).head?, Character.isDigit char = false) ∧
      splitFraction (exponent ++ rest) = ([], exponent ++ rest) := by
    rcases exponential with rfl | ⟨sign, digits, _, _, _, rfl⟩
    · exact ⟨head_not_isDigit boundary, splitFraction_of_boundary boundary⟩
    · refine ⟨?_, splitFraction_of_head ?_⟩
      all_goals rintro _ ⟨⟩; decide
  have behind : ∀ char ∈ (fraction ++ (exponent ++ rest)).head?,
      Character.isDigit char = false := by
    rcases fractional with rfl | ⟨digits, _, _, rfl⟩
    · exact tail.1
    · rintro _ ⟨⟩
      decide
  rw [number?]
  simp only [Decimal.takeWhile_append_of_head digits behind,
    Decimal.dropWhile_append_of_head digits behind, splitFraction_append fractional tail.1 tail.2,
    splitExponent_append exponential boundary]

end

theorem covers_number {whole fraction exponent : List Char} {token : Token}
    (some_digits : whole ≠ []) (digits : ∀ char ∈ whole, Character.isDigit char = true)
    (fractional : IsFraction fraction) (exponential : IsExponent exponent)
    (read : (if fraction.isEmpty && exponent.isEmpty then some (.integer (Decimal.value whole))
      else (Binary64.ofDecimalText? (whole ++ (fraction ++ exponent))).map .float) = some token) :
    Covers (whole ++ (fraction ++ exponent)) [token] := by
  intro rest later boundary spells
  have number := number?_append digits fractional exponential boundary
  have taken : number? (whole ++ (fraction ++ (exponent ++ rest))) = some (token, rest) := by
    rw [number]
    split at read
    · rw [if_pos ‹_›]
      cases read
      rfl
    · rw [if_neg ‹_›]
      obtain ⟨value, found, rfl⟩ := Option.map_eq_some_iff.mp read
      rw [found]
      rfl
  cases whole with
  | nil => exact absurd rfl some_digits
  | cons char more =>
      have digit := digits char List.mem_cons_self
      rw [List.append_assoc, List.append_assoc]
      rw [List.cons_append] at taken ⊢
      have first : next? (char :: (more ++ (fraction ++ (exponent ++ rest)))) =
          some (some token, rest) := by
        rw [next?_of_isNameChar (isNameChar_of_isDigit digit), if_pos digit, taken]
        rfl
      exact .step first (by simp; omega) spells

theorem isDigit_of_isDigit {digits : List Char} (each : ∀ char ∈ digits, char.isDigit = true) :
    ∀ char ∈ digits, Character.isDigit char = true := by
  intro char among
  rw [Decimal.isDigit_eq]
  exact each char among

theorem isDigit_of_mem_ofNat (number : Nat) :
    ∀ char ∈ Decimal.ofNat number, Character.isDigit char = true :=
  isDigit_of_isDigit fun _ among => Decimal.isDigit_of_mem_ofNat among

/-- The digits of a natural number spell it. -/
theorem covers_ofNat (number : Nat) : Covers (Decimal.ofNat number) [.integer number] := by
  have read : (if ([] : List Char).isEmpty && ([] : List Char).isEmpty then
      some (Token.integer (Decimal.value (Decimal.ofNat number)))
        else (Binary64.ofDecimalText? (Decimal.ofNat number ++ ([] ++ []))).map .float) =
      some (.integer number) := by
    rw [Decimal.value_ofNat]
    rfl
  have all := covers_number (Decimal.ofNat_ne_nil number) (isDigit_of_mem_ofNat number) (.inl rfl)
    (.inl rfl) read
  simpa using all

/-! ## Doubles -/

theorem isExponent_exponentText (layout : Binary64.Layout) (exponent : Int) :
    IsExponent (layout.exponentText exponent) := by
  have digits := isDigit_of_mem_ofNat exponent.natAbs
  have some_digits := Decimal.ofNat_ne_nil exponent.natAbs
  right
  unfold Binary64.Layout.exponentText Decimal.ofInt
  split
  next plus =>
    refine ⟨['+'], _, by simp, some_digits, digits, ?_⟩
    rw [if_neg (by omega)]
  next =>
    split
    · exact ⟨['-'], _, by simp, some_digits, digits, rfl⟩
    · exact ⟨[], _, by simp, some_digits, digits, rfl⟩

/-- A text that falls into digits, a fraction and an exponent, not both of which are missing. -/
def IsDouble (text : List Char) : Prop :=
  ∃ whole fraction exponent, text = whole ++ (fraction ++ exponent) ∧ whole ≠ [] ∧
    (∀ char ∈ whole, Character.isDigit char = true) ∧ IsFraction fraction ∧ IsExponent exponent ∧
      ¬ (fraction = [] ∧ exponent = [])

theorem isDouble_of_fraction {whole digits : List Char} (some_whole : whole ≠ [])
    (each : ∀ char ∈ whole, char.isDigit = true) (some_digits : digits ≠ [])
    (each' : ∀ char ∈ digits, char.isDigit = true) : IsDouble (whole ++ '.' :: digits) := by
  refine ⟨whole, '.' :: digits, [], by simp, some_whole, isDigit_of_isDigit each, ?_, .inl rfl,
    by simp⟩
  exact .inr ⟨digits, some_digits, isDigit_of_isDigit each', rfl⟩

section

open Binary64.Layout

variable {digits : List Char}

theorem isDouble_positional (some_digits : digits ≠ [])
    (each : ∀ char ∈ digits, char.isDigit = true) (point : Int) :
    IsDouble (positional digits point) := by
  have zero : ∀ char ∈ ['0'], char.isDigit = true := isDigit_of_mem_zeros 1
  rcases Int.lt_or_le 0 point with behind | before
  · rcases Nat.lt_or_ge point.toNat digits.length with inside | past
    · rw [positional_of_inside behind inside]
      refine isDouble_of_fraction ?_ (fun char among => each char (List.mem_of_mem_take among)) ?_
        (fun char among => each char (List.mem_of_mem_drop among))
      · rw [ne_eq, List.take_eq_nil_iff, not_or]
        exact ⟨by omega, some_digits⟩
      · rw [ne_eq, List.drop_eq_nil_iff]
        omega
    · rw [positional_of_past behind past]
      refine isDouble_of_fraction (List.append_ne_nil_of_left_ne_nil some_digits _) ?_
        (List.cons_ne_nil _ _) zero
      exact List.forall_mem_append.mpr ⟨each, isDigit_of_mem_zeros _⟩
  · rw [positional_of_before before]
    refine isDouble_of_fraction (List.cons_ne_nil _ _) zero
      (List.append_ne_nil_of_right_ne_nil _ some_digits) ?_
    exact List.forall_mem_append.mpr ⟨isDigit_of_mem_zeros _, each⟩

theorem isDouble_scientific (layout : Binary64.Layout) (some_digits : digits ≠ [])
    (each : ∀ char ∈ digits, char.isDigit = true) (exponent : Int) :
    IsDouble (layout.scientific digits exponent) := by
  have marked : layout.exponentText exponent ≠ [] := List.cons_ne_nil _ _
  cases digits with
  | nil => exact absurd rfl some_digits
  | cons first rest =>
      obtain ⟨digit, others⟩ := List.forall_mem_cons.mp (isDigit_of_isDigit each)
      refine ⟨[first], if rest.isEmpty then [] else '.' :: rest, layout.exponentText exponent,
        by simp [scientific, exponentText], by simp, by simpa using digit, ?_,
        isExponent_exponentText layout exponent, fun missing => marked missing.2⟩
      split
      · exact .inl rfl
      next some_rest => exact .inr ⟨rest, by simpa using some_rest, others, rfl⟩

theorem isDouble_magnitude (layout : Binary64.Layout) (mantissa exponent : Nat) :
    IsDouble (layout.magnitude mantissa exponent) := by
  unfold magnitude
  dsimp only
  generalize Binary64.shortest layout.tie mantissa exponent = found
  have some_digits := Decimal.ofNat_ne_nil found.1
  have each : ∀ char ∈ Decimal.ofNat found.1, char.isDigit = true := fun _ among =>
    Decimal.isDigit_of_mem_ofNat among
  split
  · exact isDouble_positional some_digits each _
  · exact isDouble_scientific layout some_digits each _

end

theorem isDouble_toChars {value : Binary64} (finite : value.isFinite = true)
    (positive : isNegative value = false) (layout : Binary64.Layout) :
    IsDouble (value.toChars layout) := by
  cases value with
  | nan | infinite => cases finite
  | finite sign mantissa exponent canonical =>
      obtain rfl : sign = false := positive
      rw [Binary64.toChars]
      split
      next absurd => cases absurd
      rw [List.nil_append]
      split
      · have zero : ∀ char ∈ ['0'], char.isDigit = true := Binary64.Layout.isDigit_of_mem_zeros 1
        exact isDouble_of_fraction (List.cons_ne_nil _ _) zero (List.cons_ne_nil _ _) zero
      · exact isDouble_magnitude layout mantissa exponent

/-- The text of a double without a minus sign spells it. -/
theorem covers_positive (value : Binary64) (finite : value.isFinite = true)
    (positive : isNegative value = false) : Covers value.typeText.toList [.float value] := by
  rw [Binary64.typeText, String.toList_ofList]
  obtain ⟨whole, fraction, exponent, text, some_digits, digits, fractional, exponential, marked⟩ :=
    isDouble_toChars finite positive .typeText
  have read := Binary64.ofDecimalText?_toChars .typeText finite
  rw [text] at read ⊢
  refine covers_number some_digits digits fractional exponential ?_
  rw [if_neg (by simpa using marked), read]
  rfl

/-! ## Quoted texts -/

theorem hexDigit?_digitChar {digit : Nat} (below : digit < 16) :
    hexDigit? digit.digitChar = some digit ∧ digit.digitChar ≠ '\x7d' := by
  have each : ∀ digit ∈ List.range 16,
      hexDigit? digit.digitChar = some digit ∧ digit.digitChar ≠ '\x7d' := by decide
  exact each digit (List.mem_range.mpr below)

/-- A digit of a code point adds to the value of those before it. -/
theorem content?_digitChar {digit : Nat} (below : digit < 16) (value : Nat) (rest : List Char) :
    content? (.code value) (digit.digitChar :: rest) =
      content? (.code (16 * value + digit)) rest := by
  obtain ⟨read, notClosing⟩ := hexDigit?_digitChar below
  rw [content?, if_neg notClosing, read]

theorem content?_toDigits (code : Nat) (rest : List Char) :
    content? (.code 0) (Nat.toDigits 16 code ++ rest) = content? (.code code) rest := by
  induction code using Nat.strongRecOn generalizing rest with
  | ind code ih =>
      rcases Nat.lt_or_ge code 16 with below | above
      · rw [Nat.toDigits_of_lt_base below, List.singleton_append, content?_digitChar below,
          Nat.mul_zero, Nat.zero_add]
      · have smaller : code / 16 < code := Nat.div_lt_self (by omega) (by decide)
        rw [Nat.toDigits_of_base_le (by decide) above, List.append_assoc, ih _ smaller,
          List.singleton_append, content?_digitChar (Nat.mod_lt _ (by decide)), Nat.div_add_mod]

theorem charOf?_toNat (char : Char) : charOf? char.toNat = some char := by
  have valid : char.toNat.isValidChar := char.valid
  rw [charOf?, dif_pos valid]
  rfl

/-- An escaped character stands for the character. -/
theorem content?_encodeChar (char : Char) (rest : List Char) :
    content? .plain (Escaped.encodeChar char ++ rest) =
      (content? .plain rest).map fun read => (char :: read.1, read.2) := by
  unfold Escaped.encodeChar
  split
  next same => cases same; rfl
  split
  next same => cases same; rfl
  split
  next same => cases same; rfl
  split
  next same => cases same; rfl
  split
  next special =>
    rcases special with rfl | rfl <;> rfl
  next plain =>
    obtain ⟨notQuote, notBackslash⟩ := not_or.mp plain
    split
    · rw [List.singleton_append, content?, if_neg notQuote, if_neg notBackslash]
    · have opened : content? .plain (Escaped.byCode char ++ rest) =
          content? (.code 0) (Nat.toDigits 16 char.toNat ++ ('\x7d' :: rest)) := by
        simp [Escaped.byCode, content?, Escaped.quote]
      rw [opened, content?_toDigits, content?, if_pos rfl, charOf?_toNat]

theorem content?_flatMap_encodeChar (content rest : List Char) :
    content? .plain (content.flatMap Escaped.encodeChar ++ Escaped.quote :: rest) =
      some (content, rest) := by
  induction content with
  | nil => rfl
  | cons char more ih =>
      rw [List.flatMap_cons, List.append_assoc, content?_encodeChar, ih]
      rfl

/-- An escaped text spells the text. -/
theorem delimits_ofString (content : String) :
    Delimits (Escaped.ofString content).toList [.text content] where
  boundary rest := by
    rw [Escaped.ofString, String.toList_ofList, Escaped.encode, List.cons_append, List.cons_append]
    cases (content.toList.flatMap Escaped.encodeChar ++ [Escaped.quote]) ++ rest <;> rfl
  spells := by
    intro rest later spells
    have text : (Escaped.ofString content).toList ++ rest =
        Escaped.quote ::
          (content.toList.flatMap Escaped.encodeChar ++ Escaped.quote :: rest) := by
      simp [Escaped.ofString, Escaped.encode]
    have first : next? (Escaped.quote ::
        (content.toList.flatMap Escaped.encodeChar ++ Escaped.quote :: rest)) =
        some (some (.text content), rest) := by
      have visible : Character.isBlank Escaped.quote = false := by decide
      rw [next?, visible, if_neg (by decide), if_neg (fun comment => absurd comment.1 (by decide)),
        if_pos rfl, content?_flatMap_encodeChar]
      simp
    rw [text]
    exact .step first (by simp; omega) spells

end Schemata.Source
