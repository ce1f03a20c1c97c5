import Schemata.Binary64.Reader
import Schemata.Text.Escaped

/-!
# Tokens of a module

The text of a module is cut into names, numbers, quoted texts and marks.  A name is taken together
with the path before it, a number with its fraction and its exponent, and blanks and comments
separate tokens without being any.
-/

namespace Schemata.Source

open Text

inductive Token where
  /-- A name behind its path. -/
  | name (path : String)
  | integer (value : Nat)
  | float (value : Binary64)
  | text (content : String)
  /-- Any other character. -/
  | mark (char : Char)
  deriving DecidableEq

/-! ## Names -/

def isNameChar (char : Char) : Bool :=
  char.isAlphanum || char == '_'

def isNameStart (char : Char) : Bool :=
  isNameChar char && !Character.isDigit char

/-- The name a text begins with, double colons included, and what follows it. -/
def splitName : List Char → List Char × List Char
  | ':' :: ':' :: rest => ((splitName rest).map (':' :: ':' :: ·) id)
  | char :: rest =>
      if isNameChar char then (splitName rest).map (char :: ·) id else ([], char :: rest)
  | [] => ([], [])

/-! ## Numbers -/

def splitFraction : List Char → List Char × List Char
  | '.' :: rest =>
      let digits := rest.takeWhile Character.isDigit
      if digits.isEmpty then ([], '.' :: rest)
      else ('.' :: digits, rest.dropWhile Character.isDigit)
  | text => ([], text)

def splitSign : List Char → List Char × List Char
  | '-' :: rest => (['-'], rest)
  | '+' :: rest => (['+'], rest)
  | text => ([], text)

def splitExponent : List Char → List Char × List Char
  | [] => ([], [])
  | mark :: rest =>
      let signed := splitSign rest
      let digits := signed.2.takeWhile Character.isDigit
      if (mark = 'e' ∨ mark = 'E') ∧ digits ≠ [] then
        (mark :: (signed.1 ++ digits), signed.2.dropWhile Character.isDigit)
      else ([], mark :: rest)

/-- The number a text begins with, and what follows it.  A number with a fraction or an exponent is
a double. -/
def number? (text : List Char) : Option (Token × List Char) :=
  let whole := text.takeWhile Character.isDigit
  let fraction := splitFraction (text.dropWhile Character.isDigit)
  let exponent := splitExponent fraction.2
  if fraction.1.isEmpty && exponent.1.isEmpty then
    some (.integer (Decimal.value whole), exponent.2)
  else
    (Binary64.ofDecimalText? (whole ++ (fraction.1 ++ exponent.1))).map fun value =>
      (.float value, exponent.2)

def negated : Binary64 → Binary64
  | .nan => .nan
  | .infinite negative => .infinite !negative
  | .finite negative mantissa exponent canonical =>
      .finite (!negative) mantissa exponent canonical

def isNegative : Binary64 → Bool
  | .nan => false
  | .infinite negative => negative
  | .finite negative .. => negative

/-! ## Quoted texts -/

/-- The character that stands behind a backslash for another one. -/
def escaped? : Char → Option Char
  | '0' => some '\x00'
  | 't' => some '\t'
  | 'r' => some '\r'
  | 'n' => some '\n'
  | '\\' => some '\\'
  | '\x22' => some '\x22'
  | '\x27' => some '\x27'
  | _ => none

def hexDigit? (char : Char) : Option Nat :=
  let code := char.toNat
  if 0x30 ≤ code ∧ code ≤ 0x39 then some (code - 0x30)
  else if 0x61 ≤ code ∧ code ≤ 0x66 then some (code - 0x61 + 10)
  else if 0x41 ≤ code ∧ code ≤ 0x46 then some (code - 0x41 + 10)
  else none

def charOf? (code : Nat) : Option Char :=
  if valid : code.isValidChar then some (Char.ofNatAux code valid) else none

/-- Where in a quoted text its reader stands. -/
inductive Place where
  | plain
  | escape
  | brace
  /-- Among the digits of a code point, which have a value so far. -/
  | code (value : Nat)

/-- The content of a quoted text whose opening quote has been read, and what follows it. -/
def content? : Place → List Char → Option (List Char × List Char)
  | _, [] => none
  | .plain, char :: rest =>
      if char = Escaped.quote then some ([], rest)
      else if char = '\\' then content? .escape rest
      else (content? .plain rest).map fun read => (char :: read.1, read.2)
  | .escape, char :: rest =>
      if char = 'u' then content? .brace rest
      else
        match escaped? char with
        | some meant => (content? .plain rest).map fun read => (meant :: read.1, read.2)
        | none => none
  | .brace, char :: rest => if char = '\x7b' then content? (.code 0) rest else none
  | .code value, char :: rest =>
      if char = '\x7d' then
        match charOf? value with
        | some meant => (content? .plain rest).map fun read => (meant :: read.1, read.2)
        | none => none
      else
        match hexDigit? char with
        | some digit => content? (.code (16 * value + digit)) rest
        | none => none

/-! ## The text of a module -/

/-- One step through a text: the token at its head, unless a blank or a comment stands there, and
what follows. -/
def next? : List Char → Option (Option Token × List Char)
  | [] => none
  | char :: rest =>
      if Character.isBlank char then some (none, rest)
      else if char = '/' ∧ rest.head? = some '/' then some (none, rest.dropWhile (· ≠ '\n'))
      else if char = Escaped.quote then
        (content? .plain rest).map fun read => (some (.text (String.ofList read.1)), read.2)
      else if Character.isDigit char then
        (number? (char :: rest)).map fun read => (some read.1, read.2)
      else if isNameStart char then
        let name := splitName (char :: rest)
        some (some (.name (String.ofList name.1)), name.2)
      else some (some (.mark char), rest)

/-- The tokens of a text that is walked through in at most a number of steps. -/
def lex : Nat → List Char → Option (List Token)
  | 0, text => if text.isEmpty then some [] else none
  | _ + 1, [] => some []
  | steps + 1, char :: rest => do
      let (token, rest) ← next? (char :: rest)
      let tokens ← lex steps rest
      return token.toList ++ tokens

/-- The tokens of a text.  Every step takes at least one character. -/
def tokens? (text : String) : Option (List Token) :=
  lex text.toList.length text.toList

end Schemata.Source
