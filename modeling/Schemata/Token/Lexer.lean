import Schemata.Binary64.Reader
import Schemata.SyntaxError
import Schemata.Token.Basic

/-!
# Tokens of a text

A type string is cut into quoted strings, marks and words.  A word is a longest run of characters
that are neither blanks nor quotes nor the beginning of a mark; it is a boolean, a number or an
identifier.  The end of the input is a token of its own, behind all others.
-/

namespace Schemata.Token

open Text

def isQuote (char : Char) : Bool :=
  char == '\x27' || char == '\x22'

def markAt? : List Char → Option Punctuation
  | '|' :: _ => some .pipe
  | '&' :: _ => some .ampersand
  | '<' :: _ => some .less
  | '>' :: _ => some .greater
  | ',' :: _ => some .comma
  | '\x7b' :: _ => some .openBrace
  | '\x7d' :: _ => some .closeBrace
  | '(' :: _ => some .openParen
  | ')' :: _ => some .closeParen
  | '?' :: _ => some .question
  | ']' :: _ => some .closeBracket
  | ':' :: ':' :: _ => some .doubleColon
  | ':' :: _ => some .colon
  | '[' :: ']' :: _ => some .closedBrackets
  | '[' :: _ => some .openBracket
  | _ => none

def isWordChar (char : Char) : Bool :=
  !(Character.isBlank char || isQuote char || (markAt? [char]).isSome)

/-- The content of a string whose opening quote has been read, and the number of characters up to
and with its closing quote.  A backslash before the quote or before another backslash stands for
the character behind it. -/
def stringContent? (quote : Char) : List Char → Option (List Char × Nat)
  | [] => none
  | [char] => if char = quote then some ([], 1) else none
  | char :: next :: rest =>
      if char = quote then some ([], 1)
      else if char = '\\' ∧ (next = quote ∨ next = '\\') then
        (stringContent? quote rest).map fun read => (next :: read.1, read.2 + 2)
      else (stringContent? quote (next :: rest)).map fun read => (char :: read.1, read.2 + 1)

def splitAtFirst (kind : Char → Bool) (text : List Char) : List Char × Option (List Char) :=
  (text.takeWhile (!kind ·), (text.dropWhile (!kind ·)).tail?)

def isExponentMark (char : Char) : Bool :=
  char == 'e' || char == 'E'

def isPointed (text : List Char) : Bool :=
  let parts := splitAtFirst (· == '.') text
  parts.1.all Character.isDigit && parts.2.all (·.all Character.isDigit) &&
    !(parts.1.isEmpty && parts.2.all List.isEmpty)

def isSignedDigits (text : List Char) : Bool :=
  let digits := (Decimal.splitSign text).2
  !digits.isEmpty && digits.all Character.isDigit

/-- Whether a word is a number in decimal: an optional sign, digits with at most one point, and
behind the first exponent mark an exponent. -/
def isNumeric (word : List Char) : Bool :=
  let parts := splitAtFirst isExponentMark (Decimal.splitSign word).2
  isPointed parts.1 && parts.2.all isSignedDigits

/-- The token a word stands for.  Only decimals are numbers, so the words for the infinities and for
not a number are identifiers. -/
def ofWord (word : List Char) : Token :=
  if word = "true".toList then .bool true
  else if word = "false".toList then .bool false
  else if isNumeric word then
    match Decimal.int64? word with
    | some value => .integer value
    | none =>
        match Binary64.ofText? word with
        | some value => .float value
        | none => .word (String.ofList word)
  else .word (String.ofList word)

def first? (text : List Char) : Option (Token × Nat) :=
  match text with
  | [] => some (.endOfInput, 0)
  | char :: rest =>
      if isQuote char then
        (stringContent? char rest).map fun read =>
          (.string (String.ofList read.1), read.2 + 1)
      else
        match markAt? text with
        | some mark => some (.punctuation mark, mark.text.length)
        | none =>
            let word := text.takeWhile isWordChar
            some (ofWord word, word.length)

structure OpenQuote where
  offset : Nat
  quote : Char

/-- The tokens of the rest of an input that begins at an offset.  Every token takes at least one
character, so the length of the rest bounds the number of steps. -/
def scan : (steps offset : Nat) → List Char → Except OpenQuote (List Lexeme)
  | 0, offset, _ => .ok [⟨.endOfInput, ⟨offset, offset⟩⟩]
  | _ + 1, offset, [] => .ok [⟨.endOfInput, ⟨offset, offset⟩⟩]
  | steps + 1, offset, char :: rest =>
      if Character.isBlank char then scan steps (offset + 1) rest
      else
        match first? (char :: rest) with
        | none => .error ⟨offset, char⟩
        | some (token, width) =>
            (scan steps (offset + width) ((char :: rest).drop width)).map
              (⟨token, ⟨offset, offset + width⟩⟩ :: ·)

def tokenize (input : String) : Except SyntaxError (List Lexeme) :=
  let chars := input.toList
  (scan chars.length 0 chars).mapError fun unclosed =>
    { cause := .unterminatedString, offset := unclosed.offset
      token := unclosed.quote.toString, input }

end Schemata.Token
