import Schemata.Binary64.Layout

/-!
# Tokens

The tokens of type strings, the stretch of the input each one covers, and its text.
-/

namespace Schemata

inductive Punctuation where
  | pipe
  | ampersand
  | less
  | greater
  | comma
  | openBrace
  | closeBrace
  | openParen
  | closeParen
  | colon
  | doubleColon
  | question
  | openBracket
  | closeBracket
  /-- An opening bracket with the closing one right behind it. -/
  | closedBrackets
  deriving DecidableEq

/-- One token.  Strings are held without their quotes and with their escapes resolved. -/
inductive Token where
  | word (text : String)
  | string (content : String)
  | integer (value : Int64)
  | float (value : Binary64)
  | bool (value : Bool)
  | punctuation (mark : Punctuation)
  | endOfInput

/-- Code points from the start of a token up to the one behind its last. -/
structure Span where
  start : Nat
  stop : Nat
  deriving DecidableEq

structure Lexeme where
  token : Token
  span : Span

def Punctuation.text : Punctuation → String
  | .pipe => "|"
  | .ampersand => "&"
  | .less => "<"
  | .greater => ">"
  | .comma => ","
  | .openBrace => "\x7b"
  | .closeBrace => "\x7d"
  | .openParen => "("
  | .closeParen => ")"
  | .colon => ":"
  | .doubleColon => "::"
  | .question => "?"
  | .openBracket => "["
  | .closeBracket => "]"
  | .closedBrackets => "[]"

namespace Token

def display : Token → String
  | .word text => text
  | .string content => s!"'{content}'"
  | .integer value => toString value.toInt
  | .float value => value.typeText
  | .bool value => if value then "true" else "false"
  | .punctuation mark => mark.text
  | .endOfInput => "end of input"

def text : Token → String
  | .endOfInput => ""
  | token => token.display

/-- Whether a token is the expected one.  Floats are compared as numbers. -/
def isSame : Token → Token → Bool
  | .word text, .word text' => text == text'
  | .string content, .string content' => content == content'
  | .integer value, .integer value' => value == value'
  | .float value, .float value' => value.numEq value'
  | .bool value, .bool value' => value == value'
  | .punctuation mark, .punctuation mark' => mark == mark'
  | .endOfInput, .endOfInput => true
  | _, _ => false

def isMark (token : Token) (mark : Punctuation) : Bool :=
  token.isSame (.punctuation mark)

end Token

end Schemata
