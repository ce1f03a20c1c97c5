import Schemata.Token.Lexer

/-!
# Cursors

A place among the tokens of a type string, and the steps a parser takes from there.  A step that
fails leaves the cursor where it failed.
-/

namespace Schemata

/-- The tokens of an input from a place on.  The end of the input stays the last one. -/
structure Cursor where
  input : String
  rest : List Lexeme

/-- A step of parsing: it moves the cursor and gives a result or fails. -/
abbrev Parse := EStateM SyntaxError Cursor

namespace Cursor

def ofInput (input : String) : Except SyntaxError Cursor :=
  (Token.tokenize input).map fun rest => { input, rest }

def endLexeme (cursor : Cursor) : Lexeme :=
  ⟨.endOfInput, ⟨cursor.input.length, cursor.input.length⟩⟩

/-- The token a number of places further on, or the end of the input. -/
def lexemeAt (cursor : Cursor) (places : Nat) : Lexeme :=
  (cursor.rest[places]?).getD cursor.endLexeme

def current (cursor : Cursor) : Lexeme :=
  cursor.lexemeAt 0

def tokenAt (cursor : Cursor) (places : Nat) : Token :=
  (cursor.lexemeAt places).token

def atEnd (cursor : Cursor) : Bool :=
  cursor.current.token.isSame .endOfInput

def hasMarkAt (cursor : Cursor) (places : Nat) (mark : Punctuation) : Bool :=
  (cursor.tokenAt places).isMark mark

def word? (cursor : Cursor) : Option String :=
  match cursor.current.token with
  | .word text => some text
  | _ => none

def isWord (cursor : Cursor) (word : String) : Bool :=
  cursor.word? == some word

def errorAt (cursor : Cursor) (lexeme : Lexeme) (cause : SyntaxError.Cause) : SyntaxError :=
  { cause, offset := lexeme.span.start, token := lexeme.token.text, input := cursor.input }

def locateAt (cursor : Cursor) (lexeme : Lexeme) (error : SyntaxError) : SyntaxError :=
  error.locate cursor.input lexeme.span.start lexeme.token.text

end Cursor

namespace Parse

def current : Parse Lexeme :=
  return (← get).current

def fail {α : Type} (cause : SyntaxError.Cause) : Parse α := do
  let cursor ← get
  throw (cursor.errorAt cursor.current cause)

def failAt {α : Type} (lexeme : Lexeme) (cause : SyntaxError.Cause) : Parse α := do
  throw ((← get).errorAt lexeme cause)

/-- The result of a construction, whose error is placed at a token unless it has a place. -/
def located {α : Type} (lexeme : Lexeme) : Except SyntaxError α → Parse α
  | .ok result => return result
  | .error error => do throw ((← get).locateAt lexeme error)

def lift {α : Type} : Except SyntaxError α → Parse α
  | .ok result => return result
  | .error error => throw error

def advance : Parse Lexeme := do
  let cursor ← get
  if cursor.atEnd then fail .unexpectedEnd
  else
    set { cursor with rest := cursor.rest.drop 1 }
    return cursor.current

def expect (expected : Token) : Parse Lexeme := do
  let actual := (← get).current.token
  if actual.isSame expected then advance
  else fail (.expectedToken expected.display actual.display)

def eat (token : Token) : Parse Bool := do
  if (← get).current.token.isSame token then
    let _ ← advance
    return true
  else return false

def expectMark (mark : Punctuation) : Parse Lexeme :=
  expect (.punctuation mark)

def eatMark (mark : Punctuation) : Parse Bool :=
  eat (.punctuation mark)

def takeWord : Parse String := do
  let token := (← get).current.token
  match token with
  | .word text =>
      let _ ← advance
      return text
  | other => fail (.expectedIdentifier other.display)

/-- What follows each occurrence of a mark, as long as the mark comes next.  Each turn takes a
token, so the number of tokens bounds the number of turns. -/
def following {α : Type} (mark : Punctuation) (item : Parse α) : (turns : Nat) → Parse (List α)
  | 0 => return []
  | turns + 1 => do
      if ← eatMark mark then
        let first ← item
        let others ← following mark item turns
        return first :: others
      else return []

def turns : Parse Nat :=
  return (← get).rest.length

end Parse

end Schemata
