import Schemata.Json.Basic
import Schemata.Binary64.Reader

/-!
# Reading JSON

A reader of JSON texts.  Containers nest at most 127 levels deep, and of members with one key the
last one counts.  A number without point and exponent that fits a word is an integer, except that
a negative zero is a double.
-/

namespace Schemata.Json

open Text

abbrev Rest := List Char

def isBlank (char : Char) : Bool :=
  char == ' ' || char == '\n' || char == '\t' || char == '\r'

def skipBlanks (text : Rest) : Rest :=
  text.dropWhile isBlank

def hexValue? (char : Char) : Option Nat :=
  if Character.isDigit char then some (char.toNat - '0'.toNat)
  else if 'a' ≤ char ∧ char ≤ 'f' then some (char.toNat - 'a'.toNat + 10)
  else if 'A' ≤ char ∧ char ≤ 'F' then some (char.toNat - 'A'.toNat + 10)
  else none

def hexUnit? : Rest → Option (Nat × Rest)
  | a :: b :: c :: d :: rest => do
      let a ← hexValue? a
      let b ← hexValue? b
      let c ← hexValue? c
      let d ← hexValue? d
      return (((a * 16 + b) * 16 + c) * 16 + d, rest)
  | _ => none

/-- The character behind the mark of a code unit.  A high surrogate needs its low one. -/
def codeUnit? (text : Rest) : Option (Char × Rest) := do
  let (unit, rest) ← hexUnit? text
  if 0xd800 ≤ unit ∧ unit < 0xdc00 then
    match rest with
    | '\\' :: 'u' :: more =>
        let (low, rest) ← hexUnit? more
        if 0xdc00 ≤ low ∧ low < 0xe000 then
          return (Char.ofNat (0x10000 + (unit - 0xd800) * 0x400 + (low - 0xdc00)), rest)
        else none
    | _ => none
  else if 0xdc00 ≤ unit ∧ unit < 0xe000 then none
  else return (Char.ofNat unit, rest)

def escape? : Rest → Option (Char × Rest)
  | '\x22' :: rest => some ('\x22', rest)
  | '\\' :: rest => some ('\\', rest)
  | '/' :: rest => some ('/', rest)
  | 'b' :: rest => some ('\x08', rest)
  | 'f' :: rest => some ('\x0c', rest)
  | 'n' :: rest => some ('\n', rest)
  | 'r' :: rest => some ('\r', rest)
  | 't' :: rest => some ('\t', rest)
  | 'u' :: rest => codeUnit? rest
  | _ => none

/-- The characters of a string up to its closing quote.  Each step takes a character of the text,
so its length bounds the number of steps. -/
def stringBody? : (steps : Nat) → Rest → Option (List Char × Rest)
  | 0, _ => none
  | _ + 1, [] => none
  | steps + 1, char :: rest =>
      if char = '\x22' then some ([], rest)
      else if char = '\\' then do
        let (char, rest) ← escape? rest
        let (chars, rest) ← stringBody? steps rest
        return (char :: chars, rest)
      else if char.toNat < 0x20 then none
      else do
        let (chars, rest) ← stringBody? steps rest
        return (char :: chars, rest)

def string? (text : Rest) : Option (String × Rest) :=
  (stringBody? (text.length + 1) text).map fun read => (String.ofList read.1, read.2)

def exponentPart? (text : Rest) : Option (List Char × Rest) :=
  match text with
  | mark :: rest =>
      if mark = 'e' ∨ mark = 'E' then
        let sign := rest.takeWhile fun char => char == '+' || char == '-'
        let digits := (rest.drop sign.length).takeWhile Character.isDigit
        if sign.length ≤ 1 ∧ ¬digits.isEmpty then
          some (mark :: sign ++ digits, rest.drop (sign.length + digits.length))
        else none
      else some ([], text)
  | [] => some ([], [])

def fractionPart? : Rest → Option (List Char × Rest)
  | '.' :: rest =>
      let digits := rest.takeWhile Character.isDigit
      if digits.isEmpty then none else some ('.' :: digits, rest.drop digits.length)
  | text => some ([], text)

def integerNumber? (negative : Bool) (digits : List Char) : Option Number :=
  let magnitude := Decimal.value digits
  let value : Int := if negative then -magnitude else magnitude
  if negative = true ∧ magnitude = 0 then Number.ofBinary64? (Binary64.zero true)
  else if fits : FitsWord value then some (.integer value fits)
  else Number.ofBinary64? (Binary64.ofInt value)

/-- A number.  No digit stands before a leading zero or behind it, and a number beyond the range
of doubles is refused. -/
def number? (text : Rest) : Option (Number × Rest) := do
  let (negative, unsigned) := match text with
    | '-' :: rest => (true, rest)
    | _ => (false, text)
  let digits := unsigned.takeWhile Character.isDigit
  if digits.isEmpty ∨ (digits.head? = some '0' ∧ 1 < digits.length) then none
  let (fraction, rest) ← fractionPart? (unsigned.drop digits.length)
  let (exponent, rest) ← exponentPart? rest
  if fraction.isEmpty ∧ exponent.isEmpty then
    let number ← integerNumber? negative digits
    return (number, rest)
  else
    let sign := if negative then ['-'] else []
    let value ← Binary64.ofDecimalText? (sign ++ digits ++ fraction ++ exponent)
    let number ← Number.ofBinary64? value
    return (number, rest)

def afterWord? (word : String) (text : Rest) : Option Rest :=
  if word.toList.isPrefixOf text then some (text.drop word.length) else none

mutual

/-- A value.  The steps bound the number of calls, and the levels the nesting of containers. -/
def value? : (steps levels : Nat) → Rest → Option (Json × Rest)
  | 0, _, _ => none
  | steps + 1, levels, text =>
      match skipBlanks text with
      | '\x22' :: rest => (string? rest).map fun read => (.string read.1, read.2)
      | '[' :: rest => if levels ≤ 1 then none else array? steps (levels - 1) rest
      | '\x7b' :: rest => if levels ≤ 1 then none else object? steps (levels - 1) rest
      | 'n' :: rest => (afterWord? "ull" rest).map fun rest => (.null, rest)
      | 't' :: rest => (afterWord? "rue" rest).map fun rest => (.bool true, rest)
      | 'f' :: rest => (afterWord? "alse" rest).map fun rest => (.bool false, rest)
      | text => (number? text).map fun read => (.number read.1, read.2)

def array? : (steps levels : Nat) → Rest → Option (Json × Rest)
  | 0, _, _ => none
  | steps + 1, levels, text =>
      match skipBlanks text with
      | ']' :: rest => some (.array [], rest)
      | text => (items? steps levels text).map fun read => (.array read.1, read.2)

def items? : (steps levels : Nat) → Rest → Option (List Json × Rest)
  | 0, _, _ => none
  | steps + 1, levels, text => do
      let (item, rest) ← value? steps levels text
      match skipBlanks rest with
      | ']' :: rest => return ([item], rest)
      | ',' :: rest =>
          let (items, rest) ← items? steps levels rest
          return (item :: items, rest)
      | _ => none

def object? : (steps levels : Nat) → Rest → Option (Json × Rest)
  | 0, _, _ => none
  | steps + 1, levels, text =>
      match skipBlanks text with
      | '\x7d' :: rest => some (.object [], rest)
      | text => (members? steps levels text).map fun read => (.ofMembers read.1, read.2)

def members? : (steps levels : Nat) → Rest → Option (List (String × Json) × Rest)
  | 0, _, _ => none
  | steps + 1, levels, text =>
      match skipBlanks text with
      | '\x22' :: rest => do
          let (key, rest) ← string? rest
          match skipBlanks rest with
          | ':' :: rest =>
              let (value, rest) ← value? steps levels rest
              match skipBlanks rest with
              | '\x7d' :: rest => return ([(key, value)], rest)
              | ',' :: rest =>
                  let (members, rest) ← members? steps levels rest
                  return ((key, value) :: members, rest)
              | _ => none
          | _ => none
      | _ => none

end

/-- The members of an object that a JSON text is, in the order they are written and with every
member of a key that occurs more than once. -/
def entries? (text : String) : Option (List (String × Json)) := do
  let chars := text.toList
  let (entries, rest) ← match skipBlanks chars with
    | '\x7b' :: rest =>
        match skipBlanks rest with
        | '\x7d' :: rest => some ([], rest)
        | rest => members? (3 * chars.length + 3) 127 rest
    | _ => none
  if (skipBlanks rest).isEmpty then return entries else none

/-- The value of a JSON text.  Of three nested calls one takes a character of the text, which
bounds their number. -/
def parse? (text : String) : Option Json :=
  let chars := text.toList
  match value? (3 * chars.length + 3) 128 chars with
  | some (value, rest) => if (skipBlanks rest).isEmpty then some value else none
  | none => none

end Schemata.Json
