import Schemata.Regex.Basic
import Schemata.Regex.Property
import Schemata.Regex.Reading

/-!
# Escapes and classes

The parts of a pattern that stand for one character or for a place: what begins with a backslash,
and classes in brackets.
-/

namespace Schemata.Regex

open Text

inductive Escape where
  | literal (char : Char)
  | set (codes : CodeRanges)
  | assertion (assertion : Assertion)

def hexDigit? (char : Char) : Option Nat :=
  if Character.isDigit char then some (char.toNat - '0'.toNat)
  else if 'a' ≤ char ∧ char ≤ 'f' then some (char.toNat - 'a'.toNat + 10)
  else if 'A' ≤ char ∧ char ≤ 'F' then some (char.toNat - 'A'.toNat + 10)
  else none

def hexChar? (digits : List Char) : Option Char := do
  if digits.isEmpty then none
  let values ← digits.mapM hexDigit?
  let code := values.foldl (fun code value => if code < 0x110000 then 16 * code + value else code) 0
  if code < 0xd800 ∨ (0xe000 ≤ code ∧ code < 0x110000) then some (Char.ofNat code) else none

def takeDigits : (count : Nat) → Read (List Char)
  | 0 => return []
  | count + 1 => do
      let digit ← next
      skipBlanks
      return digit :: (← takeDigits count)

/-- A character by its code point, in braces or with a fixed number of digits.  Over bytes two
digits stand for a byte, which is a character only in ASCII. -/
def readHex (width : Nat) : Read Char := do
  skipBlanks
  if ← eat '\x7b' then
    skipBlanks
    let digits ← takeAllSpaced (· != '\x7d')
    expect '\x7d'
    skipBlanks
    hexChar? digits
  else
    let char ← hexChar? (← takeDigits width)
    if width = 2 ∧ (← get).flags.ascii ∧ 0x80 ≤ char.toNat then failure
    return char

def cutAt? (mark : List Char) : List Char → Option (List Char × List Char)
  | [] => none
  | char :: rest =>
      if mark.isPrefixOf (char :: rest) then some ([], (char :: rest).drop mark.length)
      else (cutAt? mark rest).map fun parts => (char :: parts.1, parts.2)

def namedProperty? (flags : Flags) (negated : Bool) (text : List Char) : Option CodeRanges :=
  match cutAt? ['!', '='] text with
  | some (name, value) => (propertyValue? name value).map (signed (!negated) ∘ flags.folded)
  | none =>
      let codes := match (cutAt? [':'] text).or (cutAt? ['='] text) with
        | some (name, value) => propertyValue? name value
        | none => property? text
      codes.map (signed negated ∘ flags.folded)

def readProperty (negated : Bool) : Read CodeRanges := do
  let flags := (← get).flags
  if flags.ascii then failure
  skipBlanks
  if ← eat '\x7b' then
    skipBlanks
    let text ← takeAllSpaced (· != '\x7d')
    expect '\x7d'
    namedProperty? flags negated text
  else
    let letter ← next
    (property? [letter]).map (signed negated ∘ flags.folded)

/-- A class of one letter.  Over bytes its complement would hold parts of characters. -/
def readClass (negated : Bool) (codes : Bool → CodeRanges) : Read Escape := do
  let flags := (← get).flags
  if negated && flags.ascii then failure
  return .set (signed negated (codes flags.ascii))

def isBoundaryChar (char : Char) : Bool :=
  char.isAlpha || char == '-'

/-- A boundary of words, of a kind in braces if there is one.  Braces that begin otherwise are the
bounds of a repetition. -/
def readBoundary : Read Escape := do
  let reading ← get
  let ascii := reading.flags.ascii
  let plain : Escape := .assertion (.wordBoundary ascii)
  if ← eat '\x7b' then
    skipBlanks
    match ← peek? with
    | none => failure
    | some char =>
        if isBoundaryChar char then
          let name ← takeAllSpaced isBoundaryChar
          expect '\x7d'
          match String.ofList name with
          | "start" => return .assertion (.wordStart ascii)
          | "end" => return .assertion (.wordEnd ascii)
          | "start-half" => return .assertion (.wordStartHalf ascii)
          | "end-half" => return .assertion (.wordEndHalf ascii)
          | _ => failure
        else
          modify fun now => { now with rest := reading.rest }
          return plain
  else return plain

def readEscape : Read Escape := do
  let char ← next
  match char with
  | 'd' => readClass false digits
  | 'D' => readClass true digits
  | 's' => readClass false blanks
  | 'S' => readClass true blanks
  | 'w' => readClass false wordChars
  | 'W' => readClass true wordChars
  | 'p' => return .set (← readProperty false)
  | 'P' => return .set (← readProperty true)
  | 'x' => return .literal (← readHex 2)
  | 'u' => return .literal (← readHex 4)
  | 'U' => return .literal (← readHex 8)
  | 'a' => return .literal '\x07'
  | 'f' => return .literal '\x0c'
  | 't' => return .literal '\t'
  | 'n' => return .literal '\n'
  | 'r' => return .literal '\r'
  | 'v' => return .literal '\x0b'
  | 'A' => return .assertion .textStart
  | 'z' => return .assertion .textEnd
  | 'b' => readBoundary
  | 'B' => return .assertion (.notWordBoundary (← get).flags.ascii)
  | '<' => return .assertion (.wordStart (← get).flags.ascii)
  | '>' => return .assertion (.wordEnd (← get).flags.ascii)
  | _ => if char.toNat < 0x80 ∧ ¬char.isAlphanum then return .literal char else failure

def readAsciiClass : Read (Option CodeRanges) := do
  let rest := (← get).rest
  match rest with
  | '[' :: ':' :: more =>
      let negated := more.head? = some '^'
      let body := if negated then more.drop 1 else more
      let name := body.takeWhile (· != ':')
      if (body.drop name.length).take 2 = [':', ']'] then
        match asciiClass? (String.ofList name) with
        | some codes =>
            if negated && (← get).flags.ascii then failure
            skip (2 + (if negated then 1 else 0) + name.length + 2)
            return some (signed negated ((← get).flags.folded codes))
        | none => return none
      else return none
  | _ => return none

/-- One member of a class, which may begin a range.  Over bytes a class holds ASCII characters. -/
def readMember : Read Escape := do
  let char ← next
  let member ← if char = '\\' then readEscape else pure (.literal char)
  match member with
  | .assertion _ => failure
  | .literal char =>
      if (← get).flags.ascii ∧ 0x80 ≤ char.toNat then failure
      return member
  | .set _ => return member

def readRange : Read CodeRanges := do
  let first ← readMember
  skipBlanks
  let isRange ← do
    if (← peek?) == some '-' then
      let behind ← peekBehind?
      pure (behind != some ']' && behind != some '-')
    else pure false
  if isRange then
    skip 1
    skipBlanks
    match first, ← readMember with
    | .literal first, .literal last =>
        if first ≤ last then return [(first.toNat, last.toNat)] else failure
    | _, _ => failure
  else
    match first with
    | .literal char => return [(char.toNat, char.toNat)]
    | .set codes => return codes
    | .assertion _ => failure

structure Members where
  codes : CodeRanges := []
  count : Nat := 0
  height : Nat := 0

def Members.insert (members : Members) (codes : CodeRanges) (height : Nat) : Members :=
  ⟨codes ++ members.codes, members.count + 1, max members.height height⟩

/-- The height of some members: several are one higher than the highest one. -/
def Members.total (members : Members) : Nat :=
  if 2 ≤ members.count then members.height + 1 else members.height

def readHyphens : (steps : Nat) → Members → Read Members
  | 0, members => return members
  | steps + 1, members => do
      if ← eat '-' then
        skipBlanks
        readHyphens steps (members.insert [(0x2d, 0x2d)] 0)
      else return members

inductive Operator where
  | inter
  | difference
  | symmetricDifference

def Operator.apply : Operator → CodeRanges → CodeRanges → CodeRanges
  | .inter => CodeRanges.inter
  | .difference => CodeRanges.difference
  | .symmetricDifference => CodeRanges.symmetricDifference

def operator? : List Char → Option Operator
  | '&' :: '&' :: _ => some .inter
  | '-' :: '-' :: _ => some .difference
  | '~' :: '~' :: _ => some .symmetricDifference
  | _ => none

mutual

def readBracket : (steps depth : Nat) → Read (CodeRanges × Nat)
  | 0, _ => failure
  | _, 0 => failure
  | steps + 1, depth + 1 => do
      skipBlanks
      let negated ← eat '^'
      let flags := (← get).flags
      if negated && flags.ascii then failure
      skipBlanks
      let members ← readHyphens (← get).rest.length {}
      let members ← if members.count = 0 ∧ (← peek?) = some ']' then do
          skip 1
          pure (members.insert [(0x5d, 0x5d)] 0)
        else pure members
      let members ← readMembers steps depth members
      let (codes, height) ← readOperators steps depth members.codes members.total
      return (signed negated (flags.folded codes), height + 1)

def readMembers : (steps depth : Nat) → Members → Read Members
  | 0, _, _ => failure
  | steps + 1, depth, members => do
      skipBlanks
      let rest := (← get).rest
      if rest.head? = some ']' ∨ (operator? rest).isSome then return members
      else
        let (codes, height) ← readItem steps depth
        readMembers steps depth (members.insert codes height)

/-- The operators of a class and the members behind each, up to the closing bracket.  An operator
takes all that stands before it. -/
def readOperators : (steps depth : Nat) → CodeRanges → (height : Nat) → Read (CodeRanges × Nat)
  | 0, _, _, _ => failure
  | steps + 1, depth, codes, height => do
      match operator? (← get).rest with
      | some operator =>
          skip 2
          let right ← readMembers steps depth {}
          let flags := (← get).flags
          readOperators steps depth (operator.apply (flags.folded codes) (flags.folded right.codes))
            (max height right.total + 1)
      | none =>
          expect ']'
          return (codes, height)

def readItem : (steps depth : Nat) → Read (CodeRanges × Nat)
  | 0, _ => failure
  | steps + 1, depth => do
      if (← peek?) == some '[' then
        match ← readAsciiClass with
        | some codes => return (codes, 0)
        | none =>
            skip 1
            readBracket steps depth
      else return (← readRange, 0)

end

end Schemata.Regex
