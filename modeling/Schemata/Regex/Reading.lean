import Schemata.Text.CaseFolding
import Schemata.Text.Character

/-!
# The state of reading a pattern

What is left of a pattern, the modes in force and the groups that have been opened, with the steps
that all parts of the reader share.  A step that fails refuses the pattern.
-/

namespace Schemata.Regex

open Text

structure Flags where
  ignoreCase : Bool := false
  multiLine : Bool := false
  dotNewline : Bool := false
  crlf : Bool := false
  ascii : Bool := false
  extended : Bool := false
  swapGreed : Bool := false

/-- The rest of a pattern, the modes in force, the number of groups and the names among them. -/
structure Reading where
  rest : List Char
  flags : Flags := {}
  groups : Nat := 0
  names : List (List Char) := []

abbrev Read := StateT Reading Option

/-- The greatest height of a pattern, which counts the repetitions, groups, rows, alternatives and
classes around a character. -/
def heightLimit : Nat :=
  250

def peek? : Read (Option Char) :=
  return (← get).rest.head?

def skip (count : Nat) : Read Unit :=
  modify fun reading => { reading with rest := reading.rest.drop count }

def next : Read Char := do
  match (← get).rest with
  | char :: rest =>
      modify fun reading => { reading with rest }
      return char
  | [] => failure

def eat (char : Char) : Read Bool := do
  if (← peek?) == some char then
    skip 1
    return true
  else return false

def expect (char : Char) : Read Unit := do
  if ← eat char then return () else failure

def eatAll (chars : List Char) : Read Bool := do
  if chars.isPrefixOf (← get).rest then
    skip chars.length
    return true
  else return false

def dropBlanks : (steps : Nat) → List Char → List Char
  | 0, chars => chars
  | steps + 1, chars =>
      match chars with
      | [] => []
      | char :: rest =>
          if Character.isBlank char then dropBlanks steps rest
          else if char = '#' then dropBlanks steps (rest.dropWhile (· != '\n'))
          else char :: rest

def skipBlanks : Read Unit := do
  if (← get).flags.extended then
    modify fun reading => { reading with rest := dropBlanks reading.rest.length reading.rest }

def takeSpaced (test : Char → Bool) : (steps : Nat) → Read (List Char)
  | 0 => return []
  | steps + 1 => do
      match ← peek? with
      | some char =>
          if test char then
            skip 1
            skipBlanks
            return char :: (← takeSpaced test steps)
          else return []
      | none => return []

def takeAllSpaced (test : Char → Bool) : Read (List Char) := do
  takeSpaced test (← get).rest.length

/-- The character behind the next one and the blanks after that.  A number sign counts as a blank
the first time, and blanks at the end of the pattern count as characters. -/
def peekBehind? : Read (Option Char) := do
  let reading ← get
  let behind := reading.rest.drop 1
  if reading.flags.extended then
    let text := behind.dropWhile Character.isBlank
    let text := if text.head? = some '#' then (text.drop 1).dropWhile Character.isBlank else text
    return text.head?.or behind.head?
  else return behind.head?

def swappedLetters (codes : CodeRanges) : CodeRanges :=
  let small := codes.filterMap (CodeRanges.overlap? (0x61, 0x7a))
  let large := codes.filterMap (CodeRanges.overlap? (0x41, 0x5a))
  small.map (fun range => (range.1 - 0x20, range.2 - 0x20)) ++
    large.map fun range => (range.1 + 0x20, range.2 + 0x20)

/-- The set of some ranges, in both cases where case is ignored.  Over bytes only ASCII letters have
another case. -/
def Flags.folded (flags : Flags) (codes : CodeRanges) : CodeRanges :=
  if flags.ignoreCase then
    if flags.ascii then CodeRanges.normal (codes ++ swappedLetters codes)
    else CaseFolding.closure codes
  else CodeRanges.normal codes

def signed (negated : Bool) (codes : CodeRanges) : CodeRanges :=
  if negated then codes.complement else codes

end Schemata.Regex
