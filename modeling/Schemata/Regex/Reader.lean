import Schemata.Regex.Automaton
import Schemata.Regex.Bracket
import Schemata.Text.Decimal

/-!
# Reading regular expressions

The reader of patterns.  A pattern is refused when a group or a class is left open, when there is
nothing to repeat, when the bounds of a repetition or of a range are crossed, when a name is unknown
or taken, when it is nested too deeply, when its automata grow too large, and when it asks for what
sets of places cannot decide: references back and looking around.
-/

namespace Schemata.Regex

open Text

def readCount : Read (Option Nat) := do
  modify fun reading => { reading with rest := reading.rest.dropWhile Character.isBlank }
  let digits ← takeAllSpaced Character.isDigit
  let _ ← takeAllSpaced Character.isBlank
  match Decimal.natural? digits with
  | some count => if count < 4294967296 then return some count else failure
  | none => return none

def readBounds : Read (Nat × Option Nat) := do
  skipBlanks
  let some least ← readCount | failure
  let most ← if ← eat ',' then do
      skipBlanks
      if (← peek?) == some '\x7d' then pure none
      else do
        let some most ← readCount | failure
        pure (some most)
    else pure (some least)
  expect '\x7d'
  match most with
  | some most => if most < least then failure else return (least, some most)
  | none => return (least, none)

/-- A part of a sequence: an expression with its height, or a switch of modes, which cannot be
repeated. -/
structure Part where
  regex : Option Regex
  height : Nat

def Part.leaf (regex : Regex) : Part :=
  ⟨some regex, 0⟩

/-- The height of some parts: several are one higher than the highest one. -/
def heightOf : List Part → Nat
  | [] => 0
  | [part] => part.height
  | parts => parts.foldl (fun height part => max height part.height) 0 + 1

def Part.ofSequence (parts : List Part) : Part :=
  ⟨some (inRow (parts.reverse.filterMap Part.regex)), heightOf parts⟩

def Part.ofAlternatives (parts : List Part) : Part :=
  ⟨some (anyOf (parts.reverse.filterMap Part.regex)), heightOf parts⟩

def repeatLast (parts : List Part) (least : Nat) (most : Option Nat) (lazy : Bool) :
    Read (List Part) := do
  let lazy := lazy != (← get).flags.swapGreed
  match parts with
  | ⟨some regex, height⟩ :: rest =>
      return ⟨some (repeating regex least most lazy), height + 1⟩ :: rest
  | _ => failure

def readFlags : (steps : Nat) → (seen : List Char) → (negated fresh : Bool) → Flags → Read Flags
  | 0, _, _, _, _ => failure
  | steps + 1, seen, negated, fresh, flags => do
      match ← peek? with
      | some ')' | some ':' => if negated && fresh then failure else return flags
      | some '-' =>
          if negated then failure
          skip 1
          readFlags steps seen true true flags
      | some char =>
          if seen.contains char then failure
          skip 1
          let on := !negated
          let flags ← match char with
            | 'i' => pure { flags with ignoreCase := on }
            | 'm' => pure { flags with multiLine := on }
            | 's' => pure { flags with dotNewline := on }
            | 'R' => pure { flags with crlf := on }
            | 'u' => pure { flags with ascii := !on }
            | 'x' => pure { flags with extended := on }
            | 'U' => pure { flags with swapGreed := on }
            | _ => failure
          readFlags steps (char :: seen) negated false flags
      | none => failure

def openGroup : Read Nat := do
  let number := (← get).groups + 1
  modify fun reading => { reading with groups := number }
  return number

def readGroupName : Read Unit := do
  let name := (← get).rest.takeWhile (· != '>')
  skip name.length
  expect '>'
  let first := name.head?.any fun char => char == '_' || Character.isAlphabetic char
  let others := (name.drop 1).all fun char =>
    char == '_' || char == '.' || char == '[' || char == ']' || Character.isAlphanumeric char
  if first && others && !(← get).names.contains name then
    modify fun reading => { reading with names := name :: reading.names }
  else failure

inductive GroupHead where
  | captured (number : Nat)
  | plain
  | switch

def readGroupHead : Read GroupHead := do
  skipBlanks
  if ← eat '?' then
    let two := (← get).rest.take 2
    if two = ['P', '<'] then
      skip 2
      let number ← openGroup
      readGroupName
      return .captured number
    else if two = ['<', '='] ∨ two = ['<', '!'] then failure
    else if ← eat '<' then
      let number ← openGroup
      readGroupName
      return .captured number
    else
      let bare := (← peek?) == some ')'
      let reading ← get
      let flags ← readFlags (reading.rest.length + 1) [] false false reading.flags
      modify fun reading => { reading with flags }
      if ← eat ')' then
        if bare then failure
        return .switch
      expect ':'
      return .plain
  else return .captured (← openGroup)

def anchor (flags : Flags) (start : Bool) : Regex :=
  .asserted <|
    if flags.multiLine then (if start then .lineStart flags.crlf else .lineEnd flags.crlf)
    else if start then .textStart else .textEnd

def dot (flags : Flags) : Read Regex :=
  if flags.ascii then failure
  else if flags.dotNewline then return .set (CodeRanges.complement [])
  else if flags.crlf then return .set (CodeRanges.complement [(0x0a, 0x0a), (0x0d, 0x0d)])
  else return .set (CodeRanges.complement [(0x0a, 0x0a)])

def literal (flags : Flags) (char : Char) : Regex :=
  ofCodes (flags.folded [(char.toNat, char.toNat)])

def readPrimitive : Read Part := do
  let char ← next
  let flags := (← get).flags
  match char with
  | '[' => do
      let (codes, height) ← readBracket (3 * (← get).rest.length + 3) heightLimit
      return ⟨some (ofCodes codes), height⟩
  | '^' => return .leaf (anchor flags true)
  | '$' => return .leaf (anchor flags false)
  | '.' => return .leaf (← dot flags)
  | '\\' =>
      match ← readEscape with
      | .literal char => return .leaf (literal flags char)
      | .set codes => return .leaf (ofCodes codes)
      | .assertion assertion => return .leaf (.asserted assertion)
  | char => return .leaf (literal flags char)

/-- The bounds of a repetition that comes next, and whether it is lazy.  A question mark makes a
repetition lazy; blanks may stand before it behind braces alone. -/
def readRepetition? : Read (Option (Nat × Option Nat × Bool)) := do
  match ← peek? with
  | some '*' => skip 1; return some (0, none, ← eat '?')
  | some '+' => skip 1; return some (1, none, ← eat '?')
  | some '?' => skip 1; return some (0, some 1, ← eat '?')
  | some '\x7b' =>
      skip 1
      let (least, most) ← readBounds
      skipBlanks
      return some (least, most, ← eat '?')
  | _ => return none

mutual

def readAlternatives : (steps depth : Nat) → List Part → Read Part
  | 0, _, _ => failure
  | steps + 1, depth, branches => do
      let branch ← readSequence steps depth []
      if ← eat '|' then readAlternatives steps depth (branch :: branches)
      else return .ofAlternatives (branch :: branches)

def readSequence : (steps depth : Nat) → List Part → Read Part
  | 0, _, _ => failure
  | steps + 1, depth, parts => do
      skipBlanks
      match ← readRepetition? with
      | some (least, most, lazy) =>
          let parts ← repeatLast parts least most lazy
          readSequence steps depth parts
      | none =>
          match ← peek? with
          | none | some '|' | some ')' => return .ofSequence parts
          | some '(' =>
              skip 1
              let part ← readGroup steps depth
              readSequence steps depth (part :: parts)
          | some _ =>
              let part ← readPrimitive
              readSequence steps depth (part :: parts)

def readGroup : (steps depth : Nat) → Read Part
  | 0, _ => failure
  | steps + 1, depth => do
      let outer := (← get).flags
      let head ← readGroupHead
      match head, depth with
      | .switch, _ => return ⟨none, 0⟩
      | _, 0 => failure
      | head, depth + 1 =>
          let inner ← readAlternatives steps depth []
          expect ')'
          modify fun reading => { reading with flags := outer }
          let regex := match head with
            | .captured number => inner.regex.map (.group number)
            | _ => inner.regex
          return ⟨regex, inner.height + 1⟩

end

/-- The expression a pattern stands for.  At most three nested calls take one character of the
pattern, which bounds their number. -/
def parse? (pattern : String) : Option Regex := do
  let chars := pattern.toList
  let (part, reading) ←
    (readAlternatives (3 * chars.length + 4) heightLimit []).run { rest := chars }
  let regex ← part.regex
  if reading.rest.isEmpty ∧ part.height ≤ heightLimit ∧ regex.isSmall then some regex else none

end Schemata.Regex
