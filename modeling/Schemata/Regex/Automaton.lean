import Schemata.Regex.Basic
import Schemata.Text.Utf8
import Std.Data.HashMap

/-!
# The size of automata

An expression is searched for by an automaton over bytes, which reads the text forward, and by
another one that reads it backward.  The expression is too large when one of them takes more than
ten mebibytes.  Of the automata only the size is built: how many states there are, and how many
bytes they hold for what they lead to.  A repetition is written out turn by turn.
-/

namespace Schemata.Regex

open Text

structure Tally where
  states : Nat
  /-- The bytes that the states hold beyond the size of a state. -/
  held : Nat

def sizeLimit : Nat :=
  10485760

def Tally.size (tally : Tally) : Nat :=
  32 * tally.states + tally.held

abbrev Build := StateT Tally Option

def addState (held : Nat) : Build Nat := fun tally =>
  let grown := { states := tally.states + 1, held := tally.held + held : Tally }
  if grown.size ≤ sizeLimit then some (tally.states, grown) else none

def addStates (count : Nat) : Build Unit := fun tally =>
  let grown := { tally with states := tally.states + count }
  if grown.size ≤ sizeLimit then some ((), grown) else none

def addWays (count : Nat) : Build Unit := fun tally =>
  let grown := { tally with held := tally.held + 4 * count }
  if grown.size ≤ sizeLimit then some ((), grown) else none

/-- Leads the end of a part on.  It takes a way of its own if the end is a state with
alternatives. -/
def leadOn (isFork : Bool) : Build Unit :=
  addWays isFork.toNat

structure Edge where
  low : Nat
  high : Nat
  target : Nat
deriving DecidableEq

def edgeSize : Nat :=
  8

/-- Mixes a number into a hash: the bits of both are compared, and the result is spread by a
product. -/
def mix (hash : UInt64) (value : Nat) : UInt64 :=
  (hash ^^^ value.toUInt64) * 1099511628211

def slot (size : Nat) (values : List Nat) : Nat :=
  (values.foldl mix 14695981039346656037).toNat % size

/-- The states that have been built for a set.  A slot keeps the latest state alone, so that a state
may be built again. -/
abbrev Cache := Std.HashMap Nat (List Edge × Nat)

/-- The state with some edges, which is built unless the cache has it.  Here the size of the cache
is ten thousand. -/
def stateOf (cache : Cache) (edges : List Edge) : Build (Nat × Cache) := do
  let place := slot 10000 (edges.flatMap fun edge => [edge.low, edge.high, edge.target])
  match cache[place]? with
  | some (known, state) => if known = edges then return (state, cache)
  | none => pure ()
  let state ← addState (edgeSize * edges.length)
  return (state, cache.insert place (edges, state))

def grouped : List Utf8.Sequence → List ((Nat × Nat) × List Utf8.Sequence)
  | (range :: tail) :: rest =>
      match grouped rest with
      | (range', tails) :: groups =>
          if range = range' then (range, tail :: tails) :: groups
          else (range, [tail]) :: (range', tails) :: groups
      | [] => [(range, [tail])]
  | _ => []

mutual

def treeState (target : Nat) : (depth : Nat) → List Utf8.Sequence → Cache → Build (Nat × Cache)
  | 0, _, cache => return (target, cache)
  | depth + 1, sequences, cache =>
      match sequences with
      | [] :: _ => return (target, cache)
      | _ => do
          let (edges, cache) ← treeEdges target depth (grouped sequences) cache
          stateOf cache edges

def treeEdges (target : Nat) (depth : Nat) :
    List ((Nat × Nat) × List Utf8.Sequence) → Cache → Build (List Edge × Cache)
  | [], cache => return ([], cache)
  | (range, tails) :: groups, cache => do
      let (state, cache) ← treeState target depth tails cache
      let (edges, cache) ← treeEdges target depth groups cache
      return (⟨range.1, range.2, state⟩ :: edges, cache)

end

abbrev EdgeCache := Std.HashMap Nat (Edge × Nat)

/-- The states of one sequence backward: each range leads to the one before it.  Here the size of
the cache is a thousand. -/
def chainStates : (target : Nat) → Utf8.Sequence → EdgeCache → Build EdgeCache
  | _, [], cache => return cache
  | target, range :: rest, cache => do
      let edge : Edge := ⟨range.1, range.2, target⟩
      let place := slot 1000 [target, range.1, range.2]
      let known := match cache[place]? with
        | some (other, state) => if other = edge then some state else none
        | none => none
      match known with
      | some state => chainStates state rest cache
      | none => do
          let state ← addState 0
          chainStates state rest (cache.insert place (edge, state))

def chains (target : Nat) : List Utf8.Sequence → EdgeCache → Build Unit
  | [], _ => return ()
  | sequence :: rest, cache => do
      let cache ← chainStates target sequence cache
      addWays 1
      chains target rest cache

def buildSet (backward : Bool) (codes : CodeRanges) : Build Unit := do
  let sequences := Utf8.sequences codes
  if codes.all fun range => range.2 < 0x80 then
    addStates 1
    let _ ← addState (edgeSize * codes.length)
  else if backward then
    let _ ← addState 0
    let target ← addState 0
    chains target sequences ∅
  else
    let target ← addState 0
    let _ ← treeState target 5 sequences ∅

def followers (words : List (List Nat)) : List (Nat × List (List Nat)) :=
  words.foldl (fun groups word => match word with
    | [] => groups
    | byte :: rest =>
        if groups.any (·.1 == byte) then
          groups.map fun group => if group.1 == byte then (byte, group.2 ++ [rest]) else group
        else groups ++ [(byte, [rest])]) []

def chunks (words : List (List Nat)) : List (List (List Nat)) :=
  words.foldr (fun word parts => match word, parts with
    | [], parts => [] :: parts
    | word, part :: parts => (word :: part) :: parts
    | word, [] => [[word]]) [[]]

mutual

/-- The states of a tree of words.  Words before the end of another one take other states than
those behind it, so that the order of alternatives is kept. -/
def buildWords : (depth : Nat) → List (List Nat) → Build Unit
  | 0, _ => return ()
  | depth + 1, words => do
      let parts := chunks (match words with
        | [] :: rest => [] :: rest.dropWhile List.isEmpty
        | words => words)
      let filled := parts.filter fun part => !part.isEmpty
      buildChunks depth filled
      addStates 1
      addWays (filled.length + parts.length - 1)

def buildChunks (depth : Nat) : List (List (List Nat)) → Build Unit
  | [] => return ()
  | part :: parts => do
      let groups := followers part
      buildGroups depth groups
      let _ ← addState (if groups.length = 1 then 0 else edgeSize * groups.length)
      buildChunks depth parts

def buildGroups (depth : Nat) : List (Nat × List (List Nat)) → Build Unit
  | [] => return ()
  | (_, words) :: groups => do
      if words.any fun word => !word.isEmpty then buildWords depth words
      buildGroups depth groups

end

def copies (part : Build Bool) : (count : Nat) → (isFork : Bool) → Build Bool
  | 0, isFork => return isFork
  | count + 1, isFork => do
      let ended ← part
      leadOn isFork
      copies part count ended

def exactCopies (part : Build Bool) (count : Nat) : Build Bool := do
  if count = 0 then addStates 1
  copies part count false

def optionalCopies (part : Build Bool) : (count : Nat) → (isFork : Bool) → Build Unit
  | 0, isFork => leadOn isFork
  | count + 1, isFork => do
      addStates 1
      let ended ← part
      leadOn isFork
      addWays 2
      optionalCopies part count ended

mutual

def isFilled : Regex → Bool
  | .empty | .asserted _ => false
  | .text _ => true
  | .set codes => !codes.isEmpty
  | .group _ inner => inner.isFilled
  | .repeated inner least _ _ => inner.isFilled && least != 0
  | .row items => anyFilled items && allMatch items
  | .either items => allFilled items

def anyFilled : List Regex → Bool
  | [] => false
  | item :: items => item.isFilled || anyFilled items

def allFilled : List Regex → Bool
  | [] => true
  | item :: items => item.isFilled && allFilled items

/-- Whether an expression is taken to have a match: no part of it is an empty set. -/
def hasMatch : Regex → Bool
  | .empty | .asserted _ | .text _ => true
  | .set codes => !codes.isEmpty
  | .group _ inner => inner.hasMatch
  | .repeated inner _ _ _ => inner.hasMatch
  | .row items | .either items => allMatch items

def allMatch : List Regex → Bool
  | [] => true
  | item :: items => item.hasMatch && allMatch items

end

mutual

/-- Whether a match can only begin at the start of the text, as far as the expression shows it.
What is asserted before the first character counts. -/
def isAnchored (edge : Assertion) (backward : Bool) : Regex → Bool
  | .asserted assertion => assertion == edge
  | .group _ inner => inner.isAnchored edge backward
  | .repeated inner least _ _ => least != 0 && inner.isAnchored edge backward
  | .row items => rowAnchored edge backward items
  | .either items => allAnchored edge backward items
  | _ => false

def rowAnchored (edge : Assertion) (backward : Bool) : List Regex → Bool
  | [] => false
  | item :: items =>
      if backward then
        rowAnchored edge backward items ||
          (areWidthless items && item.isAnchored edge backward)
      else
        item.isAnchored edge backward ||
          (item.isWidthless && rowAnchored edge backward items)

def allAnchored (edge : Assertion) (backward : Bool) : List Regex → Bool
  | [] => true
  | item :: items => item.isAnchored edge backward && allAnchored edge backward items

end

def bytesOf (chars : List Char) : List Nat :=
  chars.flatMap fun char => Utf8.bytes char.toNat

def chars? : Regex → Option (List Char)
  | .text chars => some chars
  | _ => none

def buildEndless (part : Build Bool) (isFilled : Bool) : (least : Nat) → Build Bool
  | 0 => do
      if isFilled then
        addStates 1
        leadOn (← part)
        addWays 1
        return true
      else
        leadOn (← part)
        addStates 3
        addWays 4
        return false
  | 1 => do
      leadOn (← part)
      addStates 1
      addWays 1
      return true
  | least + 2 => do
      let ended ← copies part (least + 2) false
      leadOn ended
      addStates 1
      addWays 1
      return true

def buildBounded (part : Build Bool) (least most : Nat) : Build Bool := do
  if least = 0 ∧ most = 1 then
    addStates 1
    leadOn (← part)
    addStates 1
    addWays 2
    return false
  else if least = most then exactCopies part least
  else
    let ended ← exactCopies part least
    addStates 1
    optionalCopies part (most - least) ended
    return false

mutual

def build (backward : Bool) : Regex → Build Bool
  | .empty | .asserted _ => do
      addStates 1
      return false
  | .text chars => do
      addStates (bytesOf chars).length
      return false
  | .set codes => do
      buildSet backward codes
      return false
  | .group _ inner => do
      if backward then build backward inner
      else
        addStates 1
        leadOn (← build backward inner)
        addStates 1
        return false
  | .repeated inner least (some most) _ => buildBounded (build backward inner) least most
  | .repeated inner least none _ => buildEndless (build backward inner) inner.isFilled least
  | .row items => buildRow backward items
  | .either items => do
      match items.mapM chars? with
      | some texts =>
          let words := texts.map bytesOf
          let words := if backward then words.map List.reverse else words
          addStates 1
          buildWords ((words.map List.length).foldl max 0 + 1) words
      | none => buildBranches backward 0 items
      return false

def buildRow (backward : Bool) : List Regex → Build Bool
  | [] => return false
  | [item] => build backward item
  | item :: items => do
      if backward then
        leadOn (← buildRow backward items)
        build backward item
      else
        leadOn (← build backward item)
        buildRow backward items

/-- Builds alternatives.  The states before and behind all of them follow the second one. -/
def buildBranches (backward : Bool) (built : Nat) : List Regex → Build Unit
  | [] => return ()
  | item :: items => do
      let ended ← build backward item
      if built = 1 then addStates 2
      addWays 1
      leadOn ended
      buildBranches backward (built + 1) items

end

/-- The size of the automaton that reads a text in one direction.  Unless the expression is
anchored, any bytes may be passed before a match begins. -/
def automaton? (backward : Bool) (regex : Regex) : Option Tally :=
  let edge := if backward then Assertion.textEnd else .textStart
  let entry := if regex.isAnchored edge backward then ⟨1, 0⟩ else ⟨3, edgeSize + 8⟩
  let whole : Build Unit := do
    leadOn (← build backward (if backward then regex else .group 0 regex))
    addStates 1
  (whole.run entry).map (·.2)

def isSmall (regex : Regex) : Bool :=
  (automaton? false regex).isSome && (automaton? true regex).isSome

end Schemata.Regex
