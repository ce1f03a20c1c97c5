import Schemata.Regex.Basic
import Schemata.Regex.Property

/-!
# Searching a text

A set of places in a text is a number whose bits tell which places it has.  An expression takes the
places where matches may begin to the places where they end, so that no choice has to be undone.
For one text an expression becomes a walk, in which each test of a character or of a place has been
answered for the whole text, and each repetition without bound for every place it can begin at.
-/

namespace Schemata.Regex

open Text

/-- A set of places.  Place `n` lies before character `n`, and its bit is `n`. -/
abbrev Places := Nat

def wordAfter (ascii : Bool) (text : Array Char) (place : Nat) : Bool :=
  match text[place]? with
  | some char => (wordChars ascii).holds char.toNat
  | none => false

def wordBefore (ascii : Bool) (text : Array Char) (place : Nat) : Bool :=
  0 < place && wordAfter ascii text (place - 1)

def Assertion.holds (text : Array Char) (place : Nat) : Assertion → Bool
  | .textStart => place == 0
  | .textEnd => place == text.size
  | .lineStart crlf =>
      place == 0 || text[place - 1]? == some '\n' ||
        (crlf && text[place - 1]? == some '\r' && text[place]? != some '\n')
  | .lineEnd crlf =>
      place == text.size ||
        (if crlf then
          text[place]? == some '\r' ||
            (text[place]? == some '\n' && (place == 0 || text[place - 1]? != some '\r'))
        else text[place]? == some '\n')
  | .wordBoundary ascii => wordBefore ascii text place != wordAfter ascii text place
  | .notWordBoundary ascii => wordBefore ascii text place == wordAfter ascii text place
  | .wordStart ascii => !wordBefore ascii text place && wordAfter ascii text place
  | .wordEnd ascii => wordBefore ascii text place && !wordAfter ascii text place
  | .wordStartHalf ascii => !wordBefore ascii text place
  | .wordEndHalf ascii => !wordAfter ascii text place

def Places.ofBits (bits : List Bool) : Places :=
  bits.foldr (fun bit places => 2 * places + bit.toNat) 0

def Places.upTo (length : Nat) : Places :=
  (1 <<< (length + 1)) - 1

def Places.before (text : Array Char) (test : Char → Bool) : Places :=
  .ofBits (text.toList.map test)

def Places.where (text : Array Char) (assertion : Assertion) : Places :=
  .ofBits ((List.range (text.size + 1)).map fun place => assertion.holds text place)

def Places.minus (left right : Places) : Places :=
  left - (left &&& right)

def Places.least (places : Places) : Nat :=
  (places - (places &&& (places - 1))).log2

/-- Moves by one character of the places, any number of times.  Adding the set of places that can be
left carries each place to the end of its run. -/
def Places.run (places passed : Places) : Places :=
  places ||| (((places &&& passed) + passed) ^^^ passed)

/-- The union of what a table has for each place of a set.  The rows of the table are those of the
last place first.  A row holds the rows of all its places, so these need no look of their own. -/
def gather (rows : Array Places) (last : Nat) : (turns : Nat) → (places found : Places) → Places
  | 0, _, found => found
  | turns + 1, places, found =>
      if places = 0 then found
      else
        let place := places.least
        let row := rows[last - place]?.getD 0 ||| (1 <<< place)
        gather rows last turns (places.minus row) (found ||| row)

/-- Extends a table by the rows of the places below a given one.  A place leads to itself and to all
that the places lead to at which one turn ends. -/
def extendRows (turn : Places → Places) (last : Nat) :
    (places : Nat) → Array Places → Array Places
  | 0, rows => rows
  | place + 1, rows =>
      let here := 1 <<< place
      let row := gather rows last (last + 1) ((turn here).minus here) here
      extendRows turn last place (rows.push row)

def exactly (step : Places → Places) : (times : Nat) → Places → Places
  | 0, places => places
  | times + 1, places =>
      let reached := step places
      if reached = places then places else exactly step times reached

def atMost (step : Places → Places) : (times : Nat) → (fresh found : Places) → Places
  | 0, _, found => found
  | times + 1, fresh, found =>
      if fresh = 0 then found
      else
        let reached := (step fresh).minus found
        atMost step times reached (found ||| reached)

inductive Walk where
  | stay (here : Places)
  | step (passed : Places)
  | run (passed : Places)
  | table (rows : Array Places)
  | repeated (inner : Walk) (least more : Nat)
  | row (items : List Walk)
  | either (items : List Walk)

mutual

def Walk.ends : Walk → Places → Places
  | .stay here, places => places &&& here
  | .step passed, places => (places &&& passed) <<< 1
  | .run passed, places => places.run passed
  | .table rows, places => gather rows (rows.size - 1) rows.size places 0
  | .repeated inner least more, places =>
      let begun := exactly inner.ends least places
      atMost inner.ends more begun begun
  | .row items, places => Walk.endsAfter items places
  | .either items, places => Walk.endsAmong items places

def Walk.endsAfter : List Walk → Places → Places
  | [], places => places
  | item :: items, places => Walk.endsAfter items (item.ends places)

def Walk.endsAmong : List Walk → Places → Places
  | [], _ => 0
  | item :: items, places => item.ends places ||| Walk.endsAmong items places

end

def Walk.inRow : List Walk → Walk
  | [item] => item
  | items => .row items

def Walk.star (length : Nat) : Walk → Walk
  | .step passed => .run passed
  | .run passed => .run passed
  | .table rows => .table rows
  | walk => .table (extendRows walk.ends length (length + 1) #[])

mutual

def walk (text : Array Char) : Regex → Walk
  | .empty => .row []
  | .text chars => .inRow (chars.map fun char => .step (Places.before text (· == char)))
  | .set codes => .step (Places.before text fun char => codes.holds char.toNat)
  | .asserted assertion => .stay (Places.where text assertion)
  | .group _ inner => inner.walk text
  | .repeated inner least (some most) _ => .repeated (inner.walk text) least (most - least)
  | .repeated inner least none _ =>
      let inner := inner.walk text
      .row [.repeated inner least 0, inner.star text.size]
  | .row items => .row (walks text items)
  | .either items => .either (walks text items)

def walks (text : Array Char) : List Regex → List Walk
  | [] => []
  | item :: items => item.walk text :: walks text items

end

def isMatch (regex : Regex) (text : String) : Bool :=
  let chars := text.toList.toArray
  (regex.walk chars).ends (Places.upTo chars.size) != 0

end Schemata.Regex
