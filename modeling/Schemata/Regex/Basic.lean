import Schemata.Text.CodeRanges

/-!
# Regular expressions

Expressions over characters with assertions about the place in the text.  The functions that build
an expression keep it in normal form: what stands in a row is one level deep and neighbouring texts
are joined, alternatives are one level deep, alternatives of one character each are a set, and what
all of them begin with stands before them.
-/

namespace Schemata

open Text

inductive Regex.Assertion where
  | textStart
  | textEnd
  | lineStart (crlf : Bool)
  | lineEnd (crlf : Bool)
  | wordBoundary (ascii : Bool)
  | notWordBoundary (ascii : Bool)
  | wordStart (ascii : Bool)
  | wordEnd (ascii : Bool)
  | wordStartHalf (ascii : Bool)
  | wordEndHalf (ascii : Bool)
deriving DecidableEq

inductive Regex where
  | empty
  | text (chars : List Char)
  | set (codes : CodeRanges)
  | asserted (assertion : Regex.Assertion)
  | group (index : Nat) (inner : Regex)
  | repeated (inner : Regex) (least : Nat) (most : Option Nat) (lazy : Bool)
  | row (items : List Regex)
  | either (items : List Regex)

namespace Regex

mutual

def same : Regex → Regex → Bool
  | .empty, .empty => true
  | .text left, .text right => left == right
  | .set left, .set right => left == right
  | .asserted left, .asserted right => left == right
  | .group left inner, .group right other => left == right && inner.same other
  | .repeated inner least most lazy, .repeated other least' most' lazy' =>
      least == least' && most == most' && lazy == lazy' && inner.same other
  | .row left, .row right => sameItems left right
  | .either left, .either right => sameItems left right
  | _, _ => false

def sameItems : List Regex → List Regex → Bool
  | [], [] => true
  | left :: lefts, right :: rights => left.same right && sameItems lefts rights
  | _, _ => false

end

mutual

def isWidthless : Regex → Bool
  | .empty | .asserted _ => true
  | .text _ | .set _ => false
  | .group _ inner => inner.isWidthless
  | .repeated inner _ most _ => most.isSome && inner.isWidthless
  | .row items | .either items => areWidthless items

def areWidthless : List Regex → Bool
  | [] => true
  | item :: items => item.isWidthless && areWidthless items

end

def ofCodes : CodeRanges → Regex
  | [(low, high)] => if low = high then .text [Char.ofNat low] else .set [(low, high)]
  | codes => .set codes

def rowItems : Regex → List Regex
  | .empty => []
  | .row items => items
  | regex => [regex]

def consItem (item : Regex) (items : List Regex) : List Regex :=
  match item, items with
  | .text chars, .text more :: rest => .text (chars ++ more) :: rest
  | item, items => item :: items

def inRow (items : List Regex) : Regex :=
  match (items.flatMap rowItems).foldr consItem [] with
  | [] => .empty
  | [item] => item
  | items => .row items

def eitherItems : Regex → List Regex
  | .either items => items
  | regex => [regex]

def singleCode? : Regex → Option Nat
  | .text [char] => some char.toNat
  | _ => none

def codes? : Regex → Option CodeRanges
  | .set codes => some codes
  | _ => none

def setOf? (items : List Regex) : Option CodeRanges :=
  match items.mapM singleCode? with
  | some codes => some (CodeRanges.normal (codes.map fun code => (code, code)))
  | none => (items.mapM codes?).map CodeRanges.union

def ofAlternatives : List Regex → Regex
  | [] => .set []
  | [item] => item
  | items =>
      match setOf? items with
      | some codes => ofCodes codes
      | none => .either items

def row? : Regex → Option (List Regex)
  | .row items => some items
  | _ => none

def commonLength : List Regex → List Regex → Nat
  | left :: lefts, right :: rights =>
      if left.same right then commonLength lefts rights + 1 else 0
  | _, _ => 0

/-- Any of the expressions.  What all of them begin with, if each is a row, stands before them. -/
def anyOf (items : List Regex) : Regex :=
  let items := items.flatMap eitherItems
  match items.mapM row? with
  | some (head :: next :: rows) =>
      let lengths := (next :: rows).map (commonLength head)
      let length := lengths.foldl min head.length
      if length = 0 then ofAlternatives items
      else
        let tails := (head :: next :: rows).map fun row => inRow (row.drop length)
        inRow (head.take length ++ [ofAlternatives (tails.flatMap eitherItems)])
  | _ => ofAlternatives items

/-- An expression a number of times.  More than one turn adds nothing to empty matches. -/
def repeating (inner : Regex) (least : Nat) (most : Option Nat) (lazy : Bool) : Regex :=
  let least := if inner.isWidthless then min least 1 else least
  let most := if inner.isWidthless then some (min (most.getD 1) 1) else most
  match least, most with
  | 0, some 0 => .empty
  | 1, some 1 => inner
  | least, most => .repeated inner least most lazy

end Regex

end Schemata
