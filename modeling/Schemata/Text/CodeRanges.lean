/-!
# Code ranges

A set of characters given by closed ranges of code points.  In normal form the ranges ascend and no
two of them touch, so that equal sets are equal lists.
-/

namespace Schemata.Text

/-- Closed ranges of code points. -/
abbrev CodeRanges := List (Nat × Nat)

namespace CodeRanges

def lastCode : Nat :=
  0x10ffff

def holds : CodeRanges → Nat → Bool
  | [], _ => false
  | range :: rest, code =>
      if code < range.1 then false
      else if code ≤ range.2 then true
      else holds rest code

def join (range : Nat × Nat) : CodeRanges → CodeRanges
  | [] => [range]
  | following :: rest =>
      if following.1 ≤ range.2 + 1 then join (range.1, max range.2 following.2) rest
      else range :: join following rest

def normal (ranges : CodeRanges) : CodeRanges :=
  match ranges.mergeSort fun left right => left.1 ≤ right.1 with
  | [] => []
  | range :: rest => join range rest

def union (sets : List CodeRanges) : CodeRanges :=
  normal sets.flatten

def overlap? (left right : Nat × Nat) : Option (Nat × Nat) :=
  let low := max left.1 right.1
  let high := min left.2 right.2
  if low ≤ high then some (low, high) else none

def inter (left right : CodeRanges) : CodeRanges :=
  left.flatMap fun range => right.filterMap (overlap? range)

/-- The character after another one.  Surrogates are no characters. -/
def after (code : Nat) : Nat :=
  if code = 0xd7ff then 0xe000 else code + 1

def before (code : Nat) : Nat :=
  if code = 0xe000 then 0xd7ff else code - 1

def without (range : Nat × Nat) : CodeRanges → CodeRanges
  | [] => [range]
  | taken :: rest =>
      if taken.2 < range.1 then without range rest
      else if range.2 < taken.1 then [range]
      else
        (if range.1 < taken.1 then [(range.1, before taken.1)] else []) ++
          (if taken.2 < range.2 then without (after taken.2, range.2) rest else [])

def difference (left right : CodeRanges) : CodeRanges :=
  left.flatMap fun range => without range right

def symmetricDifference (left right : CodeRanges) : CodeRanges :=
  difference (union [left, right]) (inter left right)

/-- The gaps behind a code point.  A gap of surrogates alone is given by the characters on its two
sides. -/
def gapsAfter (code : Nat) : CodeRanges → CodeRanges
  | [] => if code < lastCode then [(after code, lastCode)] else []
  | range :: rest =>
      let first := after code
      let last := before range.1
      (min first last, max first last) :: gapsAfter range.2 rest

def complement : CodeRanges → CodeRanges
  | [] => [(0, lastCode)]
  | range :: rest =>
      (if range.1 = 0 then [] else [(0, before range.1)]) ++ gapsAfter range.2 rest

end CodeRanges

end Schemata.Text
