/-!
# Byte sequences of characters

The bytes of characters in UTF-8, and the characters of a range as sequences of byte ranges.
-/

namespace Schemata.Text.Utf8

def bytes (code : Nat) : List Nat :=
  if code < 0x80 then [code]
  else if code < 0x800 then [0xc0 + code / 0x40, 0x80 + code % 0x40]
  else if code < 0x10000 then
    [0xe0 + code / 0x1000, 0x80 + code / 0x40 % 0x40, 0x80 + code % 0x40]
  else
    [0xf0 + code / 0x40000, 0x80 + code / 0x1000 % 0x40, 0x80 + code / 0x40 % 0x40,
      0x80 + code % 0x40]

abbrev Sequence := List (Nat × Nat)

/-- The codes on both sides of the borders at which ranges are parted: surrogates are left out, and
all characters of a range have the same number of bytes. -/
def borders : List (Nat × Nat) :=
  [(0xd7ff, 0xe000), (0x7f, 0x80), (0x7ff, 0x800), (0xffff, 0x10000)]

def partAt? (low high : Nat) (border : Nat × Nat) : Option ((Nat × Nat) × (Nat × Nat)) :=
  if low < border.2 ∧ border.1 < high then some ((low, border.1), (border.2, high)) else none

/-- The parts of a range whose ends differ above some low bits but do not begin and end with all of
them. -/
def partWithin? (low high size : Nat) : Option ((Nat × Nat) × (Nat × Nat)) :=
  if low / size = high / size then none
  else if low % size ≠ 0 then
    let border := (low / size + 1) * size
    some ((low, border - 1), (border, high))
  else if high % size ≠ size - 1 then
    let border := high / size * size
    some ((low, border - 1), (border, high))
  else none

def part? (low high : Nat) : Option ((Nat × Nat) × (Nat × Nat)) :=
  (borders.findSome? (partAt? low high)).or
    (if high < 0x80 then none
    else [0x40, 0x1000, 0x40000].findSome? (partWithin? low high))

/-- The characters of a range as sequences of byte ranges, in ascending order.  A range is parted
once at most at each of four borders and twice at each of three sizes. -/
def sequencesOf : (turns : Nat) → (low high : Nat) → List Sequence
  | 0, _, _ => []
  | turns + 1, low, high =>
      match part? low high with
      | some (left, right) =>
          sequencesOf turns left.1 left.2 ++ sequencesOf turns right.1 right.2
      | none => [(bytes low).zip (bytes high)]

def sequences (ranges : List (Nat × Nat)) : List Sequence :=
  ranges.flatMap fun range => sequencesOf 20 range.1 range.2

end Schemata.Text.Utf8
