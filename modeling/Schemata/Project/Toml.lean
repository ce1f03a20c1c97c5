import Schemata.Binary64.Reader
import Schemata.Moment.Calendar
import Schemata.Project.Document

/-!
# Reading TOML

A reader of configuration files in TOML.  Keys, all kinds of strings and numbers, dates, arrays,
inline tables, tables and arrays of tables are read.  No setting takes a date or a time, so that
these are checked and not kept.
-/

namespace Schemata.Toml

open Text

abbrev Rest := List Char

def quote : Char := '\x22'

def tick : Char := '\x27'

def skipBlanks (text : Rest) : Rest :=
  text.dropWhile fun char => char == ' ' || char == '\t'

def isPlain (char : Char) : Bool :=
  char == '\t' || (0x20 ≤ char.toNat && char.toNat != 0x7f)

/-- Drops a comment, up to the end of its line or to a character that has no place in it. -/
def skipComment : Rest → Rest
  | '#' :: rest => rest.dropWhile isPlain
  | text => text

def skipLines : (turns : Nat) → Rest → Rest
  | 0, text => text
  | turns + 1, text =>
      match skipComment (skipBlanks text) with
      | '\n' :: rest => skipLines turns rest
      | '\r' :: '\n' :: rest => skipLines turns rest
      | rest => rest

def skipSpace (text : Rest) : Rest :=
  skipLines text.length text

def digit? (char : Char) : Option Nat :=
  if Character.isDigit char then some (char.toNat - '0'.toNat)
  else if 'a' ≤ char ∧ char ≤ 'f' then some (char.toNat - 'a'.toNat + 10)
  else if 'A' ≤ char ∧ char ≤ 'F' then some (char.toNat - 'A'.toNat + 10)
  else none

def value? (base : Nat) (digits : List Char) : Option Nat :=
  if digits.isEmpty then none
  else digits.foldlM (fun total char => do
    let digit ← digit? char
    if digit < base then some (base * total + digit) else none) 0

def codePoint? (count : Nat) (text : Rest) : Option (Char × Rest) := do
  let digits := text.take count
  if digits.length < count then none
  let code ← value? 16 digits
  if code.isValidChar then return (Char.ofNat code, text.drop count) else none

def escape? : Rest → Option (Char × Rest)
  | 'b' :: rest => some ('\x08', rest)
  | 't' :: rest => some ('\t', rest)
  | 'n' :: rest => some ('\n', rest)
  | 'f' :: rest => some ('\x0c', rest)
  | 'r' :: rest => some ('\r', rest)
  | '\\' :: rest => some ('\\', rest)
  | 'u' :: rest => codePoint? 4 rest
  | 'U' :: rest => codePoint? 8 rest
  | char :: rest => if char = quote then some (quote, rest) else none
  | [] => none

def lineString? (mark : Char) : (steps : Nat) → Rest → Option (List Char × Rest)
  | 0, _ => none
  | _ + 1, [] => none
  | steps + 1, char :: rest =>
      if char = mark then some ([], rest)
      else if char = '\\' ∧ mark = quote then do
        let (char, rest) ← escape? rest
        let (chars, rest) ← lineString? mark steps rest
        return (char :: chars, rest)
      else if isPlain char then do
        let (chars, rest) ← lineString? mark steps rest
        return (char :: chars, rest)
      else none

def afterLineEnd? (text : Rest) : Option Rest :=
  let isSpace (char : Char) := char == ' ' || char == '\t' || char == '\n' || char == '\r'
  match skipBlanks text with
  | '\n' :: rest => some (rest.dropWhile isSpace)
  | '\r' :: '\n' :: rest => some (rest.dropWhile isSpace)
  | _ => none

/-- The characters of a string over several lines, up to three closing marks.  Up to two marks more
belong to the string, and every line ends in a line feed alone. -/
def blockString? (mark : Char) : (steps : Nat) → Rest → Option (List Char × Rest)
  | 0, _ => none
  | _ + 1, [] => none
  | steps + 1, char :: rest =>
      let marks := (char :: rest).takeWhile (· == mark)
      if 3 ≤ marks.length then
        let kept := min (marks.length - 3) 2
        some (List.replicate kept mark, (char :: rest).drop (kept + 3))
      else if char = '\\' ∧ mark = quote then
        match afterLineEnd? rest with
        | some rest => blockString? mark steps rest
        | none => do
            let (char, rest) ← escape? rest
            let (chars, rest) ← blockString? mark steps rest
            return (char :: chars, rest)
      else if char = '\r' then
        match rest with
        | '\n' :: rest => (blockString? mark steps rest).map fun read => ('\n' :: read.1, read.2)
        | _ => none
      else if isPlain char ∨ char = '\n' then do
        let (chars, rest) ← blockString? mark steps rest
        return (char :: chars, rest)
      else none

def string? (mark : Char) (text : Rest) : Option (String × Rest) := do
  let (chars, rest) ← match text with
    | second :: third :: rest =>
        if second = mark ∧ third = mark then
          let body := match rest with
            | '\n' :: body => body
            | '\r' :: '\n' :: body => body
            | body => body
          blockString? mark (body.length + 1) body
        else lineString? mark (text.length + 1) text
    | _ => lineString? mark (text.length + 1) text
  return (String.ofList chars, rest)

def isBare (char : Char) : Bool :=
  char.isAlphanum || char == '_' || char == '-'

def simpleKey? (text : Rest) : Option (String × Rest) :=
  match text with
  | [] => none
  | char :: rest =>
      if char = quote ∨ char = tick then
        (lineString? char (rest.length + 1) rest).map fun read => (String.ofList read.1, read.2)
      else
        let bare := text.takeWhile isBare
        if bare.isEmpty then none else some (String.ofList bare, text.drop bare.length)

def levelLimit : Nat := 79

def key? : (levels : Nat) → Rest → Option (List String × Rest)
  | 0, _ => none
  | levels + 1, text => do
      let (part, rest) ← simpleKey? (skipBlanks text)
      match skipBlanks rest with
      | '.' :: rest =>
          let (parts, rest) ← key? levels rest
          return (part :: parts, rest)
      | rest => return ([part], rest)

/-- Removes underscores, each of which stands between two digits. -/
def withoutUnderscores? (isDigit : Char → Bool) : List Char → Option (List Char)
  | [] => some []
  | ['_'] => none
  | '_' :: _ => none
  | left :: '_' :: right :: rest =>
      if isDigit left ∧ isDigit right then
        (withoutUnderscores? isDigit (right :: rest)).map (left :: ·)
      else none
  | char :: rest => (withoutUnderscores? isDigit rest).map (char :: ·)

def basedInteger? (base : Nat) (word : List Char) : Option Int := do
  let digits ← withoutUnderscores? (fun char => (digit? char).isSome) word
  let value ← value? base digits
  let value ← Decimal.toInt64? value
  return value.toInt

def integer? (word : List Char) : Option Int :=
  let digits := (Decimal.splitSign word).2
  if digits.head? = some '0' ∧ 1 < digits.length then none
  else (Decimal.integer? word).bind fun value => (Decimal.toInt64? value).map fun _ => value

/-- A double: digits with a point, which has digits on both sides, or with an exponent.  One beyond
the greatest finite double is refused. -/
def float? (word : List Char) : Option Binary64 :=
  let unsigned := (Decimal.splitSign word).2
  let whole := unsigned.takeWhile Character.isDigit
  let pointed := match unsigned.drop whole.length with
    | '.' :: rest => (rest.head?).any Character.isDigit
    | _ => true
  if unsigned = "inf".toList ∨ unsigned = "nan".toList then Binary64.ofText? word
  else if whole.isEmpty ∨ whole.length = unsigned.length ∨ !pointed then none
  else if whole.head? = some '0' ∧ 1 < whole.length then none
  else
    match Binary64.ofDecimalText? word with
    | some value =>
        if value.isFinite ∨ word.head? = some '-' then some value else none
    | none => none

def part? (count low high : Nat) (text : Rest) : Option (Nat × Rest) := do
  let digits := text.take count
  if digits.length < count ∨ !digits.all Character.isDigit then none
  let value := Decimal.value digits
  if low ≤ value ∧ value ≤ high then return (value, text.drop count) else none

def after? (expected : Char) : Rest → Option Rest
  | char :: rest => if char = expected then some rest else none
  | [] => none

def afterDate? (text : Rest) : Option Rest := do
  let (year, rest) ← part? 4 0 9999 text
  let rest ← after? '-' rest
  let (month, rest) ← part? 2 1 12 rest
  let rest ← after? '-' rest
  let (day, rest) ← part? 2 1 31 rest
  let month ← Month.ofNumber? month
  let _ ← Date.ofMonthDay? year month day
  return rest

def afterTime? (text : Rest) : Option Rest := do
  let (_, rest) ← part? 2 0 23 text
  let rest ← after? ':' rest
  let (_, rest) ← part? 2 0 59 rest
  let rest ← after? ':' rest
  let (_, rest) ← part? 2 0 60 rest
  match rest with
  | '.' :: rest =>
      let digits := rest.takeWhile Character.isDigit
      if digits.isEmpty then none else return rest.drop digits.length
  | _ => return rest

def afterOffset? : Rest → Option Rest
  | [] => some []
  | char :: rest =>
      if char = 'Z' ∨ char = 'z' then some rest
      else if char = '+' ∨ char = '-' then do
        let (_, rest) ← part? 2 0 23 rest
        let rest ← after? ':' rest
        let (_, rest) ← part? 2 0 59 rest
        return rest
      else some (char :: rest)

def isMoment (word : List Char) : Bool :=
  let digits := word.takeWhile Character.isDigit
  match word.drop digits.length with
  | '-' :: _ => digits.length == 4
  | ':' :: _ => digits.length == 2
  | _ => false

def isWholeMoment (word : List Char) : Bool :=
  match afterDate? word with
  | some [] => true
  | some (delimiter :: rest) =>
      (delimiter == 'T' || delimiter == 't' || delimiter == ' ') &&
        ((afterTime? rest).bind afterOffset?) == some []
  | none => afterTime? word == some []

def scalar? (word : List Char) : Option Document :=
  if word = "true".toList then some (.bool true)
  else if word = "false".toList then some (.bool false)
  else if isMoment word then (if isWholeMoment word then some .null else none)
  else
    match word with
    | '0' :: 'x' :: digits => (basedInteger? 16 digits).map .integer
    | '0' :: 'o' :: digits => (basedInteger? 8 digits).map .integer
    | '0' :: 'b' :: digits => (basedInteger? 2 digits).map .integer
    | _ => do
        let digits ← withoutUnderscores? Character.isDigit word
        match integer? digits with
        | some value => return .integer value
        | none => (float? digits).map .float

def isScalar (char : Char) : Bool :=
  isBare char || char == '+' || char == '.' || char == ':'

def scalarWord (text : Rest) : List Char × Rest :=
  let word := text.takeWhile isScalar
  let rest := text.drop word.length
  match rest with
  | ' ' :: more =>
      let time := more.takeWhile isScalar
      if isMoment word && isMoment time then (word ++ ' ' :: time, more.drop time.length)
      else (word, rest)
  | _ => (word, rest)

/-- Where a table comes from: a header of its own, a header or a key that leads through it. -/
inductive Origin where
  | header
  | implied
  | dotted
  deriving DecidableEq

/-- A part of a file: a value, a table that can still grow, or tables under one key, of which the
last one can. -/
inductive Item where
  | value (value : Document)
  | table (origin : Origin) (entries : List (String × Item))
  | tables (earlier : List (List (String × Item))) (last : List (String × Item))

abbrev Entries := List (String × Item)

mutual

def Item.document : Item → Document
  | .value value => value
  | .table _ entries => .table (entryDocuments entries)
  | .tables earlier last => .list (tableDocuments earlier ++ [.table (entryDocuments last)])

def entryDocuments : List (String × Item) → List (String × Document)
  | [] => []
  | (key, item) :: rest => (key, item.document) :: entryDocuments rest

def tableDocuments : List (List (String × Item)) → List Document
  | [] => []
  | entries :: rest => .table (entryDocuments entries) :: tableDocuments rest

end

/-- Changes the table at the end of a path.  A header's path implies the tables it leads through,
and a key's path makes them its own and leads through no table that has a header. -/
def changeAt (dotted : Bool) (change : Origin → Entries → Option Entries) :
    (path : List String) → Origin → Entries → Option Entries
  | [], origin, entries => change origin entries
  | name :: rest, _, entries =>
      match Dict.get? entries name with
      | none =>
          let origin := if dotted then Origin.dotted else .implied
          (changeAt dotted change rest origin []).map fun inner =>
            Dict.insert entries name (.table origin inner)
      | some (.value _) => none
      | some (.table origin inner) =>
          if dotted ∧ origin = .header then none
          else (changeAt dotted change rest origin inner).map fun inner =>
            Dict.insert entries name (.table origin inner)
      | some (.tables earlier last) =>
          (changeAt dotted change rest .header last).map fun last =>
            Dict.insert entries name (.tables earlier last)

/-- Puts a value under a key, which adds to no table that another line has made otherwise. -/
def putValue (key : List String) (value : Document) (entries : Entries) : Option Entries :=
  match key.getLast? with
  | none => none
  | some name =>
      let path := key.dropLast
      let put (origin : Origin) (entries : Entries) : Option Entries :=
        if (origin == .dotted) == path.isEmpty then none
        else if Dict.contains entries name then none
        else some (Dict.insert entries name (.value value))
      changeAt true put path .header entries

def openTable (path : List String) (entries : Entries) : Option Entries :=
  match path.getLast? with
  | none => none
  | some name =>
      let opened (_ : Origin) (entries : Entries) : Option Entries :=
        match Dict.get? entries name with
        | none => some (Dict.insert entries name (.table .header []))
        | some (.table .implied inner) => some (Dict.insert entries name (.table .header inner))
        | some _ => none
      changeAt false opened path.dropLast .header entries

def appendTable (path : List String) (entries : Entries) : Option Entries :=
  match path.getLast? with
  | none => none
  | some name =>
      let appended (_ : Origin) (entries : Entries) : Option Entries :=
        match Dict.get? entries name with
        | none => some (Dict.insert entries name (.tables [] []))
        | some (.tables earlier last) =>
            some (Dict.insert entries name (.tables (earlier ++ [last]) []))
        | some _ => none
      changeAt false appended path.dropLast .header entries

mutual

/-- A value.  The steps bound the number of calls, and the levels the nesting of containers. -/
def document? : (steps levels : Nat) → Rest → Option (Document × Rest)
  | 0, _, _ => none
  | steps + 1, levels, text =>
      match text with
      | '[' :: rest =>
          if levels = 0 then none
          else (items? steps (levels - 1) rest).map fun read => (.list read.1, read.2)
      | '\x7b' :: rest =>
          if levels = 0 then none
          else
            match skipBlanks rest with
            | '\x7d' :: rest => some (.table [], rest)
            | rest => (members? steps (levels - 1) [] rest).map fun read =>
                (.table (entryDocuments read.1), read.2)
      | char :: rest =>
          if char = quote ∨ char = tick then
            (string? char rest).map fun read => (.text read.1, read.2)
          else do
            let (word, rest) := scalarWord text
            let value ← scalar? word
            return (value, rest)
      | [] => none

def items? : (steps levels : Nat) → Rest → Option (List Document × Rest)
  | 0, _, _ => none
  | steps + 1, levels, text =>
      match skipSpace text with
      | ']' :: rest => some ([], rest)
      | text => do
          let (item, rest) ← document? steps levels text
          match skipSpace rest with
          | ']' :: rest => return ([item], rest)
          | ',' :: rest =>
              let (items, rest) ← items? steps levels rest
              return (item :: items, rest)
          | _ => none

def members? : (steps levels : Nat) → (entries : Entries) → Rest → Option (Entries × Rest)
  | 0, _, _, _ => none
  | steps + 1, levels, entries, text => do
      let (key, value, rest) ← member? steps levels text
      let entries ← putValue key value entries
      match skipBlanks rest with
      | '\x7d' :: rest => return (entries, rest)
      | ',' :: rest => members? steps levels entries rest
      | _ => none

def member? : (steps levels : Nat) → Rest → Option (List String × Document × Rest)
  | 0, _, _ => none
  | steps + 1, levels, text => do
      let (key, rest) ← key? levelLimit text
      match rest with
      | '=' :: rest =>
          let (value, rest) ← document? steps levels (skipBlanks rest)
          return (key, value, rest)
      | _ => none

end

structure Reading where
  entries : Entries := []
  path : List String := []

def Reading.line? (reading : Reading) (text : Rest) : Option (Reading × Rest) :=
  match text with
  | '[' :: '[' :: rest => do
      let (path, rest) ← key? levelLimit rest
      let rest ← (after? ']' rest).bind (after? ']')
      let entries ← appendTable path reading.entries
      return ({ entries, path }, rest)
  | '[' :: rest => do
      let (path, rest) ← key? levelLimit rest
      let rest ← after? ']' rest
      let entries ← openTable path reading.entries
      return ({ entries, path }, rest)
  | _ => do
      let (key, value, rest) ← member? (4 * text.length + 4) levelLimit text
      let put (_ : Origin) (entries : Entries) : Option Entries := putValue key value entries
      let entries ← changeAt false put reading.path .header reading.entries
      return ({ reading with entries }, rest)

def readLines? : (turns : Nat) → Reading → Rest → Option Reading
  | 0, _, _ => none
  | turns + 1, reading, text =>
      match skipSpace text with
      | [] => some reading
      | text => do
          let (reading, rest) ← reading.line? text
          match skipComment (skipBlanks rest) with
          | [] => return reading
          | '\n' :: rest => readLines? turns reading rest
          | '\r' :: '\n' :: rest => readLines? turns reading rest
          | _ => none

/-- The configuration of a TOML text, which can open with a byte order mark. -/
def read? (text : String) : Option Document :=
  let chars := match text.toList with
    | '\ufeff' :: rest => rest
    | chars => chars
  (readLines? (chars.length + 1) {} chars).map fun reading =>
    .table (entryDocuments reading.entries)

end Schemata.Toml
