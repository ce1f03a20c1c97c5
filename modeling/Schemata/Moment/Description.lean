import Schemata.Text.Decimal

/-!
# Format descriptions

A description spells a date or a time as literal text and components in brackets, such as
`[year]-[month]-[day]`.  A component can carry modifiers, a name and a value with a colon between
them, and behind these further descriptions between brackets of their own.  Two opening brackets
stand for one of them as literal text.
-/

namespace Schemata

inductive Description.Padding where
  | space
  | zero
  | none
  deriving DecidableEq

inductive Description.MonthForm where
  | number
  | long
  | short

inductive Description.WeekdayForm where
  | short
  | long
  | fromSunday
  | fromMonday

inductive Description.WeekForm where
  | iso
  | sunday
  | monday

inductive Description.YearForm where
  | full
  | century
  | lastTwo

inductive Description.Precision where
  | second
  | millisecond
  | microsecond
  | nanosecond

inductive Description.Component where
  | day (padding : Description.Padding)
  | month (padding : Description.Padding) (form : Description.MonthForm) (exactCase : Bool)
  | ordinal (padding : Description.Padding)
  | weekday (form : Description.WeekdayForm) (oneIndexed exactCase : Bool)
  | weekNumber (padding : Description.Padding) (form : Description.WeekForm)
  | year (padding : Description.Padding) (form : Description.YearForm) (ofWeek signed : Bool)
  | hour (padding : Description.Padding) (twelve : Bool)
  | minute (padding : Description.Padding)
  | period (upper exactCase : Bool)
  | second (padding : Description.Padding)
  /-- A fixed number of digits, or as many as there are. -/
  | subsecond (digits : Option Nat)
  | offsetHour (padding : Description.Padding) (signed : Bool)
  | offsetMinute (padding : Description.Padding)
  | offsetSecond (padding : Description.Padding)
  | ignore (count : Nat)
  | unixTimestamp (precision : Description.Precision) (signed : Bool)
  /-- The end of the text, which may discard what is left. -/
  | stop (discards : Bool)

inductive Description where
  | literal (text : String)
  | component (component : Description.Component)
  | sequence (items : List Description)
  | optional (item : Description)
  | first (items : List Description)

/-- Why a text is no format description.  Places are counted in bytes. -/
inductive Description.Error where
  | unclosedBracket (index : Nat)
  | unknownComponent (name : String) (index : Nat)
  | invalidModifier (value : String) (index : Nat)
  | missingName (index : Nat)
  | missingModifier (name : String) (index : Nat)
  | expected (what : String) (index : Nat)
  | unsupported (what context : String) (index : Nat)

namespace Description

def Error.message : Error → String
  | .unclosedBracket index => s!"unclosed opening bracket at byte index {index}"
  | .unknownComponent name index => s!"invalid component name `{name}` at byte index {index}"
  | .invalidModifier value index => s!"invalid modifier `{value}` at byte index {index}"
  | .missingName index => s!"missing component name at byte index {index}"
  | .missingModifier name index =>
      s!"missing required modifier `{name}` for component at byte index {index}"
  | .expected what index => s!"expected {what} at byte index {index}"
  | .unsupported what context index =>
      s!"{what} is not supported in {context} at byte index {index}"

/-- A token of a description.  A stretch of text carries the index of its first byte, and a word
also that of its last one. -/
inductive Piece where
  | opening (index : Nat)
  | closing (index : Nat)
  | blank (text : List Char) (start : Nat)
  | word (text : List Char) (start last : Nat)
  | backslash

def isBlank (char : Char) : Bool :=
  char == ' ' || char == '\t' || char == '\n' || char == '\x0c' || char == '\r'

def byteLength (text : List Char) : Nat :=
  text.foldl (fun total char => total + char.utf8Size) 0

def isWordChar (char : Char) : Bool :=
  !(char == '\\' || char == '[' || char == ']' || isBlank char)

/-- The tokens of the rest of a description that begins at a byte.  Every token takes a character,
so the length of the rest bounds the number of steps. -/
def pieces : (steps index : Nat) → List Char → List Piece
  | 0, _, _ => []
  | _ + 1, _, [] => []
  | steps + 1, index, char :: rest =>
      if char = '[' then .opening index :: pieces steps (index + 1) rest
      else if char = ']' then .closing index :: pieces steps (index + 1) rest
      else if char = '\\' then .backslash :: pieces steps (index + 1) rest
      else
        let goesOn := if isBlank char then isBlank else isWordChar
        let text := char :: rest.takeWhile goesOn
        let stop := index + byteLength text
        let last := stop - (text.getLast?.map Char.utf8Size).getD 1
        let piece := if isBlank char then Piece.blank text index else .word text index last
        piece :: pieces steps stop (rest.dropWhile goesOn)

structure Modifier where
  key : List Char
  keyIndex : Nat
  value : List Char
  valueIndex : Nat

def isWord (word : List Char) (expected : String) : Bool :=
  word.map Char.toLower == expected.toList

abbrev Choices (α : Type) := List (String × α)

def paddings : Choices Padding :=
  [("space", .space), ("zero", .zero), ("none", .none)]

def switch (on off : String) : Choices Bool :=
  [(on, true), (off, false)]

/-- The modifiers of a component by key.  Each value of a key can occur, and an occurrence later in
the component wins. -/
structure Keys where
  padding : Option Padding := none
  month : Option MonthForm := none
  weekday : Option WeekdayForm := none
  week : Option WeekForm := none
  year : Option YearForm := none
  ofWeek : Option Bool := none
  signed : Option Bool := none
  twelve : Option Bool := none
  exactCase : Option Bool := none
  oneIndexed : Option Bool := none
  upper : Option Bool := none
  digits : Option (Option Nat) := none
  precision : Option Precision := none
  count : Option Nat := none
  discards : Option Bool := none
  written : Option Bool := none

structure Key where
  name : String
  read : List Char → Keys → Option Keys

def Key.choice {α : Type} (name : String) (choices : Choices α) (put : Keys → α → Keys) : Key where
  name := name
  read value keys := (choices.find? fun choice => isWord value choice.1).map (put keys ·.2)

def Key.paddingKey : Key :=
  .choice "padding" paddings fun keys padding => { keys with padding }

def Key.signKey : Key :=
  .choice "sign" (switch "mandatory" "automatic") fun keys signed => { keys with signed }

def Key.caseKey : Key :=
  .choice "case_sensitive" (switch "true" "false") fun keys exactCase => { keys with exactCase }

def digitCounts : Choices (Option Nat) :=
  [("1", some 1), ("2", some 2), ("3", some 3), ("4", some 4), ("5", some 5), ("6", some 6),
    ("7", some 7), ("8", some 8), ("9", some 9), ("1+", none)]

def readCount (value : List Char) (keys : Keys) : Option Keys := do
  let value := if value.head? = some '+' then value.drop 1 else value
  let count ← Text.Decimal.natural? value
  if 1 ≤ count ∧ count < 65536 then some { keys with count } else none

def readKeys (known : List Key) : List Modifier → Keys → Except Error Keys
  | [], keys => .ok keys
  | modifier :: rest, keys =>
      match known.find? fun key => isWord modifier.key key.name with
      | none => .error (.invalidModifier (String.ofList modifier.key) modifier.keyIndex)
      | some key =>
          match key.read modifier.value keys with
          | some keys => readKeys known rest keys
          | none => .error (.invalidModifier (String.ofList modifier.value) modifier.valueIndex)

def lookUp (name : List Char) (index : Nat) (modifiers : List Modifier) :
    Except Error Component := do
  let padded (make : Padding → Component) : Except Error Component := do
    let keys ← readKeys [.paddingKey] modifiers {}
    return make (keys.padding.getD .zero)
  if isWord name "day" then padded .day
  else if isWord name "minute" then padded .minute
  else if isWord name "second" then padded .second
  else if isWord name "ordinal" then padded .ordinal
  else if isWord name "offset_minute" then padded .offsetMinute
  else if isWord name "offset_second" then padded .offsetSecond
  else if isWord name "end" then
    let trailing := Key.choice "trailing_input" (switch "discard" "prohibit")
      fun keys discards => { keys with discards }
    let keys ← readKeys [trailing] modifiers {}
    return .stop (keys.discards.getD false)
  else if isWord name "month" then
    let form := Key.choice "repr" [("numerical", .number), ("long", .long), ("short", .short)]
      fun keys (month : MonthForm) => { keys with month }
    let keys ← readKeys [.paddingKey, form, .caseKey] modifiers {}
    return .month (keys.padding.getD .zero) (keys.month.getD .number) (keys.exactCase.getD true)
  else if isWord name "weekday" then
    let form := Key.choice "repr"
      [("short", .short), ("long", .long), ("sunday", .fromSunday), ("monday", .fromMonday)]
      fun keys (weekday : WeekdayForm) => { keys with weekday }
    let indexed := Key.choice "one_indexed" (switch "true" "false")
      fun keys oneIndexed => { keys with oneIndexed }
    let keys ← readKeys [form, indexed, .caseKey] modifiers {}
    return .weekday (keys.weekday.getD .long) (keys.oneIndexed.getD true)
      (keys.exactCase.getD true)
  else if isWord name "week_number" then
    let form := Key.choice "repr" [("iso", .iso), ("sunday", .sunday), ("monday", .monday)]
      fun keys (week : WeekForm) => { keys with week }
    let keys ← readKeys [.paddingKey, form] modifiers {}
    return .weekNumber (keys.padding.getD .zero) (keys.week.getD .iso)
  else if isWord name "year" then
    let form := Key.choice "repr"
      [("full", .full), ("century", .century), ("last_two", .lastTwo)]
      fun keys (year : YearForm) => { keys with year }
    let range := Key.choice "range" (switch "standard" "extended") fun keys _ => keys
    let base := Key.choice "base" (switch "iso_week" "calendar")
      fun keys ofWeek => { keys with ofWeek }
    let keys ← readKeys [.paddingKey, form, range, base, .signKey] modifiers {}
    return .year (keys.padding.getD .zero) (keys.year.getD .full) (keys.ofWeek.getD false)
      (keys.signed.getD false)
  else if isWord name "hour" then
    let clock := Key.choice "repr" (switch "12" "24") fun keys twelve => { keys with twelve }
    let keys ← readKeys [.paddingKey, clock] modifiers {}
    return .hour (keys.padding.getD .zero) (keys.twelve.getD false)
  else if isWord name "period" then
    let case := Key.choice "case" (switch "upper" "lower") fun keys upper => { keys with upper }
    let keys ← readKeys [case, .caseKey] modifiers {}
    return .period (keys.upper.getD true) (keys.exactCase.getD true)
  else if isWord name "subsecond" then
    let digits := Key.choice "digits" digitCounts
      fun keys (digits : Option Nat) => { keys with digits }
    let keys ← readKeys [digits] modifiers {}
    return .subsecond (keys.digits.getD none)
  else if isWord name "offset_hour" then
    let keys ← readKeys [.signKey, .paddingKey] modifiers {}
    return .offsetHour (keys.padding.getD .zero) (keys.signed.getD false)
  else if isWord name "unix_timestamp" then
    let precision := Key.choice "precision"
      [("second", .second), ("millisecond", .millisecond), ("microsecond", .microsecond),
        ("nanosecond", .nanosecond)]
      fun keys (precision : Precision) => { keys with precision }
    let keys ← readKeys [precision, .signKey] modifiers {}
    return .unixTimestamp (keys.precision.getD .second) (keys.signed.getD false)
  else if isWord name "ignore" then
    let keys ← readKeys [{ name := "count", read := readCount }] modifiers {}
    match keys.count with
    | some count => return .ignore count
    | none => .error (.missingModifier "count" index)
  else .error (.unknownComponent (String.ofList name) index)

structure Progress where
  pieces : List Piece
  depth : Nat

/-- A step of reading takes tokens.  Those that a failing step took stay taken, and the brackets it
opened stay open. -/
abbrev Scan := ExceptT Error (StateM Progress)

def remaining : Scan (List Piece) :=
  return (← getThe Progress).pieces

def goOn (pieces : List Piece) : Scan Unit :=
  modifyThe Progress fun progress => { progress with pieces }

def depthLimit : Nat := 255

def openBracket : Scan Unit :=
  modifyThe Progress fun progress =>
    if progress.depth < depthLimit then
      { pieces := progress.pieces.drop 1, depth := progress.depth + 1 }
    else { progress with pieces := [] }

/-- Whether a closing bracket would end a nested description.  The brackets of components and of the
descriptions in them alternate, so that an even number of them is open inside a description.  After
one that could not be read the number can be odd, and closing brackets are text. -/
def endsNested : Scan Bool :=
  return (← getThe Progress).depth % 2 = 0

def takeBlank : Scan Bool := do
  match ← remaining with
  | .blank .. :: rest =>
      goOn rest
      return true
  | _ => return false

def nextOpening? : Scan (Option Nat) := do
  match ← remaining with
  | .opening index :: _ => return some index
  | _ => return none

def close (opening : Nat) : Scan Nat := do
  match ← remaining with
  | .closing index :: rest =>
      modifyThe Progress fun progress => { pieces := rest, depth := progress.depth - 1 }
      return index
  | _ => throw (.unclosedBracket opening)

def modifier (word : List Char) (start last : Nat) : Except Error Modifier :=
  let key := word.takeWhile (· != ':')
  match word.drop key.length with
  | [] => .error (.invalidModifier (String.ofList word) start)
  | _ :: value =>
      if key.isEmpty then .error (.invalidModifier "" start)
      else if value.isEmpty then .error (.invalidModifier "" last)
      else .ok
        { key, keyIndex := start, value, valueIndex := start + byteLength key + 1 }

def takeModifiers : (steps : Nat) → Scan (List Modifier × Bool)
  | 0 => return ([], false)
  | steps + 1 => do
      if ← takeBlank then
        match ← remaining with
        | .word text start last :: rest =>
            goOn rest
            let found ← modifier text start last
            let (others, blank) ← takeModifiers steps
            return (found :: others, blank)
        | _ => return ([], true)
      else return ([], false)

def takeName (opening : Nat) : Scan (List Char × Nat) := do
  let missing ← match ← remaining with
    | .blank _ start :: rest =>
        goOn rest
        pure start
    | _ => pure opening
  match ← remaining with
  | .word name start _ :: rest =>
      goOn rest
      return (name, start)
  | _ => throw (.missingName missing)

def assemble (opening closing : Nat) (name : List Char) (index : Nat) (modifiers : List Modifier)
    (nested : List (Nat × Description)) : Except Error Description :=
  if isWord name "optional" then do
    let written := Key.choice "format" (switch "true" "false")
      fun keys written => { keys with written }
    let keys ← readKeys [written] modifiers {}
    match nested with
    | [] => throw (.expected "nested format description" closing)
    | [(_, item)] =>
        if keys.written = some false then
          throw (.unsupported "optional item with `format:false`" "v1 and v2 format descriptions"
            opening)
        return .optional item
    | (bracket, _) :: _ =>
        throw (.unsupported "more than one nested format description" "`optional` components"
          bracket)
  else if isWord name "first" then do
    let _ ← readKeys [] modifiers {}
    return .first (nested.map (·.2))
  else if nested.isEmpty then (lookUp name index modifiers).map .component
  else throw (.unsupported "nested format descriptions" "on this component" opening)

mutual

def readComponent : (steps opening : Nat) → Scan Description
  | 0, opening => throw (.unclosedBracket opening)
  | steps + 1, opening => do
      let (name, index) ← takeName opening
      let (modifiers, blank) ← takeModifiers (← remaining).length
      let nested ← readNestedAll steps
      let _ ← takeBlank
      let closing ← close opening
      match nested with
      | (bracket, _) :: _ =>
          if !blank then
            throw (.expected "whitespace before nested format description" bracket)
      | [] => pure ()
      assemble opening closing name index modifiers nested

def readNestedAll : (steps : Nat) → Scan (List (Nat × Description))
  | 0 => return []
  | steps + 1 => do
      match ← nextOpening? with
      | some bracket =>
          let item? ← tryCatch (some <$> readNested steps bracket) fun _ => pure none
          match item? with
          | some item => return (bracket, item) :: (← readNestedAll steps)
          | none => return []
      | none => return []

def readNested : (steps bracket : Nat) → Scan Description
  | 0, bracket => throw (.unclosedBracket bracket)
  | steps + 1, bracket => do
      openBracket
      let items ← readItems steps false
      let _ ← close bracket
      let _ ← takeBlank
      return .sequence items

/-- The items of a description up to the end, or up to its closing bracket when it is nested.  Two
opening brackets are one in literal text, and so is a closing one that closes nothing. -/
def readItems : (steps : Nat) → (outermost : Bool) → Scan (List Description)
  | 0, _ => return []
  | steps + 1, outermost => do
      match ← remaining with
      | [] => return []
      | .closing _ :: rest =>
          if !outermost && (← endsNested) then return []
          else
            goOn rest
            return .literal "]" :: (← readItems steps outermost)
      | .opening _ :: .opening _ :: rest =>
          goOn rest
          return .literal "[" :: (← readItems steps outermost)
      | .opening index :: _ =>
          openBracket
          let item ← readComponent steps index
          return item :: (← readItems steps outermost)
      | .backslash :: rest =>
          goOn rest
          return .literal "\\" :: (← readItems steps outermost)
      | .blank text _ :: rest | .word text _ _ :: rest =>
          goOn rest
          return .literal (String.ofList text) :: (← readItems steps outermost)

end

/-- The description a text spells.  The first fault from the left is the one reported, but one
inside a nested description only ends the list of those. -/
def parse (text : String) : Except Error Description :=
  let chars := text.toList
  let found := pieces (chars.length + 1) 0 chars
  let (result, _) := (readItems (4 * found.length + 4) true).run { pieces := found, depth := 0 }
  result.map .sequence

end Description

end Schemata
