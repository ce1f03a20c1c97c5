import Schemata.Moment.Basic
import Schemata.Moment.Description
import Schemata.Power

/-!
# Reading moments

A text is read byte by byte along a format description, which gathers the parts it names.  Parts
that fix a moment give that moment; parts without an offset are read in universal time, and a date
alone stands for its midnight.
-/

namespace Schemata.Moment

open Description

abbrev Bytes := List UInt8

inductive ReadError where
  | badDescription (error : Description.Error)
  | component (name : String)
  | literal
  | trailing
  | insufficient
  | outOfRange (name : String)

def ReadError.message : ReadError → String
  | .badDescription error => error.message
  | .component name => s!"the '{name}' component could not be parsed"
  | .literal => "a character literal was not valid"
  | .trailing => "unexpected trailing characters; the end of input was expected"
  | .insufficient =>
      "the `Parsed` struct did not include enough information to construct the type"
  | .outOfRange name => s!"{name} was not in range"

structure Parts where
  year : Option Int := none
  century : Option Int := none
  centuryNegative : Bool := false
  lastTwo : Option Nat := none
  weekYear : Option Int := none
  weekCentury : Option Int := none
  weekCenturyNegative : Bool := false
  weekLastTwo : Option Nat := none
  month : Option Month := none
  day : Option Nat := none
  ordinal : Option Nat := none
  weekday : Option Weekday := none
  isoWeek : Option Nat := none
  sundayWeek : Option Nat := none
  mondayWeek : Option Nat := none
  hour : Option Nat := none
  clockHour : Option Nat := none
  isPm : Option Bool := none
  minute : Option Nat := none
  second : Option Nat := none
  subsecond : Option Nat := none
  offsetNegative : Bool := false
  offsetHour : Option Int := none
  offsetMinute : Option Nat := none
  offsetSecond : Option Nat := none
  unixNanos : Option Int := none

def ascii (char : Char) : UInt8 :=
  char.toNat.toUInt8

def isDigit (byte : UInt8) : Bool :=
  ascii '0' ≤ byte && byte ≤ ascii '9'

def digitsValue (digits : Bytes) : Nat :=
  digits.foldl (fun value digit => 10 * value + (digit - ascii '0').toNat) 0

def digits? (least most : Nat) (text : Bytes) : Option (Nat × Bytes) :=
  let digits := (text.take most).takeWhile isDigit
  if least ≤ digits.length then some (digitsValue digits, text.drop digits.length) else none

def padded? (padding : Padding) (least most : Nat) (text : Bytes) : Option (Nat × Bytes) :=
  match padding with
  | .none => digits? 1 most text
  | .zero => digits? least most text
  | .space =>
      let blanks := ((text.take (least - 1)).takeWhile (· == ascii ' ')).length
      digits? (least - blanks) (most - blanks) (text.drop blanks)

def sign? : Bytes → Option (Bool × Bytes)
  | byte :: rest =>
      if byte = ascii '-' then some (true, rest)
      else if byte = ascii '+' then some (false, rest)
      else none
  | [] => none

def afterText? (exactCase : Bool) (expected : String) (text : Bytes) : Option Bytes :=
  let bytes := expected.toUTF8.toList
  let head := text.take bytes.length
  let lower (byte : UInt8) : UInt8 :=
    if ascii 'A' ≤ byte ∧ byte ≤ ascii 'Z' then byte + 32 else byte
  if (if exactCase then head == bytes else head.map lower == bytes.map lower) then
    some (text.drop bytes.length)
  else none

def firstOf? {α : Type} (exactCase : Bool) (text : Bytes) : List (String × α) → Option (α × Bytes)
  | [] => none
  | (spelling, value) :: others =>
      match afterText? exactCase spelling text with
      | some rest => some (value, rest)
      | none => firstOf? exactCase text others

def signed? (required : Bool) (number : Bytes → Option (Nat × Bytes)) (text : Bytes) :
    Option (Int × Bool × Bytes) :=
  match sign? text with
  | some (negative, rest) =>
      (number rest).map fun read => (if negative then -(read.1 : Int) else read.1, negative, read.2)
  | none =>
      if required then none
      else (number text).map fun read => ((read.1 : Int), false, read.2)

def inRange? {α : Type} [LE α] [DecidableLE α] (low high value : α) : Option α :=
  if low ≤ value ∧ value ≤ high then some value else none

/-- A fraction of a second with as many digits as there are up to a number of them; those past the
ninth do not count. -/
def fraction? (most : Nat) (text : Bytes) : Option (Nat × Bytes) :=
  let digits := (text.take most).takeWhile isDigit
  if digits.isEmpty then none
  else
    let kept := digits.take 9
    some (digitsValue kept * tenTo (9 - kept.length), text.drop digits.length)

def weekdays (form : WeekdayForm) (oneIndexed : Bool) : List (String × Weekday) :=
  Weekday.all.map fun weekday =>
    let shift := if oneIndexed then 1 else 0
    let spelling := match form with
      | .short => weekday.shortName
      | .long => weekday.name
      | .fromSunday => toString (weekday.fromSunday + shift)
      | .fromMonday => toString (weekday.fromMonday + shift)
    (spelling, weekday)

/-- The nanoseconds of a unit of time stamps, and the most digits a time stamp has in it. -/
def precisionUnit : Precision → Nat × Nat
  | .second => (1000000000, 14)
  | .millisecond => (1000000, 17)
  | .microsecond => (1000, 20)
  | .nanosecond => (1, 23)

/-- The nanoseconds of the first and of the last moment of the years -9999 to 9999. -/
def nanosRange : Int × Int :=
  ((Date.mk (-9999) 1).dayNumber * nanosPerDay, (Date.mk 10000 1).dayNumber * nanosPerDay - 1)

def readYear? (padding : Padding) (form : YearForm) (ofWeek signed : Bool) (parts : Parts)
    (text : Bytes) : Option (Parts × Bytes) :=
  match form with
  | .full => do
      let (year, _, rest) ← signed? signed (padded? padding 4 4) text
      return (if ofWeek then { parts with weekYear := some year }
        else { parts with year := some year }, rest)
  | .century => do
      let (century, negative, rest) ← match sign? text with
        | some _ => signed? signed (padded? padding 2 2) text
        | none => signed? signed (padded? padding 1 2) text
      return (if ofWeek then
          { parts with weekCentury := some century, weekCenturyNegative := negative }
        else { parts with century := some century, centuryNegative := negative }, rest)
  | .lastTwo => do
      let (lastTwo, rest) ← padded? padding 2 2 text
      return (if ofWeek then { parts with weekLastTwo := some lastTwo }
        else { parts with lastTwo := some lastTwo }, rest)

def readComponent? (parts : Parts) (text : Bytes) : Component → Option (Parts × Bytes)
  | .day padding => do
      let (day, rest) ← padded? padding 2 2 text
      let day ← inRange? 1 31 day
      return ({ parts with day }, rest)
  | .month padding form exactCase =>
      match form with
      | .number => do
          let (number, rest) ← padded? padding 2 2 text
          let month ← Month.ofNumber? number
          return ({ parts with month }, rest)
      | .long => do
          let (month, rest) ← firstOf? exactCase text (Month.all.map fun month =>
            (month.name, month))
          return ({ parts with month }, rest)
      | .short => do
          let (month, rest) ← firstOf? exactCase text (Month.all.map fun month =>
            (month.shortName, month))
          return ({ parts with month }, rest)
  | .ordinal padding => do
      let (ordinal, rest) ← padded? padding 3 3 text
      let ordinal ← inRange? 1 366 ordinal
      return ({ parts with ordinal }, rest)
  | .weekday form oneIndexed exactCase => do
      let (weekday, rest) ← firstOf? exactCase text (weekdays form oneIndexed)
      return ({ parts with weekday }, rest)
  | .weekNumber padding form => do
      let (week, rest) ← padded? padding 2 2 text
      match form with
      | .iso => do
          let isoWeek ← inRange? 1 53 week
          return ({ parts with isoWeek }, rest)
      | .sunday => do
          let sundayWeek ← inRange? 0 53 week
          return ({ parts with sundayWeek }, rest)
      | .monday => do
          let mondayWeek ← inRange? 0 53 week
          return ({ parts with mondayWeek }, rest)
  | .year padding form ofWeek signed => readYear? padding form ofWeek signed parts text
  | .hour padding twelve => do
      let (hour, rest) ← padded? padding 2 2 text
      if twelve then
        let clockHour ← inRange? 1 12 hour
        return ({ parts with clockHour }, rest)
      else
        let hour ← inRange? 0 23 hour
        return ({ parts with hour }, rest)
  | .minute padding => do
      let (minute, rest) ← padded? padding 2 2 text
      let minute ← inRange? 0 59 minute
      return ({ parts with minute }, rest)
  | .period upper exactCase => do
      let (isPm, rest) ← firstOf? (upper && exactCase) text [("AM", false), ("PM", true)]
      return ({ parts with isPm }, rest)
  | .second padding => do
      let (second, rest) ← padded? padding 2 2 text
      let second ← inRange? 0 60 second
      return ({ parts with second }, rest)
  | .subsecond (some count) => do
      let (value, rest) ← digits? count count text
      return ({ parts with subsecond := some (value * tenTo (9 - count)) }, rest)
  | .subsecond none => do
      let (subsecond, rest) ← fraction? 32 text
      return ({ parts with subsecond }, rest)
  | .offsetHour padding signed => do
      let (hour, offsetNegative, rest) ← signed? signed (padded? padding 2 2) text
      let offsetHour ← inRange? (-25) 25 hour
      return ({ parts with offsetHour, offsetNegative }, rest)
  | .offsetMinute padding => do
      let (minute, rest) ← padded? padding 2 2 text
      let offsetMinute ← inRange? 0 59 minute
      return ({ parts with offsetMinute }, rest)
  | .offsetSecond padding => do
      let (second, rest) ← padded? padding 2 2 text
      let offsetSecond ← inRange? 0 59 second
      return ({ parts with offsetSecond }, rest)
  | .ignore count => if count ≤ text.length then some (parts, text.drop count) else none
  | .unixTimestamp precision signed => do
      let (unit, width) := precisionUnit precision
      let (stamp, _, rest) ← signed? signed (digits? 1 width) text
      let unixNanos ← inRange? nanosRange.1 nanosRange.2 (stamp * unit)
      return ({ parts with unixNanos }, rest)
  | .stop discards => if discards || text.isEmpty then some (parts, []) else none

def componentError : Component → ReadError
  | .day _ => .component "day"
  | .month .. => .component "month"
  | .ordinal _ => .component "ordinal"
  | .weekday .. => .component "weekday"
  | .weekNumber .. => .component "week number"
  | .year .. => .component "year"
  | .hour .. => .component "hour"
  | .minute _ => .component "minute"
  | .period .. => .component "period"
  | .second _ => .component "second"
  | .subsecond _ => .component "subsecond"
  | .offsetHour .. => .component "offset hour"
  | .offsetMinute _ => .component "offset minute"
  | .offsetSecond _ => .component "offset second"
  | .ignore _ => .component "ignore"
  | .unixTimestamp .. => .component "unix_timestamp"
  | .stop _ => .trailing

mutual

/-- The parts a description finds at the head of the input.  An optional description that is not
found takes nothing, and of several the first one found counts. -/
def readParts (parts : Parts) (text : Bytes) : Description → Except ReadError (Parts × Bytes)
  | .literal expected =>
      match afterText? true expected text with
      | some rest => .ok (parts, rest)
      | none => .error .literal
  | .component part =>
      match readComponent? parts text part with
      | some read => .ok read
      | none => .error (componentError part)
  | .sequence items => readSequence parts text items
  | .optional item =>
      match readParts parts text item with
      | .ok read => .ok read
      | .error _ => .ok (parts, text)
  | .first items => readFirst parts text none items

def readSequence (parts : Parts) (text : Bytes) :
    List Description → Except ReadError (Parts × Bytes)
  | [] => .ok (parts, text)
  | item :: items =>
      match readParts parts text item with
      | .ok (parts, rest) => readSequence parts rest items
      | .error error => .error error

def readFirst (parts : Parts) (text : Bytes) (earlier : Option ReadError) :
    List Description → Except ReadError (Parts × Bytes)
  | [] =>
      match earlier with
      | some error => .error error
      | none => .ok (parts, text)
  | item :: items =>
      match readParts parts text item with
      | .ok read => .ok read
      | .error error => readFirst parts text (some (earlier.getD error)) items

end

def joinCentury (century : Option Int) (negative : Bool) (lastTwo : Option Nat) : Option Int := do
  let century ← century
  let lastTwo ← lastTwo
  return if negative then 100 * century - lastTwo else 100 * century + lastTwo

def weekShift (year : Int) : Int :=
  match (Date.mk year 1).weekday with
  | .monday => 7
  | .tuesday => 1
  | .wednesday => 2
  | .thursday => 3
  | .friday => 4
  | .saturday => 5
  | .sunday => 6

def dateOfDay (year day : Int) : Except ReadError Date :=
  match Date.ofOrdinal? year day.toNat with
  | some date => .ok date
  | none => .error (.outOfRange "ordinal")

def Parts.date (parts : Parts) : Except ReadError Date :=
  let year := parts.year <|> joinCentury parts.century parts.centuryNegative parts.lastTwo
  let weekYear :=
    parts.weekYear <|> joinCentury parts.weekCentury parts.weekCenturyNegative parts.weekLastTwo
  match year, parts.ordinal, parts.month, parts.day with
  | some year, some ordinal, _, _ => dateOfDay year ordinal
  | some year, none, some month, some day =>
      match Date.ofMonthDay? year month day with
      | some date => .ok date
      | none => .error (.outOfRange "day")
  | _, _, _, _ =>
      match weekYear, parts.isoWeek, parts.weekday with
      | some year, some week, some weekday =>
          match Date.ofIsoWeek? year week weekday with
          | some date => if 9999 < date.year then .error (.outOfRange "weekday") else .ok date
          | none => .error (.outOfRange "week")
      | _, _, _ =>
          match year, parts.sundayWeek, parts.mondayWeek, parts.weekday with
          | some year, some week, _, some weekday =>
              dateOfDay year (7 * week + weekday.fromSunday - weekShift year + 1)
          | some year, none, some week, some weekday =>
              dateOfDay year (7 * week + weekday.fromMonday - weekShift year + 1)
          | _, _, _, _ => .error .insufficient

def Parts.dayHour (parts : Parts) : Option Nat :=
  match parts.hour, parts.clockHour, parts.isPm with
  | some hour, _, _ => some hour
  | none, some hour, some isPm => some (hour % 12 + if isPm then 12 else 0)
  | _, _, _ => none

/-- The time of day the parts fix.  A smaller unit counts only below all larger ones. -/
def Parts.time (parts : Parts) : Except ReadError TimeOfDay :=
  match parts.dayHour with
  | none => .error .insufficient
  | some hour =>
      match parts.minute, parts.second, parts.subsecond with
      | none, none, none => .ok ⟨hour, 0, 0, 0⟩
      | some minute, none, none => .ok ⟨hour, minute, 0, 0⟩
      | some minute, some second, subsecond =>
          if second = 60 then .error (.outOfRange "second")
          else .ok ⟨hour, minute, second, subsecond.getD 0⟩
      | _, _, _ => .error .insufficient

/-- The offset the parts fix, in seconds.  Its seconds count only below its minutes. -/
def Parts.offset (parts : Parts) : Except ReadError Int :=
  match parts.offsetHour with
  | none => .error .insufficient
  | some hour =>
      let seconds := match parts.offsetMinute with
        | some minute => minute * 60 + parts.offsetSecond.getD 0
        | none => 0
      let magnitude : Int := hour.natAbs * 3600 + seconds
      .ok (if parts.offsetNegative then -magnitude else magnitude)

/-- The moment the parts fix by themselves: a time stamp, or a date and a time with an offset. -/
def Parts.moment (parts : Parts) : Except ReadError Moment :=
  match parts.unixNanos with
  | some nanos =>
      let moment : Moment := { unixNanos := nanos, offset := 0 }
      .ok (match parts.subsecond with
        | some subsecond => moment.withNanosecond subsecond
        | none => moment)
  | none => do
      let date ← parts.date
      let time ← parts.time
      let offset ← parts.offset
      return ofLocal date time offset

def Parts.momentUtc (parts : Parts) : Except ReadError Moment := do
  let date ← parts.date
  let time ← parts.time
  return ofLocal date time 0

def Parts.midnight (parts : Parts) : Except ReadError Moment :=
  parts.date.map fun date => ofLocal date .midnight 0

/-- The moment a text stands for in a description.  An error is that of the weakest reading. -/
def read (description : Description) (text : String) : Except ReadError Moment := do
  let (parts, rest) ← readParts {} text.toUTF8.toList description
  if !rest.isEmpty then throw .trailing
  match parts.moment with
  | .ok moment => return moment
  | .error _ =>
      match parts.momentUtc with
      | .ok moment => return moment
      | .error _ => parts.midnight

end Schemata.Moment
