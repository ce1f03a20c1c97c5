import Schemata.Moment.Basic
import Schemata.Moment.Description
import Schemata.Power

/-!
# Writing moments

The text of a moment along a format description and in RFC 3339, on the clock of its offset.
-/

namespace Schemata.Moment

open Description

inductive WriteError where
  | badDescription (error : Description.Error)
  | component (name : String)

def WriteError.message : WriteError → String
  | .badDescription error => error.message
  | .component name => s!"The {name} component cannot be formatted into the requested format."

def writeNumber (padding : Padding) (width value : Nat) : String :=
  let digits := Text.Decimal.ofNat value
  let missing := width - digits.length
  String.ofList <| match padding with
    | .none => digits
    | .zero => List.replicate missing '0' ++ digits
    | .space => List.replicate missing ' ' ++ digits

def writeSign (negative signed : Bool) : String :=
  if negative then "-" else if signed then "+" else ""

/-- A fraction of a second in nine digits without the zeros at its end, with at least one digit. -/
def writeFraction (nanosecond : Nat) : String :=
  let digits := (writeNumber .zero 9 nanosecond).toList
  let kept := (digits.reverse.dropWhile (· == '0')).reverse
  String.ofList (if kept.isEmpty then ['0'] else kept)

def writeYear (padding : Padding) (form : YearForm) (signed : Bool) (year : Int) : String :=
  match form with
  | .full => writeSign (decide (year < 0)) signed ++ writeNumber padding 4 year.natAbs
  | .century => writeSign (decide (year < 0)) signed ++ writeNumber padding 2 (year.natAbs / 100)
  | .lastTwo => writeNumber padding 2 (year.natAbs % 100)

def writeComponent (moment : Moment) : Component → String
  | .day padding => writeNumber padding 2 moment.date.monthDay.2
  | .month padding form _ =>
      let month := moment.date.monthDay.1
      match form with
      | .number => writeNumber padding 2 month.number
      | .long => month.name
      | .short => month.shortName
  | .ordinal padding => writeNumber padding 3 moment.date.ordinal
  | .weekday form oneIndexed _ =>
      let weekday := moment.date.weekday
      let shift := if oneIndexed then 1 else 0
      match form with
      | .short => weekday.shortName
      | .long => weekday.name
      | .fromSunday => toString (weekday.fromSunday + shift)
      | .fromMonday => toString (weekday.fromMonday + shift)
  | .weekNumber padding form =>
      writeNumber padding 2 (match form with
        | .iso => moment.date.isoWeek.2
        | .sunday => moment.date.sundayWeek
        | .monday => moment.date.mondayWeek)
  | .year padding form ofWeek signed =>
      writeYear padding form signed (if ofWeek then moment.date.isoWeek.1 else moment.date.year)
  | .hour padding twelve =>
      let hour := moment.time.hour
      writeNumber padding 2
        (if twelve then (if hour % 12 = 0 then 12 else hour % 12) else hour)
  | .minute padding => writeNumber padding 2 moment.time.minute
  | .period upper _ =>
      let isPm := decide (12 ≤ moment.time.hour)
      if upper then (if isPm then "PM" else "AM") else if isPm then "pm" else "am"
  | .second padding => writeNumber padding 2 moment.time.second
  | .subsecond (some count) =>
      writeNumber .zero count (moment.time.nanosecond / tenTo (9 - count))
  | .subsecond none => writeFraction moment.time.nanosecond
  | .offsetHour padding signed =>
      writeSign (decide (moment.offset < 0)) signed ++
        writeNumber padding 2 (moment.offset.natAbs / 3600)
  | .offsetMinute padding => writeNumber padding 2 (moment.offset.natAbs / 60 % 60)
  | .offsetSecond padding => writeNumber padding 2 (moment.offset.natAbs % 60)
  | .ignore _ => ""
  | .unixTimestamp precision signed =>
      let stamp : Int := match precision with
        | .second => moment.unixSeconds
        | .millisecond => Int.tdiv moment.unixNanos 1000000
        | .microsecond => Int.tdiv moment.unixNanos 1000
        | .nanosecond => moment.unixNanos
      writeSign (decide (stamp < 0)) signed ++ toString stamp.natAbs
  | .stop _ => ""

mutual

/-- The text of a moment along a description.  Optional descriptions are written, and of several
the first one. -/
def write (moment : Moment) : Description → String
  | .literal text => text
  | .component part => writeComponent moment part
  | .sequence items => writeSequence moment items
  | .optional item => write moment item
  | .first items => writeFirst moment items

def writeSequence (moment : Moment) : List Description → String
  | [] => ""
  | item :: items => write moment item ++ writeSequence moment items

def writeFirst (moment : Moment) : List Description → String
  | [] => ""
  | item :: _ => write moment item

end

/-- The text of a moment in RFC 3339, which has years of four digits and offsets of whole minutes
below 24 hours only. -/
def writeRfc3339 (moment : Moment) : Except WriteError String :=
  let date := moment.date
  let time := moment.time
  if date.year < 0 ∨ 9999 < date.year then .error (.component "year")
  else if 23 < moment.offset.natAbs / 3600 then .error (.component "offset_hour")
  else if moment.offset.natAbs % 60 ≠ 0 then .error (.component "offset_second")
  else
    let (month, day) := date.monthDay
    let two := writeNumber .zero 2
    let fraction := if time.nanosecond = 0 then "" else "." ++ writeFraction time.nanosecond
    let offset :=
      if moment.offset = 0 then "Z"
      else writeSign (decide (moment.offset < 0)) true ++
        two (moment.offset.natAbs / 3600) ++ ":" ++
        two (moment.offset.natAbs / 60 % 60)
    .ok (writeNumber .zero 4 date.year.natAbs ++ "-" ++ two month.number ++ "-" ++ two day ++ "T" ++
      two time.hour ++ ":" ++ two time.minute ++ ":" ++ two time.second ++ fraction ++ offset)

end Schemata.Moment
