import Schemata.Moment.Reader

/-!
# RFC 3339

The profile of ISO 8601 for the internet: a date, any one byte, a time of day and an offset.  A leap
second is read as the last nanosecond before it, at the end of a month in universal time.
-/

namespace Schemata.Moment.Rfc3339

def after (char : Char) : Bytes → Except ReadError Bytes
  | byte :: rest => if byte = ascii char then .ok rest else .error .literal
  | [] => .error .literal

def number (name : String) (width : Nat) (text : Bytes) : Except ReadError (Nat × Bytes) :=
  match digits? width width text with
  | some read => .ok read
  | none => .error (.component name)

def separator : Bytes → Except ReadError Bytes
  | _ :: rest => .ok rest
  | [] => .error (.component "separator")

def fraction : Bytes → Except ReadError (Nat × Bytes)
  | byte :: rest =>
      if byte = ascii '.' then
        match fraction? rest.length rest with
        | some read => .ok read
        | none => .error (.component "subsecond")
      else .ok (0, byte :: rest)
  | [] => .ok (0, [])

def offset (text : Bytes) : Except ReadError (Int × Bytes) :=
  match text with
  | [] => .error (.component "offset hour")
  | byte :: rest =>
      if byte = ascii 'Z' ∨ byte = ascii 'z' then .ok (0, rest)
      else
        match sign? text with
        | none => .error (.component "offset hour")
        | some (negative, rest) => do
            let (hours, rest) ← number "offset hour" 2 rest
            if 23 < hours then throw (.component "offset hour")
            let rest ← after ':' rest
            let (minutes, rest) ← number "offset minute" 2 rest
            if 59 < minutes then throw (.outOfRange "offset minute")
            let magnitude : Int := hours * 3600 + minutes * 60
            return (if negative then -magnitude else magnitude, rest)

/-- Whether a moment can stand for a leap second: the last nanosecond of a month in universal
time. -/
def endsMonth (moment : Moment) : Bool :=
  let utc := moment.toUtc
  let (month, day) := utc.date.monthDay
  utc.time == ⟨23, 59, 59, 999999999⟩ && day == Date.daysInMonth utc.date.year month

def read (text : String) : Except ReadError Moment := do
  let (year, rest) ← number "year" 4 text.toUTF8.toList
  let rest ← after '-' rest
  let (month, rest) ← number "month" 2 rest
  if month = 0 then throw (.component "month")
  let rest ← after '-' rest
  let (day, rest) ← number "day" 2 rest
  let rest ← separator rest
  let (hour, rest) ← number "hour" 2 rest
  let rest ← after ':' rest
  let (minute, rest) ← number "minute" 2 rest
  let rest ← after ':' rest
  let (second, rest) ← number "second" 2 rest
  let (nanosecond, rest) ← fraction rest
  let (offset, rest) ← offset rest
  if !rest.isEmpty then throw .trailing
  let leap := second == 60
  let some month := Month.ofNumber? month | throw (.outOfRange "month")
  let some date := Date.ofMonthDay? year month day | throw (.outOfRange "day")
  if 23 < hour then throw (.outOfRange "hour")
  if 59 < minute then throw (.outOfRange "minute")
  if 60 < second then throw (.outOfRange "second")
  let time : TimeOfDay :=
    if leap then ⟨hour, minute, 59, 999999999⟩ else ⟨hour, minute, second, nanosecond⟩
  let moment := ofLocal date time offset
  if leap && !endsMonth moment then throw (.outOfRange "second")
  return moment

end Schemata.Moment.Rfc3339
