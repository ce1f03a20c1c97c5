/-!
# The calendar

Dates of the proleptic Gregorian calendar by year and day of the year, their day numbers counted
from the first of January 1970, months, weekdays and the three ways to number weeks.
-/

namespace Schemata

/-- A date by its year and its day of the year, the first day being day one. -/
structure Date where
  year : Int
  ordinal : Nat
  deriving DecidableEq

inductive Month where
  | january
  | february
  | march
  | april
  | may
  | june
  | july
  | august
  | september
  | october
  | november
  | december
  deriving DecidableEq

inductive Weekday where
  | monday
  | tuesday
  | wednesday
  | thursday
  | friday
  | saturday
  | sunday
  deriving DecidableEq

namespace Month

def all : List Month :=
  [january, february, march, april, may, june, july, august, september, october, november,
    december]

def number : Month → Nat
  | january => 1
  | february => 2
  | march => 3
  | april => 4
  | may => 5
  | june => 6
  | july => 7
  | august => 8
  | september => 9
  | october => 10
  | november => 11
  | december => 12

def ofNumber? (number : Nat) : Option Month :=
  if number = 0 then none else all[number - 1]?

def name : Month → String
  | january => "January"
  | february => "February"
  | march => "March"
  | april => "April"
  | may => "May"
  | june => "June"
  | july => "July"
  | august => "August"
  | september => "September"
  | october => "October"
  | november => "November"
  | december => "December"

def shortName (month : Month) : String :=
  String.ofList (month.name.toList.take 3)

end Month

namespace Weekday

def all : List Weekday :=
  [monday, tuesday, wednesday, thursday, friday, saturday, sunday]

def fromMonday : Weekday → Nat
  | monday => 0
  | tuesday => 1
  | wednesday => 2
  | thursday => 3
  | friday => 4
  | saturday => 5
  | sunday => 6

def fromSunday (weekday : Weekday) : Nat :=
  (weekday.fromMonday + 1) % 7

def ofMonday (days : Int) : Weekday :=
  (all[(days % 7).toNat]?).getD monday

def name : Weekday → String
  | monday => "Monday"
  | tuesday => "Tuesday"
  | wednesday => "Wednesday"
  | thursday => "Thursday"
  | friday => "Friday"
  | saturday => "Saturday"
  | sunday => "Sunday"

def shortName (weekday : Weekday) : String :=
  String.ofList (weekday.name.toList.take 3)

end Weekday

namespace Date

def isLeap (year : Int) : Bool :=
  year % 4 == 0 && (year % 100 != 0 || year % 400 == 0)

def daysInYear (year : Int) : Nat :=
  if isLeap year then 366 else 365

def daysInMonth (year : Int) : Month → Nat
  | .january | .march | .may | .july | .august | .october | .december => 31
  | .april | .june | .september | .november => 30
  | .february => if isLeap year then 29 else 28

def daysBefore (year : Int) (month : Month) : Nat :=
  let earlier := Month.all.take (month.number - 1)
  earlier.foldl (fun total month => total + daysInMonth year month) 0

def ofMonthDay? (year : Int) (month : Month) (day : Nat) : Option Date :=
  if 1 ≤ day ∧ day ≤ daysInMonth year month then
    some { year, ordinal := daysBefore year month + day }
  else none

def ofOrdinal? (year : Int) (ordinal : Nat) : Option Date :=
  if 1 ≤ ordinal ∧ ordinal ≤ daysInYear year then some { year, ordinal } else none

def splitOrdinal (year : Int) (ordinal : Nat) : List Month → Month × Nat
  | [] => (.december, ordinal)
  | month :: later =>
      if ordinal ≤ daysInMonth year month then (month, ordinal)
      else splitOrdinal year (ordinal - daysInMonth year month) later

def monthDay (date : Date) : Month × Nat :=
  splitOrdinal date.year date.ordinal Month.all

/-- Days from the first of January of the year one to the first day of a year. -/
def daysBeforeYear (year : Int) : Int :=
  let before := year - 1
  365 * before + Int.fdiv before 4 - Int.fdiv before 100 + Int.fdiv before 400

def epochDay : Int :=
  daysBeforeYear 1970

def dayNumber (date : Date) : Int :=
  daysBeforeYear date.year + date.ordinal - 1 - epochDay

/-- The date of a day number, found by cycles of 400, 100, 4 and 1 years. -/
def ofDayNumber (number : Int) : Date :=
  let days := number + epochDay
  let eras := Int.fdiv days 146097
  let inEra := (days - eras * 146097).toNat
  let centuries := min 3 (inEra / 36524)
  let inCentury := inEra - centuries * 36524
  let quads := inCentury / 1461
  let inQuad := inCentury - quads * 1461
  let years := min 3 (inQuad / 365)
  { year := eras * 400 + (centuries * 100 + quads * 4 + years : Nat) + 1
    ordinal := inQuad - years * 365 + 1 }

/-- The weekday; the first of January 1970 was a Thursday. -/
def weekday (date : Date) : Weekday :=
  .ofMonday (date.dayNumber + 3)

/-- The number of weeks of a year that begin its weeks on Mondays and hold its first Thursday. -/
def weeksInYear (year : Int) : Nat :=
  let first := (Date.mk year 1).weekday
  if first = .thursday ∨ (first = .wednesday ∧ isLeap year) then 53 else 52

/-- The year and the number of the week that holds the date, by the week's Thursday. -/
def isoWeek (date : Date) : Int × Nat :=
  let week := (date.ordinal + 9 - date.weekday.fromMonday) / 7
  if week = 0 then (date.year - 1, weeksInYear (date.year - 1))
  else if week = 53 ∧ weeksInYear date.year = 52 then (date.year + 1, 1)
  else (date.year, week)

/-- The number of the week, the first Sunday beginning week one. -/
def sundayWeek (date : Date) : Nat :=
  (date.ordinal + 6 - date.weekday.fromSunday) / 7

/-- The number of the week, the first Monday beginning week one. -/
def mondayWeek (date : Date) : Nat :=
  (date.ordinal + 6 - date.weekday.fromMonday) / 7

def ofIsoWeek? (year : Int) (week : Nat) (weekday : Weekday) : Option Date :=
  if 1 ≤ week ∧ week ≤ weeksInYear year then
    let fourth := Date.mk year 4
    let monday := fourth.dayNumber - fourth.weekday.fromMonday
    some (ofDayNumber (monday + 7 * (week - 1 : Nat) + weekday.fromMonday))
  else none

end Date

end Schemata
