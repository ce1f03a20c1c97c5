import Schemata.Moment.Calendar

/-!
# Moments

An instant to the nanosecond together with the offset from universal time it is shown in.
-/

namespace Schemata

structure TimeOfDay where
  hour : Nat
  minute : Nat
  second : Nat
  nanosecond : Nat
  deriving DecidableEq

/-- An instant, in nanoseconds since the beginning of 1970 in universal time, and an offset in
seconds. -/
structure Moment where
  unixNanos : Int
  offset : Int
  deriving DecidableEq

namespace TimeOfDay

def midnight : TimeOfDay :=
  ⟨0, 0, 0, 0⟩

def nanos (time : TimeOfDay) : Nat :=
  ((time.hour * 60 + time.minute) * 60 + time.second) * 1000000000 + time.nanosecond

def ofNanos (nanos : Nat) : TimeOfDay :=
  let seconds := nanos / 1000000000
  ⟨seconds / 3600, seconds / 60 % 60, seconds % 60, nanos % 1000000000⟩

end TimeOfDay

namespace Moment

def nanosPerDay : Int :=
  86400 * 1000000000

def ofLocal (date : Date) (time : TimeOfDay) (offset : Int) : Moment :=
  { unixNanos := date.dayNumber * nanosPerDay + time.nanos - offset * 1000000000, offset }

/-- Nanoseconds since the beginning of 1970 on the clock of the offset. -/
def localNanos (moment : Moment) : Int :=
  moment.unixNanos + moment.offset * 1000000000

def date (moment : Moment) : Date :=
  .ofDayNumber (Int.fdiv moment.localNanos nanosPerDay)

def time (moment : Moment) : TimeOfDay :=
  .ofNanos (Int.fmod moment.localNanos nanosPerDay).toNat

def toUtc (moment : Moment) : Moment :=
  { moment with offset := 0 }

def unixSeconds (moment : Moment) : Int :=
  Int.fdiv moment.unixNanos 1000000000

/-- Whether two moments are the same instant, whatever their offsets. -/
def isSame (left right : Moment) : Bool :=
  left.unixNanos == right.unixNanos

def withNanosecond (moment : Moment) (nanosecond : Nat) : Moment :=
  { moment with unixNanos := moment.unixSeconds * 1000000000 + nanosecond }

end Moment

end Schemata
