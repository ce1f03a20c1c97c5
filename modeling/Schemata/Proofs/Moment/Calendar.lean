import Schemata.Moment.Basic

/-!
# Laws of the calendar

Every year has its place in the cycles of 400, 100, 4 and 1 years.  The day number of a date tells
the date, and a moment shows the date and the time of day that it was made of.
-/

namespace Schemata

namespace Date

/-- The day of a date is one of its year. -/
def InYear (date : Date) : Prop :=
  1 ≤ date.ordinal ∧ date.ordinal ≤ daysInYear date.year

theorem daysBefore_add_le (year : Int) (month : Month) :
    daysBefore year month + daysInMonth year month ≤ daysInYear year := by
  cases leap : isLeap year with
  | false | true =>
      cases month <;> simp [daysBefore, daysInYear, daysInMonth, Month.number, Month.all, leap]

/-- A day of a month is a day of its year. -/
theorem inYear_of_ofMonthDay? {year : Int} {month : Month} {day : Nat} {date : Date}
    (dated : ofMonthDay? year month day = some date) : date.InYear ∧ date.year = year := by
  unfold ofMonthDay? at dated
  split at dated
  next inMonth =>
    obtain rfl := Option.some.inj dated
    have within := daysBefore_add_le year month
    refine ⟨⟨?_, ?_⟩, rfl⟩
    · dsimp only
      omega
    · dsimp only
      omega
  next => cases dated

/-- The place of a year in the cycles. -/
theorem exists_cycles (year : Int) :
    ∃ (eras : Int) (centuries quads years : Nat),
      year = 400 * eras + (100 * centuries + 4 * quads + years : Nat) + 1 ∧
        centuries ≤ 3 ∧ quads ≤ 24 ∧ years ≤ 3 := by
  have nonneg : 0 ≤ (year - 1) % 400 := Int.emod_nonneg _ (by decide)
  refine ⟨(year - 1) / 400, ((year - 1) % 400).toNat / 100, ((year - 1) % 400).toNat % 100 / 4,
    ((year - 1) % 400).toNat % 100 % 4, ?_, ?_, ?_, ?_⟩
  all_goals omega

section

variable {eras : Int} {centuries quads years : Nat}

theorem daysBeforeYear_cycles (few : centuries ≤ 3 ∧ quads ≤ 24 ∧ years ≤ 3) :
    daysBeforeYear (400 * eras + (100 * centuries + 4 * quads + years : Nat) + 1) =
      146097 * eras + (36524 * centuries + 1461 * quads + 365 * years : Nat) := by
  simp only [daysBeforeYear, Int.fdiv_eq_ediv_of_nonneg _ (by decide : (0 : Int) ≤ 4),
    Int.fdiv_eq_ediv_of_nonneg _ (by decide : (0 : Int) ≤ 100),
    Int.fdiv_eq_ediv_of_nonneg _ (by decide : (0 : Int) ≤ 400)]
  omega

/-- The last year of four is a leap year, unless it is the last one of one of the first three
centuries. -/
theorem daysInYear_cycles (few : centuries ≤ 3 ∧ quads ≤ 24 ∧ years ≤ 3) :
    daysInYear (400 * eras + (100 * centuries + 4 * quads + years : Nat) + 1) =
      if years = 3 ∧ (quads = 24 → centuries = 3) then 366 else 365 := by
  have leap : isLeap (400 * eras + (100 * centuries + 4 * quads + years : Nat) + 1) = true ↔
      years = 3 ∧ (quads = 24 → centuries = 3) := by
    simp only [isLeap, Bool.and_eq_true, Bool.or_eq_true, beq_iff_eq, bne_iff_ne]
    omega
  simp only [daysInYear, leap]

/-- The last day of a leap year is one more than 365 days, and so is the last year of four, the last
century of four and the last day of an era, whence the bounds on the quotients. -/
theorem ofDayNumber_cycles (few : centuries ≤ 3 ∧ quads ≤ 24 ∧ years ≤ 3) {day : Nat}
    (inside : day < if years = 3 ∧ (quads = 24 → centuries = 3) then 366 else 365) :
    ofDayNumber (146097 * eras + (36524 * centuries + 1461 * quads + 365 * years + day : Nat) -
        epochDay) =
      ⟨400 * eras + (100 * centuries + 4 * quads + years : Nat) + 1, day + 1⟩ := by
  have inYear : day ≤ 365 ∧ (years ≤ 2 → day ≤ 364) := by
    split at inside <;> omega
  have inQuad : 365 * years + day < 1461 ∧
      (quads = 24 → centuries ≤ 2 → 365 * years + day < 1460) := by
    split at inside <;> omega
  have inCentury : 1461 * quads + (365 * years + day) < 36525 ∧
      (centuries ≤ 2 → 1461 * quads + (365 * years + day) < 36524) := by
    omega
  have era : Int.fdiv (146097 * eras +
      (36524 * centuries + 1461 * quads + 365 * years + day : Nat)) 146097 = eras := by
    rw [Int.fdiv_eq_ediv_of_nonneg _ (by decide)]
    omega
  have inEra : (146097 * eras + (36524 * centuries + 1461 * quads + 365 * years + day : Nat) -
      eras * 146097 : Int).toNat = 36524 * centuries + (1461 * quads + (365 * years + day)) := by
    omega
  have century : min 3 ((36524 * centuries + (1461 * quads + (365 * years + day))) / 36524) =
      centuries := by
    omega
  have quad : (1461 * quads + (365 * years + day)) / 1461 = quads := by
    omega
  have one : min 3 ((365 * years + day) / 365) = years := by
    omega
  simp only [ofDayNumber, Int.sub_add_cancel, era, inEra, century, Nat.mul_comm centuries,
    Nat.add_sub_cancel_left, quad, Nat.mul_comm quads, one, Nat.mul_comm years,
    Int.mul_comm eras 400]

end

/-- The day number of a date tells the date. -/
theorem ofDayNumber_dayNumber {date : Date} (inYear : date.InYear) :
    ofDayNumber date.dayNumber = date := by
  obtain ⟨year, ordinal⟩ := date
  obtain ⟨eras, centuries, quads, years, rfl, few⟩ := exists_cycles year
  obtain ⟨least, most⟩ := inYear
  obtain ⟨day, rfl⟩ := Nat.exists_eq_add_of_le' least
  dsimp only at most
  rw [daysInYear_cycles few] at most
  refine Eq.trans (congrArg ofDayNumber ?_) (ofDayNumber_cycles few most)
  rw [dayNumber, daysBeforeYear_cycles few]
  dsimp only
  omega

end Date

namespace Moment

variable {date : Date} {time : TimeOfDay}

theorem localNanos_ofLocal (date : Date) (time : TimeOfDay) (offset : Int) :
    (ofLocal date time offset).localNanos = date.dayNumber * nanosPerDay + time.nanos :=
  Int.sub_add_cancel ..

/-- A moment shows the date that it was made of, on the clock of its offset. -/
theorem date_ofLocal (inYear : date.InYear) (inDay : (time.nanos : Int) < nanosPerDay)
    (offset : Int) : (ofLocal date time offset).date = date := by
  have day : Int.fdiv (date.dayNumber * nanosPerDay + time.nanos) nanosPerDay = date.dayNumber := by
    rw [Int.fdiv_eq_ediv_of_nonneg _ (by decide), Int.add_comm,
      Int.add_mul_ediv_right _ _ (by decide),
      Int.ediv_eq_zero_of_lt (Int.natCast_nonneg _) inDay, Int.zero_add]
  rw [Moment.date, localNanos_ofLocal, day, Date.ofDayNumber_dayNumber inYear]

end Moment

end Schemata
