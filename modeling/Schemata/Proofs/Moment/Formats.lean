import Mathlib.Data.List.TakeWhile
import Schemata.Moment.Format
import Schemata.Proofs.Moment.Calendar
import Schemata.Proofs.Outcome

/-!
# What a format reads, it writes

A format description writes every moment, if it is one.  RFC 3339 writes the moments with a year of
four digits and an offset of whole minutes below 24 hours, and it reads no others.
-/

namespace Schemata

/-- Behind a check, a computation goes on where the check passes. -/
theorem Except.guard_eq_ok_iff {ε α : Type} {p : Prop} [Decidable p] {cause : ε}
    {next : PUnit → Except ε α} {result : α} :
    (if p then throw cause >>= next else next ⟨⟩) = .ok result ↔ ¬ p ∧ next ⟨⟩ = .ok result := by
  by_cases stops : p
  · simp [stops, throw, throwThe, MonadExceptOf.throw, bind, Except.bind]
  · simp [stops]

namespace Moment

/-! ## Numbers -/

theorem digitsValue_lt {digits : Bytes} (numeric : ∀ digit ∈ digits, isDigit digit = true) :
    digitsValue digits < tenTo digits.length := by
  suffices general : ∀ value, digits.foldl
      (fun value digit => 10 * value + (digit - ascii '0').toNat) value <
        (value + 1) * tenTo digits.length by
    have start := general 0
    rwa [Nat.zero_add, Nat.one_mul] at start
  induction digits with
  | nil => exact fun value => by simp
  | cons digit rest ih =>
      intro value
      obtain ⟨here, later⟩ := List.forall_mem_cons.mp numeric
      have small : (digit - ascii '0').toNat ≤ 9 := by
        have low : 48 ≤ digit.toNat ∧ digit.toNat ≤ 57 := by
          simpa [isDigit, ascii, UInt8.le_iff_toNat_le] using here
        have value : (ascii '0').toNat = 48 := rfl
        rw [UInt8.toNat_sub_of_le _ _ (UInt8.le_iff_toNat_le.mpr (value ▸ low.1)), value]
        omega
      calc rest.foldl _ (10 * value + (digit - ascii '0').toNat)
          < (10 * value + (digit - ascii '0').toNat + 1) * tenTo rest.length := ih later _
        _ ≤ (10 * (value + 1)) * tenTo rest.length := Nat.mul_le_mul_right _ (by omega)
        _ = (value + 1) * tenTo (digit :: rest).length := by
            have power : tenTo (digit :: rest).length = tenTo rest.length * 10 := Nat.pow_succ ..
            rw [power, Nat.mul_comm 10, Nat.mul_assoc, Nat.mul_comm 10]

theorem digits?_lt {least most value : Nat} {text rest : Bytes}
    (read : digits? least most text = some (value, rest)) : value < tenTo most := by
  unfold digits? at read
  dsimp only at read
  split at read
  next =>
    obtain ⟨rfl, _⟩ := Prod.mk.inj (Option.some.inj read)
    refine Nat.lt_of_lt_of_le (digitsValue_lt fun digit => List.mem_takeWhile_imp) ?_
    refine Nat.pow_le_pow_right (by decide) ?_
    exact (List.takeWhile_sublist _).length_le.trans (List.length_take_le _ _)
  next => cases read

/-- A fraction of a second is less than a second. -/
theorem fraction?_lt {most nanosecond : Nat} {text rest : Bytes}
    (read : fraction? most text = some (nanosecond, rest)) : nanosecond < 1000000000 := by
  unfold fraction? at read
  dsimp only at read
  split at read
  next => cases read
  next =>
    obtain ⟨rfl, _⟩ := Prod.mk.inj (Option.some.inj read)
    generalize kept : ((text.take most).takeWhile isDigit).take 9 = digits
    have few : digits.length ≤ 9 := kept ▸ List.length_take_le _ _
    have numeric (digit : UInt8) (among : digit ∈ digits) : isDigit digit = true := by
      rw [← kept] at among
      exact List.mem_takeWhile_imp (List.mem_of_mem_take among)
    calc digitsValue digits * tenTo (9 - digits.length)
        < tenTo digits.length * tenTo (9 - digits.length) :=
          Nat.mul_lt_mul_of_pos_right (digitsValue_lt numeric) (Nat.pow_pos (by decide))
      _ = tenTo (digits.length + (9 - digits.length)) := (Nat.pow_add ..).symm
      _ = 1000000000 := by rw [Nat.add_sub_cancel' few]

/-! ## RFC 3339 -/

/-- What RFC 3339 can write: the year has four digits, and the offset is a number of whole minutes
below 24 hours. -/
def IsRfc3339 (moment : Moment) : Prop :=
  (0 ≤ moment.date.year ∧ moment.date.year ≤ 9999) ∧
    moment.offset.natAbs / 3600 ≤ 23 ∧ moment.offset.natAbs % 60 = 0

theorem exists_writeRfc3339_iff {moment : Moment} :
    (∃ written, moment.writeRfc3339 = .ok written) ↔ moment.IsRfc3339 := by
  unfold writeRfc3339 IsRfc3339
  dsimp only
  split
  next outside => simp; omega
  next inside =>
    split
    next outside => simp; omega
    next =>
      split
      next outside => simp [outside]
      next whole => simp; omega

namespace Rfc3339

theorem number_lt {name : String} {width value : Nat} {text rest : Bytes}
    (read : number name width text = .ok (value, rest)) : value < tenTo width := by
  unfold number at read
  split at read
  next found =>
    cases read
    exact digits?_lt found
  next => cases read

theorem fraction_lt {nanosecond : Nat} {text rest : Bytes}
    (read : fraction text = .ok (nanosecond, rest)) : nanosecond < 1000000000 := by
  unfold fraction at read
  split at read
  next =>
    split at read
    next =>
      split at read
      next found =>
        cases read
        exact fraction?_lt found
      next => cases read
    next =>
      cases read
      decide
  next =>
    cases read
    decide

theorem offset_whole {seconds : Int} {text rest : Bytes}
    (read : offset text = .ok (seconds, rest)) :
    seconds.natAbs / 3600 ≤ 23 ∧ seconds.natAbs % 60 = 0 := by
  unfold offset at read
  split at read
  next => cases read
  next =>
    split at read
    next =>
      cases read
      decide
    next =>
      split at read
      next => cases read
      next negative _ _ =>
        simp only [Except.bind_eq_ok_iff, Except.guard_eq_ok_iff, Prod.exists] at read
        obtain ⟨hours, _, _, few, _, _, minutes, _, _, few', same⟩ := read
        obtain ⟨rfl, _⟩ := Prod.mk.inj (Except.ok.inj same)
        cases negative <;> simp <;> omega

/-- What is read is a date and a time of day at an offset. -/
theorem exists_ofLocal_of_read {text : String} {moment : Moment}
    (success : read text = .ok moment) :
    ∃ date time offset, moment = ofLocal date time offset ∧ date.InYear ∧
      (0 ≤ date.year ∧ date.year ≤ 9999) ∧ (time.nanos : Int) < nanosPerDay ∧
        offset.natAbs / 3600 ≤ 23 ∧ offset.natAbs % 60 = 0 := by
  simp only [read, Except.bind_eq_ok_iff, Except.guard_eq_ok_iff, Prod.exists] at success
  obtain ⟨year, _, yearRead, _, _, month, _, _, _, _, _, day, _, _, _, _, hour, _, _, _, _, minute,
    _, _, _, _, second, _, _, nanosecond, _, fractionRead, offset, _, offsetRead, _, found⟩ :=
    success
  split at found
  next month _ =>
    split at found
    next date dated =>
      simp only [Except.guard_eq_ok_iff] at found
      obtain ⟨hours, minutes, seconds, _, same⟩ := found
      cases same
      have year_lt : year < 10000 := number_lt yearRead
      have nanosecond_lt := fraction_lt fractionRead
      obtain ⟨inYear, same⟩ := Date.inYear_of_ofMonthDay? dated
      refine ⟨_, _, _, rfl, inYear, ?_, ?_, offset_whole offsetRead⟩
      · rw [same]
        omega
      · split
        next =>
          simp only [TimeOfDay.nanos, nanosPerDay]
          omega
        next regular =>
          have second_ne : second ≠ 60 := by simpa using regular
          simp only [TimeOfDay.nanos, nanosPerDay]
          omega
    next => cases found
  next => cases found

/-- What RFC 3339 reads, it can write. -/
theorem isRfc3339_of_read {text : String} {moment : Moment} (success : read text = .ok moment) :
    moment.IsRfc3339 := by
  obtain ⟨date, time, offset, rfl, inYear, fourDigits, inDay, whole⟩ :=
    exists_ofLocal_of_read success
  rw [IsRfc3339, date_ofLocal inYear inDay]
  exact ⟨fourDigits, whole⟩

end Rfc3339

end Moment

namespace DateTimeFormat

/-- A format description that is one writes every moment. -/
theorem exists_write_iff {format : DateTimeFormat} {moment : Moment} :
    (∃ written, format.write moment = .ok written) ↔
      match format with
      | .rfc3339 => moment.IsRfc3339
      | .custom description => ∃ parsed, Description.parse description = .ok parsed := by
  cases format with
  | rfc3339 => exact Moment.exists_writeRfc3339_iff
  | custom description =>
      simp only [write]
      cases Description.parse description with
      | ok parsed => exact ⟨fun _ => ⟨parsed, rfl⟩, fun _ => ⟨_, rfl⟩⟩
      | error error => simp

/-- What a format reads, it writes. -/
theorem exists_write_of_read {format : DateTimeFormat} {text : String} {moment : Moment}
    (success : format.read text = .ok moment) : ∃ written, format.write moment = .ok written := by
  rw [exists_write_iff]
  cases format with
  | rfc3339 => exact Moment.Rfc3339.isRfc3339_of_read success
  | custom description =>
      simp only [read] at success
      cases parsed : Description.parse description with
      | ok found => exact ⟨found, parsed⟩
      | error error =>
          rw [parsed] at success
          cases success

end DateTimeFormat

end Schemata
