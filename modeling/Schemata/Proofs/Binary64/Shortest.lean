import Schemata.Proofs.Binary64.Nearest

/-!
# The shortest decimal

The search for the shortest decimal of a double ends at a decimal in the neighbourhood of the
double.  The last grid that is tried is finer than the neighbourhood is wide.
-/

namespace Schemata.Binary64

namespace Neighbourhood

variable {near : Neighbourhood} {tie : Tie} {scale : Int}

/-- The width of a grid, as a ratio over the denominator of the grid. -/
def gridStep (scale : Int) : Nat :=
  4 * (tenTo scale.toNat * twoTo 1074)

/-- The grid point below the centre of a neighbourhood. -/
def gridFloor (near : Neighbourhood) (scale : Int) : Nat :=
  near.centre * tenTo (-scale).toNat / gridStep scale

/-- A grid gives the point above or below the double, if that point is in the neighbourhood. -/
theorem pointOn_eq (near : Neighbourhood) (tie : Tie) (scale : Int) :
    ∃ nearerAbove : Bool,
      near.pointOn tie scale =
        if near.holds ((near.gridFloor scale + 1) * gridStep scale) (tenTo (-scale).toNat) &&
            (nearerAbove ||
              !near.holds (near.gridFloor scale * gridStep scale) (tenTo (-scale).toNat)) then
          some (near.gridFloor scale + 1)
        else if near.holds (near.gridFloor scale * gridStep scale) (tenTo (-scale).toNat) then
          some (near.gridFloor scale)
        else none := by
  have step : (if 0 ≤ scale then 4 * twoTo 1074 * tenTo scale.toNat else 4 * twoTo 1074) =
      gridStep scale := by
    unfold gridStep
    split
    · rw [Nat.mul_comm (tenTo _), Nat.mul_assoc]
    · rw [show scale.toNat = 0 by omega, show tenTo 0 = 1 from rfl, Nat.one_mul]
  have denominator : (if 0 ≤ scale then 1 else tenTo (-scale).toNat) = tenTo (-scale).toNat := by
    split
    · rw [show (-scale).toNat = 0 by omega]
    · rfl
  unfold pointOn
  simp only [step, denominator]
  exact ⟨_, rfl⟩

theorem contains_iff_holds {digits : Nat} : near.Contains digits scale ↔
    near.holds (digits * gridStep scale) (tenTo (-scale).toNat) = true := by
  rw [Contains, gridStep, Nat.mul_left_comm digits, Nat.mul_assoc]

/-- The point that a grid gives lies in the neighbourhood. -/
theorem contains_of_pointOn {digits : Nat} (found : near.pointOn tie scale = some digits) :
    near.Contains digits scale := by
  obtain ⟨nearerAbove, point⟩ := near.pointOn_eq tie scale
  rw [point] at found
  rw [contains_iff_holds]
  split at found
  next above =>
    cases found
    exact (Bool.and_eq_true _ _ ▸ above).1
  · split at found
    next below =>
      cases found
      exact below
    · cases found

/-- A grid that is finer than half of the neighbourhood gives a point. -/
theorem exists_pointOn {mantissa exponent : Nat} (tie : Tie)
    (fine : gridStep scale < 2 * (tenTo (-scale).toNat * twoTo exponent)) :
    ∃ digits, (neighbourhood mantissa exponent).pointOn tie scale = some digits := by
  obtain ⟨nearerAbove, point⟩ := (neighbourhood mantissa exponent).pointOn_eq tie scale
  have some_step : 0 < gridStep scale :=
    Nat.mul_pos (by decide) (Nat.mul_pos (tenTo_pos _) (twoTo_pos 1074))
  have above : (neighbourhood mantissa exponent).holds
      (((neighbourhood mantissa exponent).gridFloor scale + 1) * gridStep scale)
      (tenTo (-scale).toNat) = true := by
    have under : (neighbourhood mantissa exponent).gridFloor scale * gridStep scale ≤
        (neighbourhood mantissa exponent).centre * tenTo (-scale).toNat :=
      Nat.div_mul_le_self _ _
    have past : (neighbourhood mantissa exponent).centre * tenTo (-scale).toNat <
        ((neighbourhood mantissa exponent).gridFloor scale + 1) * gridStep scale :=
      (Nat.div_lt_iff_lt_mul some_step).mp (Nat.lt_succ_self _)
    have low : (neighbourhood mantissa exponent).low * tenTo (-scale).toNat ≤
        (neighbourhood mantissa exponent).centre * tenTo (-scale).toNat :=
      Nat.mul_le_mul_right _ (Nat.sub_le _ _)
    have high : (neighbourhood mantissa exponent).high * tenTo (-scale).toNat =
        (neighbourhood mantissa exponent).centre * tenTo (-scale).toNat +
          2 * (tenTo (-scale).toNat * twoTo exponent) := by
      rw [Nat.mul_comm (tenTo _), ← Nat.mul_assoc 2, ← Nat.add_mul]
      rfl
    rw [Nat.add_mul, Nat.one_mul] at past ⊢
    rw [holds_eq_true_iff]
    omega
  rw [point, above]
  cases nearerAbove with
  | true => exact ⟨_, rfl⟩
  | false =>
      cases (neighbourhood mantissa exponent).holds
        ((neighbourhood mantissa exponent).gridFloor scale * gridStep scale)
        (tenTo (-scale).toNat) with
      | true => exact ⟨_, rfl⟩
      | false => exact ⟨_, rfl⟩

/-- The search ends at a decimal in the neighbourhood if one of the grids gives a point. -/
theorem contains_search {grids : Nat} (last : Nat) (within : last < grids) {digits : Nat}
    (found : near.pointOn tie (scale - last) = some digits) :
    near.Contains (near.search tie grids scale).1 (near.search tie grids scale).2 := by
  induction grids generalizing scale last with
  | zero => exact absurd within (Nat.not_lt_zero last)
  | succ grids ih =>
      unfold search
      split
      next digits here => exact contains_of_pointOn here
      next nothing =>
        cases last with
        | zero =>
            rw [Int.natCast_zero, Int.sub_zero, nothing] at found
            cases found
        | succ last =>
            refine ih last (Nat.lt_of_succ_lt_succ within) ?_
            rw [← found]
            congr 1
            omega

theorem contains_dropTrailingZeros {digits : Nat} (places : Nat)
    (contained : near.Contains digits scale) :
    near.Contains (dropTrailingZeros places digits scale).1
      (dropTrailingZeros places digits scale).2 := by
  induction places generalizing digits scale with
  | zero => exact contained
  | succ places ih =>
      unfold dropTrailingZeros
      split
      next zeros =>
        refine ih ((contains_shift 1).mp ?_)
        have tens : digits / 10 * tenTo 1 = digits :=
          Nat.div_mul_cancel (Nat.dvd_of_mod_eq_zero zeros.2)
        rw [tens, show scale + 1 - (1 : Nat) = scale by omega]
        exact contained
      · exact contained

end Neighbourhood

theorem quadruple_lt {bits power grid : Nat} (below : power * twoTo (bits + 1) < grid) :
    4 * (power * twoTo bits) < 2 * grid := by
  have double : twoTo bits * twoTo 1 = twoTo (bits + 1) := twoTo_mul rfl
  rw [← double, ← Nat.mul_assoc, show twoTo 1 = 2 from rfl] at below
  omega

/-- The last grid that is tried is finer than half of the neighbourhood. -/
theorem gridStep_lt {mantissa exponent : Nat} (canonical : IsCanonical mantissa exponent) :
    let last := leadingScale (mantissa.log2 + exponent) - (23 : Nat)
    Neighbourhood.gridStep last < 2 * (tenTo (-last).toNat * twoTo exponent) := by
  intro last
  obtain ⟨narrow, _, least⟩ := canonical
  have width : mantissa.log2 ≤ 52 := by
    rcases Nat.eq_zero_or_pos mantissa with rfl | some_mantissa
    · decide
    · exact Nat.le_of_lt_succ ((Nat.log2_lt (Nat.ne_of_gt some_mantissa)).mpr narrow)
  have decimals : 100000 * (last + 22) ≤ ((exponent : Int) - 1021) * 30103 := by
    have quotient : last + 22 =
        (((mantissa.log2 + exponent : Nat) : Int) - 1073) * 30103 / 100000 := by
      change Int.fdiv _ 100000 + 1 - 23 + 22 = _
      rw [Int.fdiv_eq_ediv_of_nonneg _ (by decide)]
      omega
    rw [quotient]
    omega
  unfold Neighbourhood.gridStep
  generalize last = scale at *
  refine quadruple_lt ?_
  rcases Int.lt_or_le scale 0 with fraction | whole
  · have below : twoTo (1075 - exponent) < tenTo (-scale).toNat := twoTo_lt_tenTo (by omega)
    rw [show scale.toNat = 0 by omega, show tenTo 0 = 1 from rfl, Nat.one_mul]
    calc
      twoTo (1074 + 1) ≤ twoTo (1075 - exponent + exponent) := twoTo_le (by omega)
      _ = twoTo (1075 - exponent) * twoTo exponent := (twoTo_mul rfl).symm
      _ < tenTo (-scale).toNat * twoTo exponent :=
        Nat.mul_lt_mul_of_pos_right below (twoTo_pos exponent)
  · have below : tenTo scale.toNat < twoTo (exponent - 1075) := tenTo_lt_twoTo (by omega)
    rw [show (-scale).toNat = 0 by omega, show tenTo 0 = 1 from rfl, Nat.one_mul]
    calc
      tenTo scale.toNat * twoTo (1074 + 1) < twoTo (exponent - 1075) * twoTo (1074 + 1) :=
        Nat.mul_lt_mul_of_pos_right below (twoTo_pos _)
      _ = twoTo exponent := twoTo_mul (by omega)

/-- The shortest decimal of a positive double lies in its neighbourhood. -/
theorem contains_shortest {mantissa exponent : Nat} (tie : Tie)
    (canonical : IsCanonical mantissa exponent) :
    (neighbourhood mantissa exponent).Contains (shortest tie mantissa exponent).1
      (shortest tie mantissa exponent).2 := by
  obtain ⟨digits, found⟩ := Neighbourhood.exists_pointOn tie (gridStep_lt canonical)
  exact Neighbourhood.contains_dropTrailingZeros 24
    (Neighbourhood.contains_search 23 (by decide) found)

end Schemata.Binary64
