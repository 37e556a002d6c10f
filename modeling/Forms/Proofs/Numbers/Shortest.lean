import Forms.Proofs.Numbers.Rounding

/-!
# The shortest decimal reads back

A decimal belongs to a double when it lies between the halves on both sides of it; then reading it
gives the double.  Belonging is kept when a zero at the end of the digits moves into the exponent.
On the grid of seventeen digits one of the two points beside a double belongs to it, because the
grid is finer than the doubles are apart, so the search for the shortest decimal always finds one.
-/

namespace Forms

namespace Decimal

/-- The decimal is `numerator / denominator`. -/
def numerator (decimal : Decimal) : Nat := decimal.digits * 10 ^ decimal.exponent.toNat

def denominator (decimal : Decimal) : Nat := 10 ^ (-decimal.exponent).toNat

theorem denominator_pos (decimal : Decimal) : 0 < decimal.denominator := Nat.pow_pos (by decide)

end Decimal

namespace Double

/-- The decimal lies near enough to be rounded to the size of the double. -/
def Takes (d : Double) (decimal : Decimal) : Prop :=
  d.absorbs (4 * (decimal.numerator * 2 ^ unitBits)) decimal.denominator = true

variable {d : Double}

/-! ## Zeros at the end of the digits -/

theorem takes_mul_ten {digits : Nat} {exponent : Int} :
    d.Takes ⟨digits * 10, exponent⟩ ↔ d.Takes ⟨digits, exponent + 1⟩ := by
  simp only [Takes, Decimal.numerator, Decimal.denominator]
  rcases Int.lt_or_le exponent 0 with hneg | hnonneg
  · obtain ⟨places, rfl⟩ : ∃ places : Nat, exponent = -(places + 1 : Int) :=
      ⟨(-exponent - 1).toNat, by omega⟩
    have hnumerator : 4 * (digits * 10 * 10 ^ (-(places + 1 : Int)).toNat * 2 ^ unitBits) =
        10 * (4 * (digits * 10 ^ (-(places + 1 : Int) + 1).toNat * 2 ^ unitBits)) := by
      rw [show (-(places + 1 : Int)).toNat = 0 by omega,
        show (-(places + 1 : Int) + 1).toNat = 0 by omega]
      ring
    have hdenominator : 10 ^ (- -(places + 1 : Int)).toNat =
        10 * 10 ^ (-(-(places + 1 : Int) + 1)).toNat := by
      rw [show (- -(places + 1 : Int)).toNat = places + 1 by omega,
        show (-(-(places + 1 : Int) + 1)).toNat = places by omega]
      ring
    rw [hnumerator, hdenominator, absorbs_mul (by decide)]
  · rw [show (exponent + 1).toNat = exponent.toNat + 1 by omega,
      show (-exponent).toNat = 0 by omega, show (-(exponent + 1)).toNat = 0 by omega,
      Nat.pow_succ, Nat.mul_assoc digits, Nat.mul_comm 10]

theorem takes_mul_pow {digits : Nat} {exponent : Int} (zeros : Nat) :
    d.Takes ⟨digits * 10 ^ zeros, exponent⟩ ↔ d.Takes ⟨digits, exponent + zeros⟩ := by
  induction zeros generalizing exponent with
  | zero => simp
  | succ zeros ih =>
      rw [Nat.pow_succ, ← Nat.mul_assoc, takes_mul_ten, ih, Int.add_assoc, Nat.cast_succ,
        Int.add_comm 1]

theorem takes_stripZeros (fuel : Nat) (decimal : Decimal) :
    d.Takes (decimal.stripZeros fuel) ↔ d.Takes decimal := by
  induction fuel generalizing decimal with
  | zero => rfl
  | succ fuel ih =>
      rw [Decimal.stripZeros]
      split
      · rename_i hzero
        rw [ih, ← takes_mul_ten, Nat.div_mul_cancel (Nat.dvd_of_mod_eq_zero hzero.2)]
      · rfl

/-! ## A decimal that belongs to a double reads back as it -/

theorem magnitude_pos (hnonzero : d.mantissa ≠ 0) : 0 < d.magnitude :=
  Nat.mul_pos (Nat.pos_of_ne_zero hnonzero) (Nat.two_pow_pos _)

/-- What belongs to a double is at least half as large. -/
theorem Takes.le {decimal : Decimal} (hnonzero : d.mantissa ≠ 0) (h : d.Takes decimal) :
    decimal.denominator ≤ 2 * (decimal.numerator * 2 ^ unitBits) := by
  have hlow := ((absorbs_iff decimal.denominator_pos hnonzero).mp h).1
  have hgap : d.lowerGap ≤ 2 * d.magnitude :=
    d.lowerGap_le.trans (Nat.mul_le_mul_left 2
      (Nat.le_mul_of_pos_left _ (Nat.pos_of_ne_zero hnonzero)))
  have hscaled : d.lowerGap * decimal.denominator ≤ 2 * d.magnitude * decimal.denominator :=
    Nat.mul_le_mul_right _ hgap
  have hunit : 1 * decimal.denominator ≤ d.magnitude * decimal.denominator :=
    Nat.mul_le_mul_right _ (magnitude_pos hnonzero)
  rw [Nat.mul_assoc] at hlow hscaled
  omega

theorem Takes.digits_ne_zero {decimal : Decimal} (hnonzero : d.mantissa ≠ 0)
    (h : d.Takes decimal) : decimal.digits ≠ 0 := by
  intro hzero
  have hle := h.le hnonzero
  have hpos := decimal.denominator_pos
  rw [Decimal.numerator, hzero] at hle
  omega

theorem two_pow_le_ten_pow (exponent : Nat) : 2 ^ (3 * exponent) ≤ 10 ^ exponent := by
  rw [Nat.pow_mul]
  exact Nat.pow_le_pow_left (by decide) exponent

/-- No decimal that belongs to a double is so small that it is read as zero unseen. -/
theorem Takes.le_exponent {decimal : Decimal} (hnonzero : d.mantissa ≠ 0)
    (h : d.Takes decimal) : -400 - (decimal.digits.log2 : Int) ≤ decimal.exponent := by
  by_contra hsmall
  have hle := h.le hnonzero
  have hlog : decimal.digits < 2 ^ (decimal.digits.log2 + 1) := Nat.lt_log2_self
  have hzeros : decimal.exponent.toNat = 0 := by omega
  rw [Decimal.denominator, Decimal.numerator, hzeros, Nat.pow_zero, Nat.mul_one] at hle
  refine absurd hle (Nat.not_le_of_lt ?_)
  calc
    2 * (decimal.digits * 2 ^ unitBits)
      < 2 * (2 ^ (decimal.digits.log2 + 1) * 2 ^ unitBits) :=
        Nat.mul_lt_mul_of_pos_left
          (Nat.mul_lt_mul_of_pos_right hlog (Nat.two_pow_pos _)) (by decide)
    _ = 2 ^ (1 + (decimal.digits.log2 + 1 + unitBits)) := by
        rw [Nat.pow_add 2 1, Nat.pow_add 2 (_ + 1)]
    _ ≤ 2 ^ (3 * (-decimal.exponent).toNat) :=
        Nat.pow_le_pow_right (by decide) (by rw [unitBits]; omega)
    _ ≤ 10 ^ (-decimal.exponent).toNat := two_pow_le_ten_pow _

/-- No decimal that belongs to a double is so large that it is refused unseen. -/
theorem Takes.exponent_le {decimal : Decimal} (hnonzero : d.mantissa ≠ 0)
    (h : d.Takes decimal) : decimal.exponent ≤ 400 := by
  by_contra hlarge
  have hhigh := ((absorbs_iff decimal.denominator_pos hnonzero).mp h).2.1
  have hparts : (-decimal.exponent).toNat = 0 := by omega
  have hdigits := Nat.pos_of_ne_zero (h.digits_ne_zero hnonzero)
  rw [Decimal.denominator, Decimal.numerator, hparts, Nat.pow_zero, Nat.mul_one, Nat.mul_one,
    magnitude_eq, upperGap_eq] at hhigh
  refine absurd hhigh (Nat.not_le_of_lt ?_)
  have hmantissa := d.mantissa_lt
  calc
    4 * (d.mantissa * 2 ^ d.exponent) + 2 * 2 ^ d.exponent
      = (4 * d.mantissa + 2) * 2 ^ d.exponent := by ring
    _ < 2 ^ 56 * 2 ^ d.exponent := Nat.mul_lt_mul_of_pos_right (by omega) (Nat.two_pow_pos _)
    _ = 2 ^ (56 + d.exponent) := by rw [Nat.pow_add]
    _ ≤ 2 ^ (2 + (3 * decimal.exponent.toNat + unitBits)) := by
        refine Nat.pow_le_pow_right (by decide) ?_
        have := d.canonical.2.1
        rw [unitBits]
        omega
    _ = 4 * (2 ^ (3 * decimal.exponent.toNat) * 2 ^ unitBits) := by rw [Nat.pow_add, Nat.pow_add]
    _ ≤ 4 * (decimal.digits * 10 ^ decimal.exponent.toNat * 2 ^ unitBits) := by
        refine Nat.mul_le_mul_left _ (Nat.mul_le_mul_right _ ?_)
        calc
          2 ^ (3 * decimal.exponent.toNat) ≤ 1 * 10 ^ decimal.exponent.toNat := by
            rw [Nat.one_mul]
            exact two_pow_le_ten_pow _
          _ ≤ decimal.digits * 10 ^ decimal.exponent.toNat := Nat.mul_le_mul_right _ hdigits

/-- A decimal that is in reach of the doubles is rounded as the quotient it is. -/
theorem ofScientific?_eq_ofRatio? (negative : Bool) {decimal : Decimal}
    (hdigits : decimal.digits ≠ 0) (hlow : -400 - (decimal.digits.log2 : Int) ≤ decimal.exponent)
    (hhigh : decimal.exponent ≤ 400) :
    ofScientific? negative decimal.digits decimal.exponent =
      ofRatio? negative decimal.numerator decimal.denominator := by
  simp only [ofScientific?, Nat.pow_eq, Decimal.numerator, Decimal.denominator]
  rw [if_neg hdigits]
  split
  · rw [if_neg (by omega), show decimal.exponent.natAbs = (-decimal.exponent).toNat by omega,
      show decimal.exponent.toNat = 0 by omega, Nat.pow_zero, Nat.mul_one]
  · rw [if_neg (by omega), show decimal.exponent.natAbs = decimal.exponent.toNat by omega,
      show (-decimal.exponent).toNat = 0 by omega, Nat.pow_zero]

theorem ofScientific?_of_takes {decimal : Decimal} (hnonzero : d.mantissa ≠ 0)
    (h : d.Takes decimal) :
    ofScientific? d.negative decimal.digits decimal.exponent = some d := by
  rw [ofScientific?_eq_ofRatio? _ (h.digits_ne_zero hnonzero) (h.le_exponent hnonzero)
    (h.exponent_le hnonzero)]
  exact ofRatio?_of_absorbs decimal.denominator_pos hnonzero h

/-! ## The search for it succeeds -/

theorem step_eq (exponent : Int) :
    (if exponent < 0 then 1 else 10 ^ exponent.natAbs) = 10 ^ exponent.toNat := by
  split
  · rw [show exponent.toNat = 0 by omega, Nat.pow_zero]
  · rw [show exponent.natAbs = exponent.toNat by omega]

theorem parts_eq (exponent : Int) :
    (if exponent < 0 then 10 ^ exponent.natAbs else 1) = 10 ^ (-exponent).toNat := by
  split
  · rw [show exponent.natAbs = (-exponent).toNat by omega]
  · rw [show (-exponent).toNat = 0 by omega, Nat.pow_zero]

/-- The last point of the grid that does not lie past the size of the double. -/
def gridBelow (d : Double) (exponent : Int) : Nat :=
  d.magnitude * 10 ^ (-exponent).toNat / (10 ^ exponent.toNat * 2 ^ unitBits)

theorem quarters_eq (point step unit : Nat) :
    4 * unit * step * point = 4 * (point * step * unit) := by
  ac_rfl

theorem takes_iff (point : Nat) (exponent : Int) :
    d.Takes ⟨point, exponent⟩ ↔
      d.absorbs (4 * 2 ^ unitBits * 10 ^ exponent.toNat * point)
        (10 ^ (-exponent).toNat) = true := by
  rw [Takes, Decimal.numerator, Decimal.denominator, quarters_eq]

theorem takes_of_onGrid? {exponent : Int} {point : Nat} (h : d.onGrid? exponent = some point) :
    d.Takes ⟨point, exponent⟩ := by
  simp only [onGrid?, Nat.pow_eq, step_eq, parts_eq] at h
  rw [takes_iff]
  generalize 2 ^ unitBits = unit at *
  split at h
  · rename_i hbelow habove
    cases h
    split
    · exact hbelow
    · exact habove
  · rename_i hbelow _
    cases h
    exact hbelow
  · rename_i _ habove
    cases h
    exact habove
  · cases h

theorem onGrid?_isSome {exponent : Int}
    (h : d.Takes ⟨d.gridBelow exponent, exponent⟩ ∨ d.Takes ⟨d.gridBelow exponent + 1, exponent⟩) :
    (d.onGrid? exponent).isSome = true := by
  rw [takes_iff, takes_iff, gridBelow] at h
  simp only [onGrid?, Nat.pow_eq, step_eq, parts_eq]
  generalize 2 ^ unitBits = unit at *
  split
  · rfl
  · rfl
  · rfl
  · rename_i hbelow habove
    rw [hbelow, habove] at h
    simp at h

theorem ten_pow_le (hnonzero : d.mantissa ≠ 0) {places : Nat} (hplaces : unitBits ≤ 3 * places) :
    10 ^ ((Nat.toDigits 10 (d.magnitude * 10 ^ places / 2 ^ unitBits)).length - 1) * 2 ^ unitBits ≤
      d.magnitude * 10 ^ places := by
  have hone : 2 ^ unitBits ≤ d.magnitude * 10 ^ places := calc
    2 ^ unitBits ≤ 2 ^ (3 * places) := Nat.pow_le_pow_right (by decide) hplaces
    _ ≤ 1 * 10 ^ places := by
        rw [Nat.one_mul]
        exact two_pow_le_ten_pow places
    _ ≤ d.magnitude * 10 ^ places := Nat.mul_le_mul_right _ (magnitude_pos hnonzero)
  rw [← Nat.le_div_iff_mul_le (Nat.two_pow_pos _)]
  have hpos := Nat.div_pos hone (Nat.two_pow_pos _)
  generalize d.magnitude * 10 ^ places / 2 ^ unitBits = whole at *
  rcases Nat.eq_zero_or_pos ((Nat.toDigits 10 whole).length - 1) with hsingle | hmany
  · rw [hsingle]
    exact hpos
  · by_contra hless
    have hlength := (Nat.length_toDigits_le_iff (by decide) hmany).mpr (Nat.not_le.mp hless)
    omega

/-- Where seventeen digits end, a step of the grid is at most the part `10 ^ -16` of the double. -/
theorem step_le (hnonzero : d.mantissa ≠ 0) {exponent : Int}
    (hexponent : exponent = d.decimalPoint - 17) :
    10 ^ 16 * (10 ^ exponent.toNat * 2 ^ unitBits) ≤ d.magnitude * 10 ^ (-exponent).toNat := by
  unfold decimalPoint at hexponent
  -- the power is named, as it is too large to be computed with
  generalize hplaces : 400 = places at hexponent
  have hdigits := ten_pow_le hnonzero (show unitBits ≤ 3 * places by rw [unitBits]; omega)
  have hlength : 0 < (Nat.toDigits 10 (d.magnitude * 10 ^ places / 2 ^ unitBits)).length :=
    Nat.length_toDigits_pos
  rw [Nat.pow_eq, Nat.pow_eq] at hexponent
  generalize (Nat.toDigits 10 (d.magnitude * 10 ^ places / 2 ^ unitBits)).length = length at *
  generalize 2 ^ unitBits = unit at *
  rcases Nat.lt_or_ge length (places + 17) with hneg | hnonneg
  · rw [show exponent.toNat = 0 by omega, show (-exponent).toNat = places + 17 - length by omega,
      Nat.pow_zero, Nat.one_mul]
    refine Nat.le_of_mul_le_mul_left ?_ (show 0 < 10 ^ (length - 1) from Nat.pow_pos (by decide))
    calc
      10 ^ (length - 1) * (10 ^ 16 * unit)
        = 10 ^ (length - 1) * unit * 10 ^ 16 := by ac_rfl
      _ ≤ d.magnitude * 10 ^ places * 10 ^ 16 := Nat.mul_le_mul_right _ hdigits
      _ = 10 ^ (length - 1) * (d.magnitude * 10 ^ (places + 17 - length)) := by
          rw [Nat.mul_assoc, ← Nat.pow_add, Nat.mul_left_comm, ← Nat.pow_add,
            show places + 16 = length - 1 + (places + 17 - length) by omega]
  · rw [show exponent.toNat = length - (places + 17) by omega, show (-exponent).toNat = 0 by omega,
      Nat.pow_zero, Nat.mul_one]
    refine Nat.le_of_mul_le_mul_right ?_ (show 0 < 10 ^ places from Nat.pow_pos (by decide))
    calc
      10 ^ 16 * (10 ^ (length - (places + 17)) * unit) * 10 ^ places
        = 10 ^ 16 * 10 ^ (length - (places + 17)) * 10 ^ places * unit := by ac_rfl
      _ = 10 ^ (length - 1) * unit := by
          rw [← Nat.pow_add, ← Nat.pow_add,
            show 16 + (length - (places + 17)) + places = length - 1 by omega]
      _ ≤ d.magnitude * 10 ^ places := hdigits

/-- The gaps on both sides of a double are wider than the part `10 ^ -16` of it. -/
theorem lt_gaps (d : Double) :
    4 * d.magnitude < 10 ^ 16 * (d.lowerGap + d.upperGap) := by
  have hmantissa := d.mantissa_lt
  have hpos := Nat.two_pow_pos d.exponent
  rw [magnitude_eq, upperGap_eq, lowerGap]
  simp only [Nat.pow_eq]
  split
  · rename_i hpower
    rw [hpower.1]
    omega
  · calc
      4 * (d.mantissa * 2 ^ d.exponent) = 4 * d.mantissa * 2 ^ d.exponent := by ac_rfl
      _ < 10 ^ 16 * 4 * 2 ^ d.exponent := Nat.mul_lt_mul_of_pos_right (by omega) hpos
      _ = 10 ^ 16 * (2 * 2 ^ d.exponent + 2 * 2 ^ d.exponent) := by ring

theorem takes_iff_near (hnonzero : d.mantissa ≠ 0) (point : Nat) (exponent : Int) :
    d.Takes ⟨point, exponent⟩ ↔
      4 * (d.magnitude * 10 ^ (-exponent).toNat) ≤
        4 * (point * (10 ^ exponent.toNat * 2 ^ unitBits)) + d.lowerGap * 10 ^ (-exponent).toNat ∧
      4 * (point * (10 ^ exponent.toNat * 2 ^ unitBits)) ≤
        4 * (d.magnitude * 10 ^ (-exponent).toNat) + d.upperGap * 10 ^ (-exponent).toNat ∧
      (d.mantissa % 2 = 0 ∨
        4 * (d.magnitude * 10 ^ (-exponent).toNat) <
          4 * (point * (10 ^ exponent.toNat * 2 ^ unitBits)) + d.lowerGap * 10 ^ (-exponent).toNat ∧
        4 * (point * (10 ^ exponent.toNat * 2 ^ unitBits)) <
          4 * (d.magnitude * 10 ^ (-exponent).toNat) + d.upperGap * 10 ^ (-exponent).toNat) := by
  rw [Takes, absorbs_iff (Decimal.denominator_pos _) hnonzero, Decimal.numerator,
    Decimal.denominator, Nat.mul_assoc point, Nat.mul_assoc 4]

/-- On a grid that is finer than the doubles are apart, one of the two points beside a double
belongs to it. -/
theorem takes_beside (hnonzero : d.mantissa ≠ 0) {exponent : Int}
    (hstep : 10 ^ 16 * (10 ^ exponent.toNat * 2 ^ unitBits) ≤
      d.magnitude * 10 ^ (-exponent).toNat) :
    d.Takes ⟨d.gridBelow exponent, exponent⟩ ∨ d.Takes ⟨d.gridBelow exponent + 1, exponent⟩ := by
  have hparts : 0 < 10 ^ (-exponent).toNat := Nat.pow_pos (by decide)
  have hunit : 0 < 10 ^ exponent.toNat * 2 ^ unitBits :=
    Nat.mul_pos (Nat.pow_pos (by decide)) (Nat.two_pow_pos _)
  have hgaps := Nat.mul_lt_mul_of_pos_right d.lt_gaps hparts
  have hrest := Nat.mod_lt (d.magnitude * 10 ^ (-exponent).toNat) hunit
  have hdiv := Nat.div_add_mod' (d.magnitude * 10 ^ (-exponent).toNat)
    (10 ^ exponent.toNat * 2 ^ unitBits)
  have hlower := Nat.mul_pos d.lowerGap_pos hparts
  have hupper : 0 < d.upperGap * 10 ^ (-exponent).toNat :=
    Nat.mul_pos (Nat.mul_pos (by decide) (Nat.two_pow_pos _)) hparts
  rw [Nat.mul_assoc (10 ^ 16), Nat.add_mul, Nat.mul_assoc 4] at hgaps
  rw [takes_iff_near hnonzero, takes_iff_near hnonzero, gridBelow, Nat.add_mul (_ / _) 1,
    Nat.one_mul]
  generalize 10 ^ exponent.toNat * 2 ^ unitBits = step at *
  generalize d.magnitude * 10 ^ (-exponent).toNat = size at *
  generalize size / step * step = below at *
  -- The two gaps together are wider than the step from one point to the other.
  omega

theorem exists_onGrid? (hnonzero : d.mantissa ≠ 0) :
    (d.onGrid? (d.decimalPoint - 17)).isSome = true :=
  onGrid?_isSome (takes_beside hnonzero (step_le hnonzero rfl))

/-- The shortest decimal of a double belongs to it. -/
theorem takes_shortest (hnonzero : d.mantissa ≠ 0) : d.Takes d.shortest := by
  have hsize : d.isZero = false := by simpa [isZero] using hnonzero
  rw [shortest, hsize]
  simp only [Bool.false_eq_true, if_false]
  split
  · rename_i digits exponent hfound
    obtain ⟨_, _, hgrid⟩ := List.exists_of_findSome?_eq_some hfound
    obtain ⟨point, hpoint, heq⟩ := Option.map_eq_some_iff.mp hgrid
    cases heq
    exact (takes_stripZeros _ _).mpr (takes_of_onGrid? hpoint)
  · rename_i hnone
    have hlast := List.findSome?_eq_none_iff.mp hnone (d.decimalPoint - 17)
      (List.mem_map.mpr ⟨16, by decide, rfl⟩)
    rw [Option.map_eq_none_iff] at hlast
    have hfound := exists_onGrid? hnonzero
    rw [hlast] at hfound
    cases hfound

end Double

end Forms
