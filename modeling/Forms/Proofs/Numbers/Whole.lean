import Forms.Proofs.Numbers.Measure

/-!
# Numbers that are written in one way

A double is told by its sign and its number of units.  A whole number of at most fifty-three binary
digits is a double exactly, so that a short number reads the same whether it is held as an integer
or as a double.
-/

namespace Forms

namespace Double

theorem natAbs_units (d : Double) : d.units.natAbs = d.magnitude := by
  rw [units]
  split
  · rw [Int.natAbs_neg, Int.natAbs_natCast]
  · rw [Int.natAbs_natCast]

theorem exponent_of_magnitude (d : Double) :
    (if d.magnitude < 2 ^ 53 then 0 else d.magnitude.log2 - 52) = d.exponent := by
  obtain ⟨hmantissa, -, hleast⟩ := d.canonical
  apply grid_eq
  · exact hleast.imp_right (Nat.mul_le_mul_right _)
  · exact Nat.mul_lt_mul_of_pos_right hmantissa (Nat.two_pow_pos _)

/-- There is only one way to hold a number. -/
theorem eq_of_magnitude {left right : Double} (hnegative : left.negative = right.negative)
    (hmagnitude : left.magnitude = right.magnitude) : left = right := by
  have hexponent : left.exponent = right.exponent := by
    rw [← left.exponent_of_magnitude, hmagnitude, right.exponent_of_magnitude]
  have hmantissa : left.mantissa = right.mantissa := by
    rw [magnitude_eq, magnitude_eq, hexponent] at hmagnitude
    exact Nat.eq_of_mul_eq_mul_right (Nat.two_pow_pos _) hmagnitude
  obtain ⟨sign, mantissa, exponent, hleft⟩ := left
  obtain ⟨sign', mantissa', exponent', hright⟩ := right
  cases hnegative
  cases hmantissa
  cases hexponent
  rfl

theorem mantissa_eq_zero_iff (d : Double) : d.mantissa = 0 ↔ d.units = 0 := by
  rw [← Int.natAbs_eq_zero, natAbs_units, magnitude_eq, Nat.mul_eq_zero]
  exact (or_iff_left (Nat.ne_of_gt (Nat.two_pow_pos _))).symm

/-- Zero is the only number that is held with either sign. -/
theorem negative_iff {d : Double} (hnonzero : d.mantissa ≠ 0) :
    d.negative = true ↔ d.units < 0 := by
  have hunits := (not_congr d.mantissa_eq_zero_iff).mp hnonzero
  rw [units] at hunits ⊢
  cases hnegative : d.negative with
  | true =>
      rw [hnegative, if_pos rfl] at hunits
      rw [if_pos rfl]
      exact iff_of_true rfl (by omega)
  | false =>
      rw [if_neg Bool.false_ne_true]
      exact iff_of_false Bool.false_ne_true (by omega)

/-- Whether the double is zero with the sign of a negative number. -/
def isNegativeZero (d : Double) : Bool := d.negative && d.isZero

theorem negative_eq {d : Double} (hsign : d.isNegativeZero = false) :
    d.negative = decide (d.units < 0) := by
  by_cases hzero : d.mantissa = 0
  · have hpositive : d.negative = false := by
      simpa [isNegativeZero, isZero, hzero] using hsign
    rw [hpositive, (mantissa_eq_zero_iff d).mp hzero]
    rfl
  · rw [Bool.eq_iff_iff, negative_iff hzero, decide_eq_true_iff]

/-- Apart from negative zero a double is told by its number of units. -/
theorem eq_of_units {left right : Double} (hleft : left.isNegativeZero = false)
    (hright : right.isNegativeZero = false) (hunits : left.units = right.units) : left = right := by
  apply eq_of_magnitude
  · rw [negative_eq hleft, negative_eq hright, hunits]
  · rw [← natAbs_units, ← natAbs_units, hunits]

/-- A whole number of few digits is a double. -/
theorem exists_magnitude_eq (negative : Bool) {value : Nat} (hpos : 0 < value)
    (hvalue : value < 2 ^ 53) :
    ∃ d : Double, d.negative = negative ∧ d.magnitude = value * 2 ^ unitBits := by
  have hbits : 52 ≤ unitBits ∧ unitBits ≤ 2045 := by decide
  have hlog : value.log2 ≤ 52 :=
    Nat.le_of_lt_succ ((Nat.log2_lt (Nat.ne_of_gt hpos)).mpr hvalue)
  have hlow := Nat.log2_self_le (Nat.ne_of_gt hpos)
  have hhigh : value < 2 ^ (value.log2 + 1) := Nat.lt_log2_self
  -- The digits are moved to the top of the mantissa.
  obtain ⟨shift, hshift⟩ : ∃ shift, value.log2 + shift = 52 := ⟨_, Nat.add_sub_cancel' hlog⟩
  have hcanonical : Canonical (value * 2 ^ shift) (unitBits - shift) := by
    refine ⟨?_, Nat.le_trans (Nat.sub_le _ _) hbits.2, Or.inr ?_⟩
    · change _ < 2 ^ 53
      rw [show 53 = value.log2 + 1 + shift by omega, Nat.pow_add]
      exact Nat.mul_lt_mul_of_pos_right hhigh (Nat.two_pow_pos _)
    · change 2 ^ 52 ≤ _
      rw [← hshift, Nat.pow_add]
      exact Nat.mul_le_mul_right _ hlow
  refine ⟨⟨negative, _, _, hcanonical⟩, rfl, ?_⟩
  rw [magnitude_eq, Nat.mul_assoc, ← Nat.pow_add, Nat.add_sub_cancel' (by omega)]

theorem ofRatio?_zero (negative : Bool) (denominator : Nat) :
    ofRatio? negative 0 denominator = some { zero with negative } := by
  have hround (divisor : Nat) : roundHalfEven 0 divisor = 0 := by
    rcases Nat.eq_zero_or_pos divisor with rfl | hpos
    · rfl
    · simp [roundHalfEven, hpos]
  simp only [ofRatio?, Nat.zero_mul, Nat.zero_div, hround]
  rfl

/-- A whole number of few digits is rounded to itself. -/
theorem exists_ofRatio?_one (negative : Bool) {value : Nat} (hvalue : value < 2 ^ 53) :
    ∃ d, ofRatio? negative value 1 = some d ∧ d.negative = negative ∧
      d.magnitude = value * 2 ^ unitBits := by
  rcases Nat.eq_zero_or_pos value with rfl | hpos
  · exact ⟨_, ofRatio?_zero negative 1, rfl, by rw [Nat.zero_mul]; exact Nat.zero_mul _⟩
  · obtain ⟨d, rfl, hmagnitude⟩ := exists_magnitude_eq negative hpos hvalue
    have hnonzero : d.mantissa ≠ 0 := by
      intro hmantissa
      rw [magnitude_eq, hmantissa, Nat.zero_mul] at hmagnitude
      exact absurd hmagnitude.symm (Nat.ne_of_gt (Nat.mul_pos hpos (Nat.two_pow_pos _)))
    refine ⟨d, ?_, rfl, hmagnitude⟩
    apply ofRatio?_of_absorbs Nat.one_pos hnonzero
    rw [← hmagnitude]
    exact absorbs_magnitude hnonzero

theorem exists_ofInt? {value : Int} (hvalue : value.natAbs < 2 ^ 53) :
    ∃ d, ofInt? value = some d ∧ d.units = value * 2 ^ unitBits := by
  obtain ⟨d, hd, hnegative, hmagnitude⟩ := exists_ofRatio?_one (decide (value < 0)) hvalue
  refine ⟨d, hd, ?_⟩
  have hsigned : (if decide (value < 0) then -(value.natAbs : Int) else value.natAbs) = value := by
    simp only [decide_eq_true_eq]
    split <;> omega
  rw [units, hnegative, hmagnitude, Nat.cast_mul, ← Int.neg_mul, ← ite_mul, hsigned]
  push_cast
  rfl

end Double

namespace Number

/-- Whether the number is below `10 ^ 15` in size and is not negative zero. -/
def IsShort : Number → Prop
  | .integer value _ => value.natAbs < 10 ^ 15
  | .double value => value.wholePart < 10 ^ 15 ∧ value.isNegativeZero = false

theorem units_integer {value : Int} (hvalue : value.natAbs < 10 ^ 15) (inRange : InRange value) :
    (Number.integer value inRange).toDouble.units = value * 2 ^ Double.unitBits := by
  obtain ⟨d, hd, hunits⟩ := Double.exists_ofInt? (Nat.lt_trans hvalue (by norm_num))
  rw [toDouble, hd, Option.getD_some, hunits]

theorem two_pow_unitBits_pos : (0 : Int) < 2 ^ Double.unitBits := Int.pow_pos (by decide)

/-- A whole double reads like the integer. -/
theorem readingText_double {d : Double} {value : Int} (hvalue : value.natAbs < 10 ^ 15)
    (inRange : InRange value) (hsign : d.isNegativeZero = false)
    (hunits : d.units = value * 2 ^ Double.unitBits) :
    (Number.double d).readingText = (Number.integer value inRange).text := by
  have hmagnitude : d.magnitude = value.natAbs * 2 ^ Double.unitBits := by
    rw [← d.natAbs_units, hunits, Int.natAbs_mul, Int.natAbs_pow,
      show Int.natAbs 2 = 2 from rfl]
  have hnegative : d.negative = decide (value < 0) := by
    have hlt : value * 2 ^ Double.unitBits < 0 * 2 ^ Double.unitBits ↔ value < 0 :=
      Int.mul_lt_mul_right two_pow_unitBits_pos
    rw [Int.zero_mul] at hlt
    rw [Double.negative_eq hsign, hunits]
    exact decide_eq_decide.mpr hlt
  have hwhole : d.wholePart = value.natAbs := by
    rw [Double.wholePart, hmagnitude, Nat.pow_eq, Nat.mul_div_cancel _ (Nat.two_pow_pos _)]
  have hintegral : d.isIntegral = true := by
    rw [Double.isIntegral, hmagnitude, Nat.pow_eq, Nat.mul_mod_left, beq_self_eq_true]
  rw [readingText, if_pos (Bool.and_eq_true_iff.mpr ⟨hintegral, decide_eq_true (hwhole ▸ hvalue)⟩),
    hwhole, hnegative, text]
  simp only [decide_eq_true_eq]
  split <;> rfl

/-- Short numbers that are equal read the same. -/
theorem readingText_congr {left right : Number} (hleft : left.IsShort) (hright : right.IsShort)
    (hunits : left.toDouble.units = right.toDouble.units) :
    left.readingText = right.readingText := by
  cases left with
  | integer value inRange =>
      rw [units_integer hleft] at hunits
      cases right with
      | integer other others =>
          rw [units_integer hright] at hunits
          cases Int.eq_of_mul_eq_mul_right (Int.ne_of_gt two_pow_unitBits_pos) hunits
          rfl
      | double other => exact (readingText_double hleft inRange hright.2 hunits.symm).symm
  | double value =>
      cases right with
      | integer other inRange =>
          rw [units_integer hright] at hunits
          exact readingText_double hright inRange hleft.2 hunits
      | double other =>
          rw [Double.eq_of_units hleft.2 hright.2 hunits]

end Number

end Forms
