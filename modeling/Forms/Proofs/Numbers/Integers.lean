import Forms.Proofs.Numbers.Whole

/-!
# Integers as doubles

An integer of a document is compared as the double nearest to it.  That double keeps the first
fifty-three binary digits of the integer and rounds the others away, a half to the even neighbour,
so two integers become the same double exactly when they round alike.
-/

namespace Forms

/-! ## Rounding quotients -/

/-- A common factor does not change what a quotient is rounded to. -/
theorem roundHalfEven_mul {factor : Nat} (hfactor : 0 < factor) (numerator denominator : Nat) :
    roundHalfEven (numerator * factor) (denominator * factor) =
      roundHalfEven numerator denominator := by
  have hless (left right : Nat) : left * factor < right * factor ↔ left < right :=
    Nat.mul_lt_mul_right hfactor
  have hsame (left right : Nat) : left * factor = right * factor ↔ left = right :=
    Nat.mul_left_inj (Nat.ne_of_gt hfactor)
  simp only [roundHalfEven, Nat.mul_div_mul_right _ _ hfactor, Nat.mul_mod_mul_right,
    ← Nat.mul_assoc, hless, hsame]

theorem roundHalfEven_of_dvd {numerator denominator : Nat} (hpos : 0 < denominator)
    (hdvd : denominator ∣ numerator) :
    roundHalfEven numerator denominator * denominator = numerator := by
  obtain ⟨quotient, rfl⟩ := hdvd
  have hround : roundHalfEven (denominator * quotient) denominator = quotient :=
    roundHalfEven_eq hpos (by omega) (by omega) (by omega)
  rw [hround, Nat.mul_comm]

/-! ## The nearest double of an integer -/

/-- How many binary digits at the end of an integer of this size a double has no room for. -/
def lostDigits (size : Nat) : Nat := size.log2 - 52

/-- The size with the digits rounded away that a double has no room for. -/
def nearestSize (size : Nat) : Nat :=
  roundHalfEven size (2 ^ lostDigits size) * 2 ^ lostDigits size

/-- The integer that the double nearest to an integer stands for. -/
def nearest (value : Int) : Int :=
  if value < 0 then -(nearestSize value.natAbs : Int) else nearestSize value.natAbs

/-- A double has room for the whole integer: fifty-three binary digits, and zeros behind them. -/
def FitsDouble (value : Int) : Prop := 2 ^ lostDigits value.natAbs ∣ value.natAbs

theorem nearest_of_fitsDouble {value : Int} (hfits : FitsDouble value) : nearest value = value := by
  rw [nearest, nearestSize, roundHalfEven_of_dvd (Nat.two_pow_pos _) hfits]
  split <;> omega

theorem fitsDouble_of_natAbs_le {value : Int} (hvalue : value.natAbs ≤ 2 ^ 53) :
    FitsDouble value := by
  rcases Nat.lt_or_eq_of_le hvalue with hless | hequal
  · have hlog : value.natAbs.log2 ≤ 52 := by
      rcases Nat.eq_zero_or_pos value.natAbs with hzero | hpos
      · rw [hzero]
        exact Nat.zero_le _
      · exact Nat.le_of_lt_succ ((Nat.log2_lt (Nat.ne_of_gt hpos)).mpr hless)
    rw [FitsDouble, lostDigits, Nat.sub_eq_zero_of_le hlog]
    exact Nat.one_dvd _
  · rw [FitsDouble, hequal, lostDigits, Nat.log2_two_pow]
    exact Nat.pow_dvd_pow 2 (by decide)

/-- Rounding does not take a large integer below `2 ^ 53`. -/
theorem le_nearestSize {size : Nat} (hsize : 2 ^ 53 ≤ size) : 2 ^ 53 ≤ nearestSize size := by
  have hpos : size ≠ 0 := by omega
  have hlog : 53 ≤ size.log2 := (Nat.le_log2 hpos).mpr hsize
  obtain ⟨lost, hlost⟩ : ∃ lost, size.log2 = 52 + lost := ⟨size.log2 - 52, by omega⟩
  have hbegin := Nat.log2_self_le hpos
  rw [hlost, Nat.pow_add] at hbegin
  have hquotient : 2 ^ 52 ≤ roundHalfEven size (2 ^ lost) :=
    Nat.le_trans ((Nat.le_div_iff_mul_le (Nat.two_pow_pos _)).mpr hbegin)
      (Double.roundHalfEven_near size (2 ^ lost)).1
  have hhalf : 2 ^ 1 ≤ 2 ^ lost := Nat.pow_le_pow_right (by decide) (by omega)
  rw [nearestSize, lostDigits, hlost, Nat.add_sub_cancel_left]
  calc
    2 ^ 53 = 2 ^ 52 * 2 ^ 1 := by norm_num
    _ ≤ roundHalfEven size (2 ^ lost) * 2 ^ lost := Nat.mul_le_mul hquotient hhalf

theorem natAbs_nearest (value : Int) : (nearest value).natAbs = nearestSize value.natAbs := by
  rw [nearest]
  split <;> omega

/-- An integer below `2 ^ 53` is the nearest one of no other integer. -/
theorem eq_of_nearest_eq_of_lt {value other : Int} (hvalue : value.natAbs < 2 ^ 53)
    (hnearest : nearest value = nearest other) : value = other := by
  have hexact := nearest_of_fitsDouble (fitsDouble_of_natAbs_le (Nat.le_of_lt hvalue))
  rcases Nat.lt_or_ge other.natAbs (2 ^ 53) with hsmall | hlarge
  · rw [← hexact, hnearest, nearest_of_fitsDouble (fitsDouble_of_natAbs_le (Nat.le_of_lt hsmall))]
  · have hfar := le_nearestSize hlarge
    rw [← natAbs_nearest, ← hnearest, hexact] at hfar
    omega

namespace Double

/-- What a quotient is rounded to, carried up or not. -/
theorem magnitude_of_ofRatio? {negative : Bool} {numerator denominator : Nat} {d : Double}
    (hratio : ofRatio? negative numerator denominator = some d) {scaled exponent : Nat}
    (hscaled : scaled = numerator * 2 ^ unitBits)
    (hexponent : (if scaled / denominator < 2 ^ 53 then 0
      else (scaled / denominator).log2 - 52) = exponent) :
    d.negative = negative ∧
      d.magnitude = roundHalfEven scaled (denominator * 2 ^ exponent) * 2 ^ exponent := by
  simp only [ofRatio?, Nat.pow_eq, ← hscaled, hexponent] at hratio
  have hparts {mantissa place : Nat} (hd : ofParts? negative mantissa place = some d) :
      d.negative = negative ∧ d.magnitude = mantissa * 2 ^ place := by
    rw [ofParts?] at hd
    split at hd
    · cases hd
      exact ⟨rfl, rfl⟩
    · cases hd
  split at hratio
  · rename_i hcarry
    obtain ⟨hnegative, hmagnitude⟩ := hparts hratio
    refine ⟨hnegative, ?_⟩
    rw [hmagnitude, hcarry, Nat.pow_succ 2 exponent]
    omega
  · exact hparts hratio

/-- A power of two in front of the point moves all binary digits. -/
theorem log2_mul_two_pow {size : Nat} (hsize : size ≠ 0) (places : Nat) :
    (size * 2 ^ places).log2 = size.log2 + places := by
  have hpos := Nat.two_pow_pos places
  rw [Nat.log2_eq_iff (Nat.mul_ne_zero hsize (Nat.ne_of_gt hpos)), Nat.pow_add,
    Nat.add_right_comm, Nat.pow_add]
  exact ⟨Nat.mul_le_mul_right _ (Nat.log2_self_le hsize),
    Nat.mul_lt_mul_of_pos_right Nat.lt_log2_self hpos⟩

/-- A large integer is rounded where the double has no room for more digits. -/
theorem magnitude_of_ofRatio?_one {negative : Bool} {size : Nat} {d : Double}
    (hsize : 2 ^ 53 ≤ size) (hratio : ofRatio? negative size 1 = some d) :
    d.negative = negative ∧ d.magnitude = nearestSize size * 2 ^ unitBits := by
  have hlog : 52 ≤ size.log2 :=
    Nat.le_trans (by decide) ((Nat.le_log2 (by omega)).mpr hsize)
  have hlarge : ¬size * 2 ^ unitBits < 2 ^ 53 :=
    Nat.not_lt_of_le (Nat.le_trans hsize (Nat.le_mul_of_pos_right _ (Nat.two_pow_pos _)))
  have hexponent : (if size * 2 ^ unitBits / 1 < 2 ^ 53 then 0
      else (size * 2 ^ unitBits / 1).log2 - 52) = lostDigits size + unitBits := by
    rw [Nat.div_one, if_neg hlarge, log2_mul_two_pow (by omega), lostDigits]
    omega
  obtain ⟨hnegative, hmagnitude⟩ := magnitude_of_ofRatio? hratio rfl hexponent
  refine ⟨hnegative, ?_⟩
  rw [hmagnitude, Nat.one_mul, Nat.pow_add, roundHalfEven_mul (Nat.two_pow_pos _), nearestSize,
    Nat.mul_assoc]

theorem exists_ofInt?_nearest {value : Int} (hvalue : value.natAbs < 2 ^ 64) :
    ∃ d, ofInt? value = some d ∧ d.units = nearest value * 2 ^ unitBits := by
  rcases Nat.lt_or_ge value.natAbs (2 ^ 53) with hsmall | hlarge
  · rw [nearest_of_fitsDouble (fitsDouble_of_natAbs_le (Nat.le_of_lt hsmall))]
    exact exists_ofInt? hsmall
  · obtain ⟨d, hd⟩ := exists_ofRatio? (decide (value < 0)) (by omega) hvalue
    obtain ⟨hnegative, hmagnitude⟩ := magnitude_of_ofRatio?_one hlarge hd
    refine ⟨d, hd, ?_⟩
    rw [units, hnegative, hmagnitude, nearest]
    simp only [decide_eq_true_eq, Nat.cast_mul, Nat.cast_pow, Nat.cast_ofNat]
    split
    · rw [Int.neg_mul]
    · rfl

end Double

namespace Number

theorem natAbs_lt_of_inRange {value : Int} (inRange : InRange value) : value.natAbs < 2 ^ 64 := by
  have hbound : (2 : Nat) ^ 64 = 18446744073709551616 := by norm_num
  obtain ⟨hleast, hmost⟩ := inRange
  omega

/-- Two integers of a document are the same double exactly when they round alike. -/
theorem units_integer_eq_iff {value other : Int} (inRange : InRange value)
    (others : InRange other) :
    (integer value inRange).toDouble.units = (integer other others).toDouble.units ↔
      nearest value = nearest other := by
  obtain ⟨d, hd, hleft⟩ := Double.exists_ofInt?_nearest (natAbs_lt_of_inRange inRange)
  obtain ⟨e, he, hright⟩ := Double.exists_ofInt?_nearest (natAbs_lt_of_inRange others)
  rw [toDouble, toDouble, hd, he, Option.getD_some, Option.getD_some, hleft, hright]
  exact mul_left_inj' (Int.ne_of_gt two_pow_unitBits_pos)

end Number

end Forms
