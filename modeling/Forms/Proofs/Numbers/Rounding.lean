import Forms.Json.Decimal
import Mathlib.Tactic.Linarith
import Mathlib.Tactic.Ring

/-!
# Rounding to a double

A quotient goes to the nearest double, a half to the even mantissa.  So all quotients between the
halves on both sides of a double go to that double, and the halves themselves do when its mantissa
is even.  Below a power of two the next double is only half as far, and a quotient there is rounded
on a finer grid, from which it is carried up.
-/

namespace Forms

/-- Between the halves on both sides of a whole number everything is rounded to it, and the halves
are when it is even. -/
theorem roundHalfEven_eq {numerator denominator nearest : Nat} (hpos : 0 < denominator)
    (hlow : 2 * (denominator * nearest) ≤ 2 * numerator + denominator)
    (hhigh : 2 * numerator ≤ 2 * (denominator * nearest) + denominator)
    (heven : nearest % 2 = 0 ∨ 2 * (denominator * nearest) < 2 * numerator + denominator ∧
      2 * numerator < 2 * (denominator * nearest) + denominator) :
    roundHalfEven numerator denominator = nearest := by
  have hdiv := Nat.div_add_mod numerator denominator
  have hrest := Nat.mod_lt numerator hpos
  simp only [roundHalfEven]
  generalize numerator / denominator = quotient at *
  generalize numerator % denominator = rest at *
  have hquotient : quotient = nearest ∨ quotient + 1 = nearest := by
    by_contra hfar
    rw [not_or] at hfar
    rcases Nat.lt_or_gt_of_ne hfar.1 with hbelow | habove
    · have hgap : denominator * (quotient + 2) ≤ denominator * nearest :=
        Nat.mul_le_mul_left _ (by omega)
      rw [Nat.mul_add] at hgap
      omega
    · have hgap : denominator * (nearest + 1) ≤ denominator * quotient :=
        Nat.mul_le_mul_left _ habove
      rw [Nat.mul_add] at hgap
      omega
  rcases hquotient with rfl | rfl
  · rw [if_pos (by omega)]
  · rw [Nat.mul_add] at hlow hhigh heven
    rw [if_neg (by omega)]

namespace Double

theorem magnitude_eq (d : Double) : d.magnitude = d.mantissa * 2 ^ d.exponent := rfl

theorem upperGap_eq (d : Double) : d.upperGap = 2 * 2 ^ d.exponent := rfl

theorem lowerGap_le (d : Double) : d.lowerGap ≤ 2 * 2 ^ d.exponent := by
  rw [lowerGap]
  split <;> simp only [Nat.pow_eq] <;> omega

theorem lowerGap_pos (d : Double) : 0 < d.lowerGap := by
  have hpos := Nat.two_pow_pos d.exponent
  rw [lowerGap]
  split <;> simp only [Nat.pow_eq] <;> omega

/-- The quotients that a double absorbs, without the subtraction. -/
theorem absorbs_iff {d : Double} {numerator denominator : Nat} (hpos : 0 < denominator)
    (hnonzero : d.mantissa ≠ 0) :
    d.absorbs numerator denominator = true ↔
      4 * d.magnitude * denominator ≤ numerator + d.lowerGap * denominator ∧
      numerator ≤ 4 * d.magnitude * denominator + d.upperGap * denominator ∧
      (d.mantissa % 2 = 0 ∨
        4 * d.magnitude * denominator < numerator + d.lowerGap * denominator ∧
        numerator < 4 * d.magnitude * denominator + d.upperGap * denominator) := by
  have hgap : d.lowerGap * denominator < 4 * d.magnitude * denominator := by
    refine Nat.mul_lt_mul_of_pos_right ?_ hpos
    calc
      d.lowerGap ≤ 2 * 2 ^ d.exponent := d.lowerGap_le
      _ < 4 * (1 * 2 ^ d.exponent) := by have := Nat.two_pow_pos d.exponent; omega
      _ ≤ 4 * d.magnitude :=
        Nat.mul_le_mul_left _ (Nat.mul_le_mul_right _ (Nat.one_le_iff_ne_zero.mpr hnonzero))
  simp only [absorbs, Nat.sub_mul, Nat.add_mul]
  split <;> simp only [Bool.and_eq_true, decide_eq_true_eq] <;> omega

/-- Twice the numerator and twice the denominator, or any other multiple, change nothing. -/
theorem absorbs_mul {d : Double} {factor : Nat} (hfactor : 0 < factor)
    (numerator denominator : Nat) :
    d.absorbs (factor * numerator) (factor * denominator) = d.absorbs numerator denominator := by
  simp only [absorbs, Nat.mul_left_comm _ factor, Nat.mul_le_mul_left_iff hfactor,
    Nat.mul_lt_mul_left hfactor]

theorem log2_eq {size exponent : Nat} (hlow : 2 ^ 52 * 2 ^ exponent ≤ size)
    (hhigh : size < 2 ^ 53 * 2 ^ exponent) : size.log2 - 52 = exponent := by
  have hpos := Nat.two_pow_pos exponent
  have hlog : size.log2 = 52 + exponent := by
    rw [Nat.log2_eq_iff (by omega), Nat.pow_add, Nat.add_right_comm, Nat.pow_add]
    exact ⟨hlow, hhigh⟩
  omega

/-- The grid on which a quotient is rounded, told by the whole part of the quotient. -/
theorem grid_eq {size exponent : Nat} (hlow : exponent = 0 ∨ 2 ^ 52 * 2 ^ exponent ≤ size)
    (hhigh : size < 2 ^ 53 * 2 ^ exponent) :
    (if size < 2 ^ 53 then 0 else size.log2 - 52) = exponent := by
  rcases Nat.eq_zero_or_pos exponent with rfl | hexponent
  · rw [Nat.pow_zero, Nat.mul_one] at hhigh
    rw [if_pos hhigh]
  · have hsize := hlow.resolve_left (Nat.ne_of_gt hexponent)
    have htwo : 2 ^ 1 ≤ 2 ^ exponent := Nat.pow_le_pow_right (by decide) hexponent
    rw [if_neg (by omega)]
    exact log2_eq hsize hhigh

theorem ofParts?_eq (d : Double) : ofParts? d.negative d.mantissa d.exponent = some d :=
  dif_pos d.canonical

theorem mantissa_lt (d : Double) : d.mantissa < 2 ^ 53 := d.canonical.1

/-- A quotient on the grid of the double itself. -/
theorem ofRatio?_of_absorbs_of_le {d : Double} {numerator denominator : Nat}
    (hpos : 0 < denominator) (hnonzero : d.mantissa ≠ 0)
    (habsorbs : d.absorbs (4 * (numerator * 2 ^ unitBits)) denominator = true)
    (hgrid : d.exponent = 0 ∨ 2 ^ 52 * (2 ^ d.exponent * denominator) ≤ numerator * 2 ^ unitBits) :
    ofRatio? d.negative numerator denominator = some d := by
  rw [absorbs_iff hpos hnonzero, magnitude_eq, upperGap_eq] at habsorbs
  have hlower := Nat.mul_le_mul_right denominator d.lowerGap_le
  simp only [ofRatio?, Nat.pow_eq]
  generalize numerator * 2 ^ unitBits = scaled at *
  obtain ⟨hlow, hhigh, heven⟩ := habsorbs
  have hmantissa := d.mantissa_lt
  have hstep : 0 < 2 ^ d.exponent * denominator := Nat.mul_pos (Nat.two_pow_pos _) hpos
  have hproduct : 4 * (d.mantissa * 2 ^ d.exponent) * denominator =
      4 * (2 ^ d.exponent * denominator * d.mantissa) := by ring
  rw [Nat.mul_assoc 2] at hhigh heven hlower
  rw [hproduct] at hlow hhigh heven
  have hsize : scaled / denominator < 2 ^ 53 * 2 ^ d.exponent := by
    rw [Nat.div_lt_iff_lt_mul hpos, Nat.mul_assoc]
    have hle : 2 ^ d.exponent * denominator * (d.mantissa + 1) ≤
        2 ^ d.exponent * denominator * 2 ^ 53 := Nat.mul_le_mul_left _ hmantissa
    rw [Nat.mul_add] at hle
    omega
  have hexponent : (if scaled / denominator < 2 ^ 53 then 0
      else (scaled / denominator).log2 - 52) = d.exponent := by
    refine grid_eq (hgrid.imp_right fun hwhole => ?_) hsize
    rwa [Nat.le_div_iff_mul_le hpos, Nat.mul_assoc]
  have hround : roundHalfEven scaled (denominator * 2 ^ d.exponent) = d.mantissa := by
    rw [Nat.mul_comm denominator]
    exact roundHalfEven_eq hstep (by omega) (by omega) (by omega)
  rw [hexponent, hround, if_neg (by omega)]
  exact d.ofParts?_eq

/-- A quotient just below a power of two, where the grid is twice as fine. -/
theorem ofRatio?_of_absorbs_of_lt {d : Double} {numerator denominator : Nat}
    (hpos : 0 < denominator) (hnonzero : d.mantissa ≠ 0)
    (habsorbs : d.absorbs (4 * (numerator * 2 ^ unitBits)) denominator = true)
    (hexponent : d.exponent ≠ 0)
    (hgrid : numerator * 2 ^ unitBits < 2 ^ 52 * (2 ^ d.exponent * denominator)) :
    ofRatio? d.negative numerator denominator = some d := by
  rw [absorbs_iff hpos hnonzero, magnitude_eq, upperGap_eq] at habsorbs
  have hlower := Nat.mul_le_mul_right denominator d.lowerGap_le
  simp only [ofRatio?, Nat.pow_eq]
  generalize numerator * 2 ^ unitBits = scaled at *
  have hproduct : 4 * (d.mantissa * 2 ^ d.exponent) * denominator =
      4 * (2 ^ d.exponent * denominator * d.mantissa) := by ring
  rw [hproduct] at habsorbs
  rw [Nat.mul_assoc 2] at hlower
  have hleast : 2 ^ 52 ≤ d.mantissa := d.canonical.2.2.resolve_left hexponent
  -- Any larger mantissa absorbs nothing that lies below the power of two.
  have hpower : d.mantissa = 2 ^ 52 := by
    by_contra hother
    have hle : 2 ^ d.exponent * denominator * (2 ^ 52 + 1) ≤
        2 ^ d.exponent * denominator * d.mantissa := Nat.mul_le_mul_left _ (by omega)
    rw [Nat.mul_add] at hle
    omega
  have hgap : d.lowerGap = 2 ^ d.exponent := by
    rw [lowerGap, if_pos ⟨hpower, hexponent⟩]
    rfl
  obtain ⟨finer, hfiner⟩ := Nat.exists_eq_succ_of_ne_zero hexponent
  have hdouble : 2 ^ d.exponent * denominator = 2 * (2 ^ finer * denominator) := by
    rw [hfiner, Nat.pow_succ]
    ring
  have hlow := habsorbs.1
  rw [hgap, hpower, hdouble] at hlow
  rw [hdouble] at hgrid
  have hstep : 0 < 2 ^ finer * denominator := Nat.mul_pos (Nat.two_pow_pos _) hpos
  have hsize : scaled / denominator < 2 ^ 53 * 2 ^ finer := by
    rw [Nat.div_lt_iff_lt_mul hpos, Nat.mul_assoc]
    omega
  have hwhole : 2 ^ 52 * 2 ^ finer ≤ scaled / denominator := by
    rw [Nat.le_div_iff_mul_le hpos, Nat.mul_assoc]
    omega
  have hfound : (if scaled / denominator < 2 ^ 53 then 0
      else (scaled / denominator).log2 - 52) = finer := grid_eq (Or.inr hwhole) hsize
  -- On the finer grid the mantissa comes out as the one that is carried.
  have hround : roundHalfEven scaled (denominator * 2 ^ finer) = 2 ^ 53 := by
    rw [Nat.mul_comm denominator]
    exact roundHalfEven_eq hstep (by omega) (by omega) (Or.inl (by decide))
  rw [hfound, hround, if_pos rfl, ← hpower, ← Nat.succ_eq_add_one, ← hfiner]
  exact d.ofParts?_eq

/-- A quotient that a double absorbs is rounded to it. -/
theorem ofRatio?_of_absorbs {d : Double} {numerator denominator : Nat} (hpos : 0 < denominator)
    (hnonzero : d.mantissa ≠ 0)
    (habsorbs : d.absorbs (4 * (numerator * 2 ^ unitBits)) denominator = true) :
    ofRatio? d.negative numerator denominator = some d := by
  by_cases hexponent : d.exponent = 0
  · exact ofRatio?_of_absorbs_of_le hpos hnonzero habsorbs (Or.inl hexponent)
  · rcases Nat.lt_or_ge (numerator * 2 ^ unitBits) (2 ^ 52 * (2 ^ d.exponent * denominator)) with
      hlt | hge
    · exact ofRatio?_of_absorbs_of_lt hpos hnonzero habsorbs hexponent hlt
    · exact ofRatio?_of_absorbs_of_le hpos hnonzero habsorbs (Or.inr hge)

end Double

end Forms
