import Forms.Proofs.Numbers.Integers

/-!
# Numbers that come back from their text

Reading a number may round three times: the significand, the power of ten, and the product or the
quotient of the two.  A significand of at most fifty-three binary digits and a power of ten up to
`10 ^ 22` are doubles as they stand, so only the last step rounds and the number comes out as the
nearest one.  A number that is printed so short comes back from its text; an integer always does.
-/

namespace Forms

namespace Token

theorem le_ofDigitChars (significand : Nat) (digits : List Char) :
    significand ≤ Nat.ofDigitChars 10 digits significand := by
  rw [Nat.ofDigitChars_eq_ofDigitChars_zero]
  calc
    significand ≤ 10 ^ digits.length * significand :=
      Nat.le_mul_of_pos_left _ (Nat.pow_pos (by decide))
    _ ≤ _ := Nat.le_add_right _ _

/-- Digits that fit a word are all gathered. -/
theorem gather_of_lt {significand : Nat} {digits : List Char}
    (hfits : Nat.ofDigitChars 10 digits significand < 18446744073709551616) :
    gather significand digits = (Nat.ofDigitChars 10 digits significand, 0) := by
  induction digits generalizing significand with
  | nil => rfl
  | cons c digits ih =>
      rw [Nat.ofDigitChars_cons, Nat.mul_comm] at hfits ⊢
      have hnext := Nat.lt_of_le_of_lt (le_ofDigitChars _ digits) hfits
      rw [gather, digitValue, if_pos hnext, ih hfits]

end Token

namespace Double

/-- A common factor does not change which double is nearest to a quotient. -/
theorem ofRatio?_mul {factor : Nat} (hfactor : 0 < factor) (negative : Bool)
    (numerator denominator : Nat) :
    ofRatio? negative (numerator * factor) (denominator * factor) =
      ofRatio? negative numerator denominator := by
  simp only [ofRatio?, Nat.mul_right_comm _ factor, Nat.mul_div_mul_right _ _ hfactor,
    roundHalfEven_mul hfactor]

/-- The double is this whole number, but for its sign. -/
def IsWhole (d : Double) (value : Nat) : Prop := d.magnitude = value * 2 ^ unitBits

variable {left right : Double} {value other : Nat}

theorem times?_eq (hleft : left.IsWhole value) (hright : right.IsWhole other) :
    left.times? right = ofRatio? (left.negative != right.negative) (value * other) 1 := by
  rw [IsWhole] at hleft hright
  rw [times?, hleft, hright, Nat.mul_mul_mul_comm, ← Nat.pow_add, Nat.pow_eq, ← Nat.two_mul]
  nth_rewrite 2 [← Nat.one_mul (2 ^ (2 * unitBits))]
  rw [ofRatio?_mul (Nat.two_pow_pos _)]

theorem over?_eq (hleft : left.IsWhole value) (hright : right.IsWhole other) :
    left.over? right = ofRatio? (left.negative != right.negative) value other := by
  rw [IsWhole] at hleft hright
  rw [over?, hleft, hright, ofRatio?_mul (Nat.two_pow_pos _)]

/-- The powers of ten that are doubles as they stand. -/
theorem powerOfTen_exact : ∀ places ≤ 22, (powerOfTen places).negative = false ∧
    (powerOfTen places).IsWhole (10 ^ places) := by
  unfold IsWhole
  decide +kernel

/-- A whole number is moved by few places in one step, which is the only one that rounds. -/
theorem scale?_eq {exponent : Int} (hleft : left.IsWhole value) (hexponent : exponent.natAbs ≤ 22) :
    left.scale? exponent =
      ofRatio? left.negative (value * 10 ^ exponent.toNat) (10 ^ (-exponent).toNat) := by
  obtain ⟨hpositive, hpower⟩ := powerOfTen_exact exponent.natAbs hexponent
  rw [scale?, if_neg (by omega)]
  split
  · rw [times?_eq hleft hpower, hpositive, Bool.bne_false,
      show exponent.toNat = exponent.natAbs by omega, show (-exponent).toNat = 0 by omega,
      Nat.pow_zero]
  · have hsteps : (exponent.natAbs - 1) / 308 = 0 := Nat.div_eq_of_lt (by omega)
    have hplaces : (exponent.natAbs - 1) % 308 + 1 = exponent.natAbs := by omega
    dsimp only
    rw [hsteps, hplaces, sink?, Option.bind_some, over?_eq hleft hpower, hpositive, Bool.bne_false,
      show exponent.toNat = 0 by omega, show (-exponent).toNat = exponent.natAbs by omega,
      Nat.pow_zero, Nat.mul_one]

end Double

namespace NumberLiteral

open Token

variable {literal : NumberLiteral}

/-- All digits of a short literal are kept. -/
theorem kept_of_lt (hdigits : literal.digits < 2 ^ 53) :
    literal.kept = (literal.digits, -(literal.decimals.length : Int)) := by
  rw [digits, digitsValue_eq, Nat.ofDigitChars_append] at hdigits ⊢
  have hword : (2 : Nat) ^ 53 < 18446744073709551616 := by norm_num
  have hall := Nat.lt_trans hdigits hword
  have hwhole := Nat.lt_of_le_of_lt (le_ofDigitChars _ literal.decimals) hall
  simp only [kept, gather_of_lt hwhole, gather_of_lt hall]
  rw [Nat.sub_zero, Nat.cast_zero, Int.zero_sub]

/-- A literal of few digits and places is read as the double nearest to it. -/
theorem toDouble?_eq (hdigits : literal.digits < 2 ^ 53) (hplaces : literal.exponent.natAbs ≤ 22)
    (hpower : (literal.power.getD 0).natAbs < 2147483648) :
    literal.toDouble? =
      Double.ofScientific? literal.negative literal.digits literal.exponent := by
  obtain ⟨d, hd, hnegative, hmagnitude⟩ := Double.exists_ofRatio?_one literal.negative hdigits
  have hexponent : -(literal.decimals.length : Int) + literal.power.getD 0 = literal.exponent := by
    rw [exponent, Int.add_comm, ← Int.sub_eq_add_neg]
  rw [toDouble?, kept_of_lt hdigits]
  simp only [if_pos hpower, hd, Option.bind_some, hexponent]
  rw [Double.scale?_eq hmagnitude hplaces, hnegative]
  rcases Nat.eq_zero_or_pos literal.digits with hzero | hpos
  · rw [hzero, Nat.zero_mul, Double.ofRatio?_zero, Double.ofScientific?, if_pos rfl]
  · let decimal : Decimal := ⟨literal.digits, literal.exponent⟩
    have hlow : -400 - (decimal.digits.log2 : Int) ≤ decimal.exponent := by
      dsimp only [decimal]
      omega
    have hhigh : decimal.exponent ≤ 400 := by
      dsimp only [decimal]
      omega
    exact (Double.ofScientific?_eq_ofRatio? literal.negative (Nat.ne_of_gt hpos) hlow hhigh).symm

end NumberLiteral

namespace Number

/-- What a printed number is read as; none when it is refused. -/
def reread? (number : Number) : Option Number := ofLiteral? number.literal

theorem reread?_integer {value : Int} (inRange : InRange value) :
    (Number.integer value inRange).reread? = some (.integer value inRange) := by
  rw [reread?, literal_of_chars (chars_integerParts inRange), ofLiteral?, integerOr_integerParts]

/-- A number comes back when its digits have at most fifty-three bits and are moved by at most
twenty-two places. -/
theorem reread?_of_short {number : Number} (hdigits : number.literal.digits < 2 ^ 53)
    (hplaces : number.literal.exponent.natAbs ≤ 22)
    (hpower : (number.literal.power.getD 0).natAbs < 2147483648) :
    number.reread? = some number := by
  rw [reread?, ofLiteral?, NumberLiteral.toDouble?_eq hdigits hplaces hpower]
  exact number.literal_spec.1

end Number

end Forms
