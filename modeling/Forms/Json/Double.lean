/-!
# Finite binary64 numbers, exactly

Every number of a document that is not an integer is a finite binary64 number.  It is held as a
sign, a mantissa and an exponent, so that comparing, rounding and printing are questions about whole
numbers.  The unit is `2 ^ -1074`, the smallest positive double: every double is a whole number of
units, and two doubles have the same value exactly when they have the same number of units.
-/

namespace Forms

/-- The one pair of mantissa and exponent by which a double is held. -/
def Double.Canonical (mantissa exponent : Nat) : Prop :=
  mantissa < Nat.pow 2 53 ∧ exponent ≤ 2045 ∧ (exponent = 0 ∨ Nat.pow 2 52 ≤ mantissa)

instance (mantissa exponent : Nat) : Decidable (Double.Canonical mantissa exponent) :=
  inferInstanceAs (Decidable (_ ∧ _ ∧ _))

/-- `mantissa * 2 ^ exponent` units with a sign; zero keeps its sign. -/
structure Double where
  negative : Bool
  mantissa : Nat
  exponent : Nat
  canonical : Double.Canonical mantissa exponent
deriving DecidableEq

/-- The quotient rounded to a whole number, a half going to the even neighbour. -/
def roundHalfEven (numerator denominator : Nat) : Nat :=
  let quotient := numerator / denominator
  let rest := numerator % denominator
  if 2 * rest < denominator ∨ (2 * rest = denominator ∧ quotient % 2 = 0) then quotient
  else quotient + 1

namespace Double

/-- Binary digits behind the point of the unit. -/
def unitBits : Nat := 1074

def zero : Double := ⟨false, 0, 0, by decide⟩

instance : Inhabited Double := ⟨zero⟩

/-- The double of this mantissa and exponent, unless the exponent is past the largest double. -/
def ofParts? (negative : Bool) (mantissa exponent : Nat) : Option Double :=
  if h : Canonical mantissa exponent then some ⟨negative, mantissa, exponent, h⟩ else none

/-- The size of a double in units, without its sign. -/
def magnitude (d : Double) : Nat := d.mantissa * Nat.pow 2 d.exponent

/-- The value of a double in units. -/
def units (d : Double) : Int := if d.negative then -(d.magnitude : Int) else d.magnitude

def isZero (d : Double) : Bool := d.mantissa == 0

/-- The double nearest to a quotient, a half going to the even mantissa; none when the quotient
rounds past the largest double. -/
def ofRatio? (negative : Bool) (numerator denominator : Nat) : Option Double :=
  let scaled := numerator * Nat.pow 2 unitBits
  let whole := scaled / denominator
  let exponent := if whole < Nat.pow 2 53 then 0 else whole.log2 - 52
  let mantissa := roundHalfEven scaled (denominator * Nat.pow 2 exponent)
  if mantissa = Nat.pow 2 53 then ofParts? negative (Nat.pow 2 52) (exponent + 1)
  else ofParts? negative mantissa exponent

/-- The double nearest to an integer. -/
def ofInt? (value : Int) : Option Double := ofRatio? (decide (value < 0)) value.natAbs 1

/-- `coefficient * 10 ^ exponent`, with a sign, as the nearest double.  Exponents out of any
double's reach are settled without computing the power. -/
def ofScientific? (negative : Bool) (coefficient : Nat) (exponent : Int) : Option Double :=
  if coefficient = 0 then some { zero with negative }
  else
    let size : Int := coefficient.log2
    if exponent < 0 then
      if exponent < -400 - size then some { zero with negative }
      else ofRatio? negative coefficient (Nat.pow 10 exponent.natAbs)
    else if exponent > 400 then none
    else ofRatio? negative (coefficient * Nat.pow 10 exponent.natAbs) 1

def lt (left right : Double) : Bool := decide (left.units < right.units)

/-- The product, rounded; none when it rounds past the largest double. -/
def times? (left right : Double) : Option Double :=
  ofRatio? (left.negative != right.negative) (left.magnitude * right.magnitude)
    (Nat.pow 2 (2 * unitBits))

/-- The quotient by a double other than zero, rounded. -/
def over? (left right : Double) : Option Double :=
  ofRatio? (left.negative != right.negative) left.magnitude right.magnitude

/-- The double nearest to a power of ten.  The largest one that there is a double for is
`10 ^ 308`. -/
def powerOfTen (places : Nat) : Double := (ofRatio? false (Nat.pow 10 places) 1).getD zero

/-- Divides so many times by `10 ^ 308`, as long as something is left. -/
def sink? : (times : Nat) → Double → Option Double
  | 0, d => some d
  | times + 1, d => if d.isZero then some d else (d.over? (powerOfTen 308)).bind (sink? times)

/-- Multiplies by `10 ^ exponent`, or divides by as many powers of ten as it takes, and rounds each
time; none when the product rounds past the largest double. -/
def scale? (d : Double) (exponent : Int) : Option Double :=
  if 308 < exponent then if d.isZero then some d else none
  else if 0 ≤ exponent then d.times? (powerOfTen exponent.natAbs)
  else
    let places := exponent.natAbs - 1
    (sink? (places / 308) d).bind fun sunk => sunk.over? (powerOfTen (places % 308 + 1))

/-- Whether the double has no fraction. -/
def isIntegral (d : Double) : Bool := d.magnitude % Nat.pow 2 unitBits == 0

/-- The whole part of the size of a double. -/
def wholePart (d : Double) : Nat := d.magnitude / Nat.pow 2 unitBits

end Double

end Forms
