import Forms.Json.Double

/-!
# The shortest decimal of a double

A decimal that lies nearer to a double than to its two neighbours reads back as that double.  The
shortest one has the fewest digits of these, and among equally short ones it is the nearest.  On the
grid of decimals with `n` digits only the two points beside the double can be that decimal, so the
first grid on which one of them reads back decides.
-/

namespace Forms

/-- `digits * 10 ^ exponent`. -/
structure Decimal where
  digits : Nat
  exponent : Int
deriving DecidableEq

namespace Decimal

/-- Drops the zeros at the end of the digits; `fuel` bounds their number. -/
def stripZeros : (fuel : Nat) → Decimal → Decimal
  | 0, d => d
  | fuel + 1, d =>
    if d.digits ≠ 0 ∧ d.digits % 10 = 0 then stripZeros fuel ⟨d.digits / 10, d.exponent + 1⟩ else d

end Decimal

namespace Double

/-- `point` with `10 ^ (point - 1) ≤ |d| < 10 ^ point`, for a double other than zero. -/
def decimalPoint (d : Double) : Int :=
  ((Nat.toDigits 10 (d.magnitude * Nat.pow 10 400 / Nat.pow 2 unitBits)).length : Int) - 400

/-- Distance, in quarters of a unit, to the lower end of what rounds to a positive double: half the
gap to the neighbour below, which is narrower under a power of two. -/
def lowerGap (d : Double) : Nat :=
  if d.mantissa = Nat.pow 2 52 ∧ d.exponent ≠ 0 then Nat.pow 2 d.exponent
  else 2 * Nat.pow 2 d.exponent

/-- The same distance to the upper end. -/
def upperGap (d : Double) : Nat := 2 * Nat.pow 2 d.exponent

/-- Whether `numerator / denominator` quarters of a unit round to the size of `d`.  The ends of the
interval do exactly when the mantissa is even. -/
def absorbs (d : Double) (numerator denominator : Nat) : Bool :=
  let low := (4 * d.magnitude - d.lowerGap) * denominator
  let high := (4 * d.magnitude + d.upperGap) * denominator
  if d.mantissa % 2 = 0 then low ≤ numerator && numerator ≤ high
  else low < numerator && numerator < high

/-- The point beside `d` on the grid of multiples of `10 ^ exponent` that reads back as `d`; of two
such points the nearer, of two equally near the even one. -/
def onGrid? (d : Double) (exponent : Int) : Option Nat :=
  let step := if exponent < 0 then 1 else Nat.pow 10 exponent.natAbs
  let parts := if exponent < 0 then Nat.pow 10 exponent.natAbs else 1
  let quarters (point : Nat) := 4 * Nat.pow 2 unitBits * step * point
  let below := d.magnitude * parts / (step * Nat.pow 2 unitBits)
  let value := 4 * d.magnitude * parts
  let under := value - quarters below
  let above := quarters (below + 1) - value
  match d.absorbs (quarters below) parts, d.absorbs (quarters (below + 1)) parts with
  | true, true =>
    some (if under < above ∨ (under = above ∧ below % 2 = 0) then below else below + 1)
  | true, false => some below
  | false, true => some (below + 1)
  | false, false => none

/-- The shortest decimal that reads back as the size of `d`; seventeen digits always suffice. -/
def shortest (d : Double) : Decimal :=
  if d.isZero then ⟨0, 0⟩
  else
    let point := d.decimalPoint
    let grids := (List.range 17).map fun n => point - (n + 1 : Nat)
    match grids.findSome? fun exponent =>
        (d.onGrid? exponent).map fun digits => (digits, exponent) with
    | some (digits, exponent) => Decimal.stripZeros 20 ⟨digits, exponent⟩
    | none => ⟨0, 0⟩

end Double

/-- Where a number text leaves positional notation. -/
structure DoubleFormat where
  /-- Positional notation needs the decimal point right of this place. -/
  lowestPoint : Int
  /-- Positional notation needs the decimal point at this place or left of it. -/
  highestPoint : Int

/-- Document numbers are positional from `1e-5` up to, not including, `1e16`. -/
def documentFormat : DoubleFormat := ⟨-5, 16⟩

namespace Double

/-- Digits with a point, or with an exponent when positional notation would be too long.  A number
without a fraction keeps `.0`, and the sign of zero is kept. -/
def text (format : DoubleFormat) (d : Double) : List Char :=
  let sign := if d.negative then ['-'] else []
  if d.isZero then sign ++ ['0', '.', '0']
  else
    let decimal := d.shortest
    let digits := Nat.toDigits 10 decimal.digits
    let point : Int := digits.length + decimal.exponent
    let body :=
      if format.lowestPoint < point ∧ point ≤ format.highestPoint then
        if point ≤ 0 then '0' :: '.' :: (List.replicate point.natAbs '0' ++ digits)
        else if digits.length ≤ point.natAbs then
          digits ++ List.replicate (point.natAbs - digits.length) '0' ++ ['.', '0']
        else digits.take point.natAbs ++ '.' :: digits.drop point.natAbs
      else
        let exponent := point - 1
        let mark := if exponent < 0 then ['e', '-'] else ['e', '+']
        let lead := digits.take 1
        let rest := digits.drop 1
        lead ++ (if rest.isEmpty then [] else '.' :: rest) ++ mark
          ++ Nat.toDigits 10 exponent.natAbs
    sign ++ body

end Double

end Forms
