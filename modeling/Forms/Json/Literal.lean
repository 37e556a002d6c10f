import Forms.Json.Number

/-!
# Numbers as they are written

A literal without a point and without an exponent stands for an integer while it fits 64 bits,
signed or unsigned.  Every other literal stands for a double, larger integers and `-0` included.  Its
digits are gathered into a significand as long as that fits a word, the significand goes to the
nearest double, and this is multiplied or divided by the double nearest to a power of ten.  Each of
these steps rounds, so a literal of many digits need not be read as the double nearest to it.
-/

namespace Forms

namespace Token

/-- The value of a decimal digit. -/
def digitValue (c : Char) : Nat := c.toNat - '0'.toNat

def digitsValue (digits : List Char) : Nat :=
  digits.foldl (fun value c => value * 10 + digitValue c) 0

/-- Adds digits to a significand as long as it fits an unsigned word, and counts the digits that are
left over. -/
def gather (significand : Nat) : List Char → Nat × Nat
  | [] => (significand, 0)
  | c :: digits =>
    let longer := significand * 10 + digitValue c
    if longer < 18446744073709551616 then gather longer digits
    else (significand, digits.length + 1)

end Token

/-- A number as it is written: its sign, the digits in front of the point and behind it, and the
power of ten behind the mark of an exponent. -/
structure NumberLiteral where
  negative : Bool
  whole : List Char
  decimals : List Char
  power : Option Int
deriving DecidableEq

namespace NumberLiteral

/-- All digits without the point. -/
def digits (literal : NumberLiteral) : Nat :=
  Token.digitsValue (literal.whole ++ literal.decimals)

/-- The power of ten that all digits are multiples of. -/
def exponent (literal : NumberLiteral) : Int :=
  literal.power.getD 0 - literal.decimals.length

/-- Whether neither point nor exponent is written. -/
def plain (literal : NumberLiteral) : Bool := literal.decimals.isEmpty && literal.power.isNone

/-- The significand, and the power of ten it is a multiple of, but for the written one.  A digit
that does not fit leaves its place when it stands in front of the point, and is dropped behind it. -/
def kept (literal : NumberLiteral) : Nat × Int :=
  let whole := Token.gather 0 literal.whole
  let all := Token.gather whole.1 literal.decimals
  (all.1, whole.2 - (literal.decimals.length - all.2 : Nat))

/-- The double a literal is read as; none when it is too large for one.  A power past 31 bits is not
looked at any closer. -/
def toDouble? (literal : NumberLiteral) : Option Double :=
  let kept := literal.kept
  let power := literal.power.getD 0
  if power.natAbs < 2147483648 then
    (Double.ofRatio? literal.negative kept.1 1).bind fun d => d.scale? (kept.2 + power)
  else if kept.1 = 0 ∨ power < 0 then some { Double.zero with negative := literal.negative }
  else none

end NumberLiteral

namespace Number

/-- The integer a literal stands for while there is one, and otherwise the double. -/
def integerOr (double : Option Double) (literal : NumberLiteral) : Option Number :=
  let signed : Int := if literal.negative then -(literal.digits : Int) else literal.digits
  if literal.plain && !(literal.negative && literal.digits == 0) then
    if h : InRange signed then some (.integer signed h) else double.map .double
  else double.map .double

/-- The number a literal is read as; none when it is too large for a double. -/
def ofLiteral? (literal : NumberLiteral) : Option Number := integerOr literal.toDouble? literal

end Number

end Forms
