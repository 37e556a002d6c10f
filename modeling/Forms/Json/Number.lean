import Forms.Json.Decimal

/-!
# Numbers of a document

A number is an integer of 64 bits, signed or unsigned, or a double.  The two kinds stay apart: `1`
and `1.0` are printed differently, and only an integer fits a member that counts.
-/

namespace Forms

/-- What fits a signed or an unsigned 64-bit word. -/
def Number.InRange (value : Int) : Prop :=
  -9223372036854775808 ≤ value ∧ value < 18446744073709551616

instance (value : Int) : Decidable (Number.InRange value) := inferInstanceAs (Decidable (_ ∧ _))

inductive Number where
  | integer (value : Int) (inRange : Number.InRange value)
  | double (value : Double)
deriving DecidableEq

namespace Number

def ofUInt32 (value : UInt32) : Number :=
  .integer value.toNat (by have := value.toNat_lt; constructor <;> omega)

def ofUInt64 (value : UInt64) : Number :=
  .integer value.toNat (by have := value.toNat_lt; constructor <;> omega)

/-- The value as a double; an integer past 53 bits goes to the nearest one. -/
def toDouble : Number → Double
  | .integer value _ => (Double.ofInt? value).getD .zero
  | .double value => value

def isZero (number : Number) : Bool := number.toDouble.isZero

def text : Number → List Char
  | .integer value _ =>
    if value < 0 then '-' :: Nat.toDigits 10 value.natAbs else Nat.toDigits 10 value.natAbs
  | .double value => value.text documentFormat

end Number

end Forms
