import Forms.Json.Printer
import Forms.Quantity

/-!
# Readings of a document value

Conditions and rules compare values of different types.  They do so through four readings: whether
two values are equal, the text of a value, the quantity it measures, and whether it counts as filled
in.
-/

namespace Forms

/-- The text of a number: a double without a fraction is read like an integer while it is short. -/
def Number.readingText (number : Number) : List Char :=
  match number with
  | .double value =>
    if value.isIntegral && value.wholePart < Nat.pow 10 15 then
      (if value.negative then ['-'] else []) ++ Nat.toDigits 10 value.wholePart
    else number.text
  | number => number.text

namespace Json

mutual
/-- Structural equality in which numbers compare as doubles, so `1` equals `1.0`. -/
def agrees : Json → Json → Bool
  | .null, .null => true
  | .bool a, .bool b => a == b
  | .number a, .number b => a.toDouble.units == b.toDouble.units
  | .string a, .string b => a == b
  | .array as, .array bs => agreesItems as bs
  | .object as, .object bs => as.length == bs.length && agreesMembers as bs
  | _, _ => false

def agreesItems : List Json → List Json → Bool
  | [], [] => true
  | a :: as, b :: bs => agrees a b && agreesItems as bs
  | _, _ => false

/-- Every member on the left has an equal partner under the same key on the right. -/
def agreesMembers : List (String × Json) → Members → Bool
  | [], _ => true
  | (key, a) :: as, bs =>
    (match bs.get? key with
      | some b => agrees a b
      | none => false) && agreesMembers as bs
end

mutual
/-- The text of a value.  Null has none, an array joins its items with commas, and an object is its
JSON text. -/
def readingChars : Json → List Char
  | .null => []
  | .bool true => ['t', 'r', 'u', 'e']
  | .bool false => ['f', 'a', 'l', 's', 'e']
  | .number value => value.readingText
  | .string content => content.toList
  | .array [] => []
  | .array (item :: items) => readingChars item ++ readingItems items
  | .object members => compactChars (.object members)

def readingItems : List Json → List Char
  | [] => []
  | item :: items => ',' :: (readingChars item ++ readingItems items)
end

def readingText (value : Json) : String := String.ofList value.readingChars

/-- What a value measures.  Null counts as zero, a truth value as zero or one, an array
as its text. -/
def quantity (value : Json) : Quantity :=
  match value with
  | .null => .zero
  | .bool flag => if flag then .one else .zero
  | .number value => .finite value.toDouble
  | .string content => .ofText content
  | .array _ => .ofText value.readingText
  | .object _ => .undefined

/-- Whether a value counts as filled in; null, false, zero and the empty text do not. -/
def isPresent : Json → Bool
  | .null => false
  | .bool flag => flag
  | .number value => !value.isZero
  | .string content => !content.isEmpty
  | .array _ | .object _ => true

end Json

end Forms
