import Forms.Json.Token
import Forms.Unicode.Blank

/-!
# Quantities

A quantity is what a value measures: a double, an infinity, or nothing that could be
compared.  Texts are read as decimal numbers; the words for infinity and for no number are read
too.  An undefined quantity is neither below nor above any other.
-/

namespace Forms

inductive Quantity where
  | finite (value : Double)
  | infinite (negative : Bool)
  | undefined
deriving DecidableEq

namespace Quantity

def zero : Quantity := .finite .zero

def one : Quantity := .finite ⟨false, Nat.pow 2 52, 1022, by decide⟩

/-- Strictly below. -/
def lt : Quantity → Quantity → Bool
  | .finite a, .finite b => a.lt b
  | .finite _, .infinite negative => !negative
  | .infinite negative, .finite _ => negative
  | .infinite a, .infinite b => a && !b
  | .undefined, _ | _, .undefined => false

def ofNat (value : Nat) : Quantity :=
  match Double.ofInt? value with
  | some value => .finite value
  | none => .infinite false

/-- What a literal measures: the double nearest to it, rounded once. -/
def ofLiteral (literal : NumberLiteral) : Quantity :=
  match Double.ofScientific? literal.negative literal.digits literal.exponent with
  | some value => .finite value
  | none => .infinite literal.negative

/-- The digits and the exponent of a number without its sign: digits with at most one point, at least
one digit, then perhaps an exponent. -/
def unsigned? (negative : Bool) (chars : List Char) : Option NumberLiteral := do
  let whole := chars.takeWhile Token.isDigit
  let rest := chars.dropWhile Token.isDigit
  let pointed := rest.head? == some '.'
  let decimals := if pointed then (rest.drop 1).takeWhile Token.isDigit else []
  let rest := if pointed then (rest.drop 1).dropWhile Token.isDigit else rest
  if whole.isEmpty && decimals.isEmpty then none
  else
    let (exponent, rest) ← Token.exponent? rest
    if rest.isEmpty then some ⟨negative, whole, decimals, exponent⟩ else none

/-- A word for a quantity that no digits write, in any case. -/
def ofWord? (negative : Bool) (chars : List Char) : Option Quantity :=
  match String.ofList (chars.map Char.toLower) with
  | "inf" | "infinity" => some (.infinite negative)
  | "nan" => some .undefined
  | _ => none

/-- The quantity a text without blanks at its ends writes. -/
def ofTrimmed (chars : List Char) : Quantity :=
  let negative := chars.head? == some '-'
  let body := if negative || chars.head? == some '+' then chars.drop 1 else chars
  match unsigned? negative body with
  | some literal => ofLiteral literal
  | none => (ofWord? negative body).getD .undefined

/-- Blank text counts as zero. -/
def ofText (text : String) : Quantity :=
  let chars := Unicode.trimChars text.toList
  if chars.isEmpty then zero else ofTrimmed chars

end Quantity

end Forms
