/-!
# Fresh identifiers

A fresh identifier is a word of the caller's choice, a dash, and a random UUID of version 4 in its
plain form: thirty-two hexadecimal digits, of which one gives the version and one the variant.
-/

namespace Forms.NodeId

def hexDigit (value : Nat) : Char := (Nat.toDigits 16 (value % 16)).headD '0'

/-- The digits of a number, the lowest first. -/
def hexDigits : (count : Nat) → (value : Nat) → List Char
  | 0, _ => []
  | count + 1, value => hexDigit value :: hexDigits count (value / 16)

/-- The plain form of a UUID whose bits are random but for version and variant. -/
def uuidDigits (random : Nat) : List Char :=
  hexDigits 12 random ++ ['4'] ++ hexDigits 3 (random / Nat.pow 2 48)
    ++ [hexDigit (8 + random / Nat.pow 2 60 % 4)] ++ hexDigits 15 (random / Nat.pow 2 62)

def fresh (lead : String) (random : Nat) : String :=
  s!"{lead}-{String.ofList (uuidDigits random)}"

end Forms.NodeId
