/-!
# Occurrence of a text in a text
-/

namespace Forms

/-- Whether `part` occurs in `chars`. -/
def occursIn (part chars : List Char) : Bool :=
  match chars with
  | [] => part.isEmpty
  | c :: rest => part.isPrefixOf (c :: rest) || occursIn part rest

end Forms
