import Forms.Json.Literal

/-!
# Tokens of JSON text

Reading goes in two steps, characters to tokens and tokens to a value.  A token records what is
written, also when no value can hold it: a number past every double stays a literal, and a string
with half of a surrogate pair is a string without text.  Whether that matters is for the reader of
the member that holds it, because a member that nobody reads only has to be well formed.
-/

namespace Forms

inductive Token where
  | openBrace
  | closeBrace
  | openBracket
  | closeBracket
  | comma
  | colon
  | null
  | bool (flag : Bool)
  | number (literal : NumberLiteral)
  | string (text : Option String)
deriving DecidableEq

namespace Token

def isBlank (c : Char) : Bool := c == ' ' || c == '\n' || c == '\t' || c == '\r'

def isDigit (c : Char) : Bool := '0' ≤ c && c ≤ '9'

def hexValue? (c : Char) : Option Nat :=
  if '0' ≤ c ∧ c ≤ '9' then some (c.toNat - '0'.toNat)
  else if 'a' ≤ c ∧ c ≤ 'f' then some (c.toNat - 'a'.toNat + 10)
  else if 'A' ≤ c ∧ c ≤ 'F' then some (c.toNat - 'A'.toNat + 10)
  else none

/-- One written piece of a string: a character, or a 16-bit unit given by its number. -/
inductive Piece where
  | char (c : Char)
  | codeUnit (code : Nat)
deriving DecidableEq

/-- The character of a one-letter escape. -/
def shortEscape? : Char → Option Char
  | '"' => some '"'
  | '\\' => some '\\'
  | '/' => some '/'
  | 'b' => some '\x08'
  | 'f' => some '\x0c'
  | 'n' => some '\n'
  | 'r' => some '\r'
  | 't' => some '\t'
  | _ => none

/-- The pieces up to the closing quote, and what follows it.  A control character must
be escaped. -/
def pieces : List Char → Option (List Piece × List Char)
  | [] => none
  | '"' :: rest => some ([], rest)
  | '\\' :: 'u' :: a :: b :: c :: d :: rest => do
    let code :=
      (((← hexValue? a) * 16 + (← hexValue? b)) * 16 + (← hexValue? c)) * 16 + (← hexValue? d)
    let (others, rest) ← pieces rest
    some (.codeUnit code :: others, rest)
  | '\\' :: letter :: rest => do
    let c ← shortEscape? letter
    let (others, rest) ← pieces rest
    some (.char c :: others, rest)
  | c :: rest =>
    if c = '\\' ∨ c.toNat < 0x20 then none
    else do
      let (others, rest) ← pieces rest
      some (.char c :: others, rest)

/-- The characters of a string.  A unit of the upper half of a surrogate pair must be followed by
one of the lower half, and a lower one must not stand alone. -/
def characters? : List Piece → Option (List Char)
  | [] => some []
  | .char c :: rest => (characters? rest).map (c :: ·)
  | .codeUnit high :: .codeUnit low :: rest =>
    if 0xD800 ≤ high ∧ high < 0xDC00 then
      if 0xDC00 ≤ low ∧ low < 0xE000 then
        (characters? rest).map
          (Char.ofNat (0x10000 + (high - 0xD800) * 0x400 + (low - 0xDC00)) :: ·)
      else none
    else if 0xDC00 ≤ high ∧ high < 0xE000 then none
    else (characters? (.codeUnit low :: rest)).map (Char.ofNat high :: ·)
  | .codeUnit code :: rest =>
    if 0xD800 ≤ code ∧ code < 0xE000 then none else (characters? rest).map (Char.ofNat code :: ·)

/-- Digits of an optional part that its mark announces; the part is missing without the mark. -/
def fraction? : List Char → Option (List Char × List Char)
  | '.' :: rest =>
    let digits := rest.takeWhile isDigit
    if digits.isEmpty then none else some (digits, rest.dropWhile isDigit)
  | rest => some ([], rest)

/-- The exponent with its sign, when one is written. -/
def exponent? : List Char → Option (Option Int × List Char)
  | c :: rest =>
    if c = 'e' ∨ c = 'E' then
      let negative := rest.head? == some '-'
      let body := if rest.head? == some '-' || rest.head? == some '+' then rest.drop 1 else rest
      let digits := body.takeWhile isDigit
      if digits.isEmpty then none
      else
        let size : Int := digitsValue digits
        some (some (if negative then -size else size), body.dropWhile isDigit)
    else some (none, c :: rest)
  | [] => some (none, [])

/-- A number: no leading zeros, and at least one digit on each side of a point. -/
def number? (chars : List Char) : Option (NumberLiteral × List Char) := do
  let negative := chars.head? == some '-'
  let body := if negative then chars.drop 1 else chars
  let whole := body.takeWhile isDigit
  if whole.isEmpty || (whole.head? == some '0' && whole.length != 1) then none
  else
    let (decimals, rest) ← fraction? (body.dropWhile isDigit)
    let (exponent, rest) ← exponent? rest
    some (⟨negative, whole, decimals, exponent⟩, rest)

/-- The token that starts with `c`. -/
def first? (c : Char) (rest : List Char) : Option (Token × List Char) :=
  match c with
  | '{' => some (.openBrace, rest)
  | '}' => some (.closeBrace, rest)
  | '[' => some (.openBracket, rest)
  | ']' => some (.closeBracket, rest)
  | ',' => some (.comma, rest)
  | ':' => some (.colon, rest)
  | '"' => (pieces rest).map fun (written, rest) =>
    (.string ((characters? written).map String.ofList), rest)
  | 't' => if rest.take 3 = ['r', 'u', 'e'] then some (.bool true, rest.drop 3) else none
  | 'f' => if rest.take 4 = ['a', 'l', 's', 'e'] then some (.bool false, rest.drop 4) else none
  | 'n' => if rest.take 3 = ['u', 'l', 'l'] then some (.null, rest.drop 3) else none
  | c => (number? (c :: rest)).map fun (literal, rest) => (.number literal, rest)

/-- All tokens of a text; none when some part of it is no token.  The comparison of lengths always
succeeds, because every token takes at least one character. -/
def scan (chars : List Char) : Option (List Token) :=
  match chars with
  | [] => some []
  | c :: rest =>
    if isBlank c then scan rest
    else
      match first? c rest with
      | none => none
      | some (token, after) =>
        if _h : after.length ≤ rest.length then (scan after).map (token :: ·) else none
termination_by chars.length
decreasing_by
  · simp
  · exact Nat.lt_succ_of_le _h

end Token

end Forms
