import Forms.Json.Token
import Forms.Pattern.Flags

/-!
# Escapes of a pattern

What a backslash starts: a character given by name or number, a class of characters, or an
assertion.  Punctuation may always be escaped; a letter or a digit only when it has a meaning, so
the ones without meaning stay free.
-/

namespace Forms.Pattern

/-- What an escape stands for. -/
inductive Escape where
  /-- `byte` marks two hexadecimal digits after `x`, which name a byte where Unicode is off. -/
  | literal (c : Char) (byte : Bool)
  | set (members : Charset)
  | assertion (test : Assertion)

namespace Escape

def isHex (c : Char) : Bool := (Token.hexValue? c).isSome

def hexValue (digits : List Char) : Nat :=
  digits.foldl (fun value c => value * 16 + (Token.hexValue? c).getD 0) 0

/-- The character of a code point; surrogates and numbers past the last code point have none. -/
def ofCode? (byte : Bool) (digits : List Char) : Option Escape :=
  let code := hexValue digits
  if digits.isEmpty then none
  else if code < 0xD800 ∨ (0xE000 ≤ code ∧ code ≤ 0x10FFFF) then
    some (.literal (Char.ofNat code) byte)
  else none

/-- Exactly this many hexadecimal digits. -/
def fixedHex (flags : Flags) : (count : Nat) → List Char → Option (List Char × List Char)
  | 0, rest => some ([], rest)
  | _ + 1, [] => none
  | count + 1, c :: rest =>
    if isHex c then
      (fixedHex flags count (flags.skip rest)).map fun (digits, rest) => (c :: digits, rest)
    else none

/-- Characters up to a closing brace, blanks skipped where they are; `fuel` bounds their number. -/
def braced (flags : Flags) : (fuel : Nat) → List Char → Option (List Char × List Char)
  | 0, _ => none
  | _ + 1, [] => none
  | fuel + 1, c :: rest =>
    if c = '\x7d' then some ([], rest)
    else (braced flags fuel (flags.skip rest)).map fun (inner, rest) => (c :: inner, rest)

def hex? (flags : Flags) (count : Nat) (rest : List Char) : Option (Escape × List Char) :=
  match flags.skip rest with
  | '\x7b' :: rest => do
    let (digits, rest) ← braced flags (rest.length + 1) (flags.skip rest)
    if digits.all isHex then
      let escape ← ofCode? false digits
      some (escape, flags.skip rest)
    else none
  | rest => do
    let (digits, rest) ← fixedHex flags count rest
    let escape ← ofCode? (count == 2) digits
    some (escape, rest)

/-- Splits at the first place where a mark stands. -/
def splitAt? (mark : List Char) : List Char → Option (List Char × List Char)
  | [] => none
  | c :: rest =>
    if mark.isPrefixOf (c :: rest) then some ([], (c :: rest).drop mark.length)
    else (splitAt? mark rest).map fun (before, after) => (c :: before, after)

/-- The set of a property in braces, and whether its mark negates it. -/
def bracedProperty? (name : List Char) : Option (Charset × Bool) :=
  match splitAt? ['!', '='] name with
  | some (property, value) => (propertyValue? property value).map (·, true)
  | none =>
    match splitAt? [':'] name <|> splitAt? ['='] name with
    | some (property, value) => (propertyValue? property value).map (·, false)
    | none => (propertyNamed? name).map (·, false)

def property? (flags : Flags) (negated : Bool) (rest : List Char) : Option (Escape × List Char) :=
  match flags.skip rest with
  | [] => none
  | '\x7b' :: rest => do
    let (name, rest) ← braced flags (rest.length + 1) (flags.skip rest)
    let (members, unequal) ← bracedProperty? name
    if flags.unicode then some (.set (flags.finish (negated != unequal) members), rest) else none
  | c :: rest => do
    if c = '\\' ∨ !flags.unicode then none
    else
      let members ← propertyNamed? [c]
      some (.set (flags.finish negated members), flags.skip rest)

def isMeta (c : Char) : Bool :=
  ['\\', '.', '+', '*', '?', '(', ')', '|', '[', ']', '\x7b', '\x7d', '^', '$', '#', '&', '-',
    '~'].contains c

/-- Marks without a meaning that may be escaped all the same. -/
def isEscapable (c : Char) : Bool :=
  isMeta c || (c.toNat < 0x80 && !c.isAlphanum && c ≠ '<' && c ≠ '>')

/-- The assertions that are named in braces after a word boundary. -/
def namedBoundary? (alphabet : Alphabet) (name : List Char) : Option Assertion :=
  if name = "start".toList then some (.wordStart alphabet)
  else if name = "end".toList then some (.wordEnd alphabet)
  else if name = "start-half".toList then some (.wordStartHalf alphabet)
  else if name = "end-half".toList then some (.wordEndHalf alphabet)
  else none

/-- A brace after a word boundary names an assertion when a letter or a hyphen follows it; otherwise
it starts a repetition. -/
def wordBoundary? (flags : Flags) (rest : List Char) : Option (Escape × List Char) :=
  let plain := some (.assertion (.wordBoundary flags.alphabet), rest)
  match rest with
  | '\x7b' :: inner =>
    match flags.skip inner with
    | [] => none
    | c :: name =>
      if c.isAlpha ∨ c = '-' then do
        let (name, rest) ← braced flags (name.length + 2) (c :: name)
        let test ← namedBoundary? flags.alphabet name
        some (.assertion test, rest)
      else plain
  | _ => plain

/-- The escape after a backslash, and what follows it. -/
def ofChars? (flags : Flags) : List Char → Option (Escape × List Char)
  | [] => none
  | c :: rest =>
    let short (kind : ShortClass) (negated : Bool) :=
      let members := ShortClass.charset flags.alphabet kind
      some (.set (if negated then Charset.complement flags.alphabet members else members), rest)
    let test (assertion : Assertion) := some (.assertion assertion, rest)
    let literal (c : Char) := some (.literal c false, rest)
    match c with
    | 'x' => hex? flags 2 rest
    | 'u' => hex? flags 4 rest
    | 'U' => hex? flags 8 rest
    | 'p' => property? flags false rest
    | 'P' => property? flags true rest
    | 'd' => short .digit false
    | 'D' => short .digit true
    | 's' => short .space false
    | 'S' => short .space true
    | 'w' => short .word false
    | 'W' => short .word true
    | 'a' => literal '\x07'
    | 'f' => literal '\x0c'
    | 't' => literal '\t'
    | 'n' => literal '\n'
    | 'r' => literal '\r'
    | 'v' => literal '\x0b'
    | 'A' => test .textStart
    | 'z' => test .textEnd
    | 'b' => wordBoundary? flags rest
    | 'B' => test (.notWordBoundary flags.alphabet)
    | '<' => test (.wordStart flags.alphabet)
    | '>' => test (.wordEnd flags.alphabet)
    | c => if isEscapable c then literal c else none

end Escape

end Forms.Pattern
