import Forms.Json.Value

/-!
# Printing JSON

Members are printed in the order in which the value lists them.  Strings escape only the quote, the
backslash and control characters; everything else is printed as it is.
-/

namespace Forms

namespace Json

def hexDigit (value : Nat) : Char := (Nat.toDigits 16 value).headD '0'

/-- A character inside quotes. -/
def escaped (c : Char) : List Char :=
  if c = '"' then ['\\', '"']
  else if c = '\\' then ['\\', '\\']
  else if c = '\x08' then ['\\', 'b']
  else if c = '\x0c' then ['\\', 'f']
  else if c = '\n' then ['\\', 'n']
  else if c = '\r' then ['\\', 'r']
  else if c = '\t' then ['\\', 't']
  else if c.toNat < 0x20 then
    ['\\', 'u', '0', '0', hexDigit (c.toNat / 16), hexDigit (c.toNat % 16)]
  else [c]

def quoted (text : String) : List Char := '"' :: (text.toList.flatMap escaped ++ ['"'])

mutual
/-- One line without blanks. -/
def compactChars : Json → List Char
  | .null => ['n', 'u', 'l', 'l']
  | .bool true => ['t', 'r', 'u', 'e']
  | .bool false => ['f', 'a', 'l', 's', 'e']
  | .number value => value.text
  | .string content => quoted content
  | .array [] => ['[', ']']
  | .array (item :: items) => '[' :: (compactChars item ++ compactItems items)
  | .object [] => ['\x7b', '\x7d']
  | .object ((key, value) :: members) =>
    '\x7b' :: (quoted key ++ ':' :: (compactChars value ++ compactMembers members))

def compactItems : List Json → List Char
  | [] => [']']
  | item :: items => ',' :: (compactChars item ++ compactItems items)

def compactMembers : List (String × Json) → List Char
  | [] => ['\x7d']
  | (key, value) :: members =>
    ',' :: (quoted key ++ ':' :: (compactChars value ++ compactMembers members))
end

/-- A line break followed by two blanks for every enclosing container. -/
def lineBreak (level : Nat) : List Char := '\n' :: List.replicate (2 * level) ' '

mutual
/-- One item or member a line; empty containers stay on theirs. -/
def prettyChars (level : Nat) : Json → List Char
  | .array [] => ['[', ']']
  | .array (item :: items) =>
    '[' :: (lineBreak (level + 1) ++ prettyChars (level + 1) item ++ prettyItems level items)
  | .object [] => ['\x7b', '\x7d']
  | .object ((key, value) :: members) =>
    '\x7b' :: (lineBreak (level + 1) ++ quoted key ++ ':' :: ' ' :: prettyChars (level + 1) value
      ++ prettyMembers level members)
  | other => compactChars other

def prettyItems (level : Nat) : List Json → List Char
  | [] => lineBreak level ++ [']']
  | item :: items =>
    ',' :: (lineBreak (level + 1) ++ prettyChars (level + 1) item ++ prettyItems level items)

def prettyMembers (level : Nat) : List (String × Json) → List Char
  | [] => lineBreak level ++ ['\x7d']
  | (key, value) :: members =>
    ',' :: (lineBreak (level + 1) ++ quoted key ++ ':' :: ' ' :: prettyChars (level + 1) value
      ++ prettyMembers level members)
end

def compact (value : Json) : String := String.ofList value.compactChars

def pretty (value : Json) : String := String.ofList (value.prettyChars 0)

end Json

end Forms
