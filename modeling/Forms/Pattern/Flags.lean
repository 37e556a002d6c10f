import Forms.Pattern.Expr

/-!
# Flags of a pattern

Flags change what the characters of a pattern mean.  They are set for the rest of the group they
stand in, and are restored at its end.
-/

namespace Forms.Pattern

structure Flags where
  ignoreCase : Bool := false
  multiLine : Bool := false
  dotAll : Bool := false
  crlf : Bool := false
  unicode : Bool := true
  /-- Blanks and comments in the pattern are skipped. -/
  spaced : Bool := false

namespace Flags

def alphabet (flags : Flags) : Alphabet := if flags.unicode then .unicode else .bytes

/-- Sets the flag of a letter.  `U` swaps greedy and lazy, which no search can see. -/
def set? (flags : Flags) (letter : Char) (value : Bool) : Option Flags :=
  match letter with
  | 'i' => some { flags with ignoreCase := value }
  | 'm' => some { flags with multiLine := value }
  | 's' => some { flags with dotAll := value }
  | 'R' => some { flags with crlf := value }
  | 'u' => some { flags with unicode := value }
  | 'x' => some { flags with spaced := value }
  | 'U' => some flags
  | _ => none

def lineStart (flags : Flags) : Assertion :=
  if !flags.multiLine then .textStart else if flags.crlf then .lineStartCrlf else .lineStart

def lineEnd (flags : Flags) : Assertion :=
  if !flags.multiLine then .textEnd else if flags.crlf then .lineEndCrlf else .lineEnd

/-- Any character, or any but a line break.  Without Unicode a dot would take half of a
character. -/
def dot? (flags : Flags) : Option Charset :=
  if !flags.unicode then none
  else if flags.dotAll then some [(0, 0x10FFFF)]
  else if flags.crlf then some (Charset.complement .unicode [(0x0A, 0x0A), (0x0D, 0x0D)])
  else some (Charset.complement .unicode [(0x0A, 0x0A)])

/-- A set as a pattern means it: case is ignored first, and a negated set is taken afterwards. -/
def finish (flags : Flags) (negated : Bool) (set : Charset) : Charset :=
  let set := if flags.ignoreCase then Charset.ignoringCase flags.alphabet set else set
  if negated then Charset.complement flags.alphabet set else set

mutual
def skipBlanks : List Char → List Char
  | [] => []
  | c :: rest =>
    if Unicode.isBlank c then skipBlanks rest
    else if c = '#' then skipComment rest
    else c :: rest

def skipComment : List Char → List Char
  | [] => []
  | c :: rest => if c = '\n' then skipBlanks rest else skipComment rest
end

/-- What follows blanks and comments, where they are skipped. -/
def skip (flags : Flags) (rest : List Char) : List Char :=
  if flags.spaced then skipBlanks rest else rest

end Flags

end Forms.Pattern
