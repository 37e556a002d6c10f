import Forms.Pattern.Charset

/-!
# Regular expressions and what they match

A pattern is searched for: it matches a text when it matches some part of it.  The search follows
all ways to match at once.  What is left of an expression after one character is a list of
expressions, its partial derivatives, and their number stays small, so the time is bounded by the
pattern and not by the number of ways to match.

An assertion takes no character.  It looks at the characters on both sides of a position, so the two
tests on expressions are told those two characters.
-/

namespace Forms.Pattern

/-- Conditions on a position. -/
inductive Assertion where
  | textStart
  | textEnd
  | lineStart
  | lineEnd
  /-- Lines that end with a line feed, a carriage return, or both. -/
  | lineStartCrlf
  | lineEndCrlf
  | wordBoundary (alphabet : Alphabet)
  | notWordBoundary (alphabet : Alphabet)
  | wordStart (alphabet : Alphabet)
  | wordEnd (alphabet : Alphabet)
  | wordStartHalf (alphabet : Alphabet)
  | wordEndHalf (alphabet : Alphabet)
deriving DecidableEq

inductive Expr where
  | empty
  /-- One character of a set. -/
  | chars (set : Charset)
  | assertion (test : Assertion)
  | concat (first second : Expr)
  | alternate (first second : Expr)
  /-- From `least` to `most` times, without upper bound when `most` is missing. -/
  | iterate (body : Expr) (least : Nat) (most : Option Nat)
  /-- A numbered group.  It matches what its body matches. -/
  | capture (body : Expr)
deriving DecidableEq

/-- Whether a character beside the position belongs to a word. -/
def isWordAt (alphabet : Alphabet) (c : Option Char) : Bool :=
  match c with
  | some c => (ShortClass.charset alphabet .word).contains c.toNat
  | none => false

/-- Whether an assertion holds between two characters; a missing one is an end of the text. -/
def Assertion.holds (before after : Option Char) : Assertion → Bool
  | .textStart => before.isNone
  | .textEnd => after.isNone
  | .lineStart => before.isNone || before == some '\n'
  | .lineEnd => after.isNone || after == some '\n'
  | .lineStartCrlf =>
    before.isNone || before == some '\n' || (before == some '\r' && after != some '\n')
  | .lineEndCrlf =>
    after.isNone || after == some '\r' || (after == some '\n' && before != some '\r')
  | .wordBoundary alphabet => isWordAt alphabet before != isWordAt alphabet after
  | .notWordBoundary alphabet => isWordAt alphabet before == isWordAt alphabet after
  | .wordStart alphabet => !isWordAt alphabet before && isWordAt alphabet after
  | .wordEnd alphabet => isWordAt alphabet before && !isWordAt alphabet after
  | .wordStartHalf alphabet => !isWordAt alphabet before
  | .wordEndHalf alphabet => !isWordAt alphabet after

namespace Expr

/-- Whether the expression matches the empty text at a position. -/
def matchesEmpty (before after : Option Char) : Expr → Bool
  | .empty => true
  | .chars _ => false
  | .assertion test => test.holds before after
  | .concat first second => first.matchesEmpty before after && second.matchesEmpty before after
  | .alternate first second => first.matchesEmpty before after || second.matchesEmpty before after
  | .iterate body least _ => least == 0 || body.matchesEmpty before after
  | .capture body => body.matchesEmpty before after

/-- One expression after another, where nothing is left of an empty one. -/
def followedBy (first second : Expr) : Expr :=
  match first with
  | .empty => second
  | first => .concat first second

/-- What may be left of the expression once it has taken the character `c`.  A repetition whose body
matches nothing at this position may pass over any number of its rounds, so no lower
bound is left. -/
def derivatives (before : Option Char) (c : Char) : Expr → List Expr
  | .empty => []
  | .chars set => if set.contains c.toNat then [.empty] else []
  | .assertion _ => []
  | .concat first second =>
    (first.derivatives before c).map (·.followedBy second)
      ++ (if first.matchesEmpty before (some c) then second.derivatives before c else [])
  | .alternate first second => first.derivatives before c ++ second.derivatives before c
  | .iterate body least most =>
    if most = some 0 then []
    else
      let least := if body.matchesEmpty before (some c) then 0 else least - 1
      (body.derivatives before c).map (·.followedBy (.iterate body least (most.map (· - 1))))
  | .capture body => body.derivatives before c

/-- Whether one of the expressions under way, or a fresh start, matches up to some later
position. -/
def search (expr : Expr) (before : Option Char) (underWay : List Expr) : List Char → Bool
  | [] => (expr :: underWay).any (·.matchesEmpty before none)
  | c :: rest =>
    let states := (expr :: underWay).eraseDups
    states.any (·.matchesEmpty before (some c))
      || search expr (some c) (states.flatMap (·.derivatives before c)) rest

/-- Whether some part of the text matches. -/
def matchesIn (expr : Expr) (text : List Char) : Bool := expr.search none [] text

end Expr

end Forms.Pattern
