import Forms.Pattern.Parser
import Forms.Pattern.ProgramSize

/-!
# Patterns

A pattern text is compiled once and then searched for in texts.  A text that is no pattern, or whose
program would be too large, does not compile.
-/

namespace Forms

structure Pattern where
  expr : Pattern.Expr

namespace Pattern

def compile? (text : String) : Option Pattern := do
  let expr ← parse? text.toList
  if expr.fitsProgram then some ⟨expr⟩ else none

/-- Whether the pattern occurs somewhere in a text. -/
def isMatch (pattern : Pattern) (text : String) : Bool := pattern.expr.matchesIn text.toList

end Pattern

end Forms
