import Forms.Choice.Source

/-!
# Remembering choices

A cache keeps the choices that a request led to, under the signature of the request.  A service may
work with any cache; the one here keeps its entries in memory.
-/

namespace Forms

/-- The operations of a cache that keeps its entries in a `State`.  A failing operation leaves the
state as it was. -/
structure ChoiceCache (State : Type) where
  get : State → String → Outcome (Option (List Choice))
  /-- Remembers choices for a number of seconds. -/
  set : State → String → List Choice → UInt32 → Outcome State
  clear : State → Outcome State

namespace ChoiceCache

/-- What the cache in memory holds while nothing expires. -/
abbrev Memory := Entries (List Choice)

/-- Choices that would expire at once are not kept. -/
def Memory.set (memory : Memory) (signature : String) (choices : List Choice) (seconds : UInt32) :
    Memory :=
  if seconds = 0 then memory else memory.insert signature choices

def memory : ChoiceCache Memory where
  get held signature := .ok (held.get? signature)
  set held signature choices seconds := .ok (held.set signature choices seconds)
  clear _ := .ok []

end ChoiceCache

end Forms
