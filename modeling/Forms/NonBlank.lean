import Forms.Unicode.Blank

/-!
# Names and messages that say something

Identifiers, binding keys and messages are never empty and never blank.  Blanks at their ends are
kept.
-/

namespace Forms

structure NonBlank where
  text : String
  notBlank : Unicode.allBlank text = false
deriving DecidableEq

namespace NonBlank

def ofString? (text : String) : Option NonBlank :=
  if h : Unicode.allBlank text = false then some ⟨text, h⟩ else none

theorem ofString?_text (name : NonBlank) : ofString? name.text = some name := by
  simp [ofString?, name.notBlank]

end NonBlank

end Forms
