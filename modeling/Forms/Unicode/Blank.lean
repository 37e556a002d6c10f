import Forms.Unicode.Ranges

/-!
# White space

The characters of the property White_Space, which versions 16.0 and 17.0 of the standard agree on.
The zero width space and the byte order mark are not among them.
-/

namespace Forms.Unicode

def blankRanges : Ranges :=
  [(0x9, 0xD), (0x20, 0x20), (0x85, 0x85), (0xA0, 0xA0), (0x1680, 0x1680), (0x2000, 0x200A),
    (0x2028, 0x2029), (0x202F, 0x202F), (0x205F, 0x205F), (0x3000, 0x3000)]

def isBlank (c : Char) : Bool := blankRanges.contains c.toNat

/-- Drops blanks at both ends. -/
def trimChars (chars : List Char) : List Char :=
  ((chars.dropWhile isBlank).reverse.dropWhile isBlank).reverse

/-- A text without blanks at its ends. -/
def trim (text : String) : String := String.ofList (trimChars text.toList)

/-- Whether a text has no character but blanks. -/
def allBlank (text : String) : Bool := text.toList.all isBlank

end Forms.Unicode
