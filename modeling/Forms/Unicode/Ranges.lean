/-!
# Sets of code points

A set of characters is a list of ranges of code points, both ends included.  The large tables of the
Unicode standard are written as text, one hexadecimal range after the other, and read once.

What a pattern asks of a character follows version 16.0 of the standard.  What is asked of a
character outside patterns, its being a letter or a number and its being fit for print, follows
version 17.0.  The surrogates are no characters and are in no set.
-/

namespace Forms.Unicode

abbrev Ranges := List (Nat × Nat)

namespace Ranges

def contains (ranges : Ranges) (code : Nat) : Bool :=
  ranges.any fun range => range.1 ≤ code && code ≤ range.2

def hexValue (c : Char) : Nat :=
  if c ≤ '9' then c.toNat - '0'.toNat else c.toNat - 'a'.toNat + 10

def hexNumber (digits : List Char) : Nat := digits.foldl (fun value c => value * 16 + hexValue c) 0

/-- One range `lo-hi`, or one code point. -/
def ofWord (word : List Char) : Nat × Nat :=
  let low := word.takeWhile (· ≠ '-')
  let high := word.drop (low.length + 1)
  (hexNumber low, if high.isEmpty then hexNumber low else hexNumber high)

/-- The words of a text, at blanks and line breaks. -/
def words (chars : List Char) : List (List Char) :=
  let (last, done) := chars.foldl
    (fun (current, done) c =>
      if c = ' ' ∨ c = '\n' then ([], current.reverse :: done) else (c :: current, done))
    (([] : List Char), ([] : List (List Char)))
  ((last.reverse :: done).filter fun word => !word.isEmpty).reverse

def ofText (text : String) : Ranges := (words text.toList).map ofWord

end Ranges

/-- Sets under the names they go by, in lower case without underscores. -/
abbrev Table := List (List String × String)

namespace Table

def entry? (table : Table) (name : String) : Option (List String × String) :=
  table.find? fun entry => entry.1.contains name

/-- The set that goes by a name. -/
def named? (table : Table) (name : String) : Option Ranges :=
  (table.entry? name).map fun entry => Ranges.ofText entry.2

end Table

end Forms.Unicode
