import Forms.Unicode.Age
import Forms.Unicode.Break
import Forms.Unicode.CaseFolding
import Forms.Unicode.Category
import Forms.Unicode.Decimal
import Forms.Unicode.Property
import Forms.Unicode.Script
import Forms.Unicode.Word

/-!
# Character sets of a pattern

A set is a list of ranges in ascending order that neither meet nor touch.  Sets are combined inside
an alphabet, which is all of Unicode, or the bytes when a pattern turns Unicode off.
-/

namespace Forms.Pattern

open Unicode (Ranges)

abbrev Charset := Ranges

/-- What a negated set is taken from, and how far ignoring case reaches. -/
inductive Alphabet where
  | unicode
  | bytes
deriving DecidableEq

namespace Alphabet

def last : Alphabet → Nat
  | .unicode => 0x10FFFF
  | .bytes => 0xFF

end Alphabet

namespace Charset

def single (code : Nat) : Charset := [(code, code)]

/-- A range with what meets or touches it among the ranges behind it, and then the others. -/
def joinFrom (range : Nat × Nat) : Ranges → Charset
  | [] => [range]
  | next :: rest =>
    if next.1 ≤ range.2 + 1 then joinFrom (range.1, max range.2 next.2) rest
    else range :: joinFrom next rest

/-- Joins ranges that meet or touch, in a list in ascending order. -/
def join : Ranges → Charset
  | [] => []
  | range :: rest => joinFrom range rest

def ofRanges (ranges : Ranges) : Charset := join (ranges.mergeSort fun a b => a.1 ≤ b.1)

def union (left right : Charset) : Charset := ofRanges (left ++ right)

/-- The gaps of a set from a first code point on. -/
def gaps (last : Nat) : (first : Nat) → Charset → Charset
  | first, [] => if first ≤ last then [(first, last)] else []
  | first, (low, high) :: rest =>
    if first < low then (first, low - 1) :: gaps last (high + 1) rest else gaps last (high + 1) rest

def complement (alphabet : Alphabet) (set : Charset) : Charset := gaps alphabet.last 0 set

def intersection (left right : Charset) : Charset :=
  complement .unicode (union (complement .unicode left) (complement .unicode right))

def difference (left right : Charset) : Charset := intersection left (complement .unicode right)

def symmetricDifference (left right : Charset) : Charset :=
  union (difference left right) (difference right left)

/-- The set with every letter that differs from one of its letters only in case. -/
def ignoringCase (alphabet : Alphabet) (set : Charset) : Charset :=
  let inReach (code : Nat) := alphabet = .unicode || code < 0x80
  let added := Unicode.caseClasses.flatMap fun members =>
    let members := members.filter inReach
    if members.any set.contains then members else []
  ofRanges (set ++ added.map fun code => (code, code))

def isAscii (set : Charset) : Bool := set.all fun range => range.2 < 0x80

end Charset

/-- Classes that a letter after a backslash names. -/
inductive ShortClass where
  | digit
  | space
  | word
deriving DecidableEq

def ShortClass.charset : Alphabet → ShortClass → Charset
  | .unicode, .digit => Unicode.decimalRanges
  | .unicode, .space => Unicode.blankRanges
  | .unicode, .word => Unicode.wordRanges
  | .bytes, .digit => [(0x30, 0x39)]
  | .bytes, .space => [(0x09, 0x0D), (0x20, 0x20)]
  | .bytes, .word => [(0x30, 0x39), (0x41, 0x5A), (0x5F, 0x5F), (0x61, 0x7A)]

/-- Classes with a name between colons; all are ASCII. -/
def namedClass? : String → Option Charset
  | "alnum" => some [(0x30, 0x39), (0x41, 0x5A), (0x61, 0x7A)]
  | "alpha" => some [(0x41, 0x5A), (0x61, 0x7A)]
  | "ascii" => some [(0x00, 0x7F)]
  | "blank" => some [(0x09, 0x09), (0x20, 0x20)]
  | "cntrl" => some [(0x00, 0x1F), (0x7F, 0x7F)]
  | "digit" => some [(0x30, 0x39)]
  | "graph" => some [(0x21, 0x7E)]
  | "lower" => some [(0x61, 0x7A)]
  | "print" => some [(0x20, 0x7E)]
  | "punct" => some [(0x21, 0x2F), (0x3A, 0x40), (0x5B, 0x60), (0x7B, 0x7E)]
  | "space" => some [(0x09, 0x0D), (0x20, 0x20)]
  | "upper" => some [(0x41, 0x5A)]
  | "word" => some [(0x30, 0x39), (0x41, 0x5A), (0x5F, 0x5F), (0x61, 0x7A)]
  | "xdigit" => some [(0x30, 0x39), (0x41, 0x46), (0x61, 0x66)]
  | _ => none

/-- A name in lower case, without blanks, hyphens, underscores and letters outside ASCII. -/
def plainName (name : List Char) : List Char :=
  (name.filter fun c => c ≠ ' ' ∧ c ≠ '_' ∧ c ≠ '-' ∧ c.toNat < 0x80).map Char.toLower

/-- A property name as the tables list it: plain, and without a leading `is`.  `isc` is a name of its
own, and not the category `c`. -/
def propertyKey (name : List Char) : String :=
  if (name.take 2).map Char.toLower = ['i', 's'] then
    let rest := plainName (name.drop 2)
    if rest = ['c'] then "isc" else String.ofList rest
  else String.ofList (plainName name)

def generalCategory? (key : String) : Option Charset :=
  match key with
  | "any" => some [(0, 0x10FFFF)]
  | "ascii" => some [(0, 0x7F)]
  | "assigned" => (Unicode.category? "cn").map fun ranges =>
    Charset.complement .unicode (Charset.ofRanges ranges)
  | key => (Unicode.category? key).map Charset.ofRanges

def scriptNamed? (key : String) : Option Charset :=
  (Unicode.scriptTable.named? key).map Charset.ofRanges

/-- A script with the characters that it shares, and without those that only others share. -/
def scriptExtensions? (key : String) : Option Charset :=
  (Unicode.scriptTable.entry? key).map fun (names, text) =>
    Charset.union
      (Charset.difference (Charset.ofRanges (Unicode.Ranges.ofText text))
        (Charset.ofRanges Unicode.sharedRanges))
      (Charset.ofRanges (Unicode.sharedBy names))

/-- A property given by one name: a yes-or-no property, a general category, or a script. -/
def propertyNamed? (name : List Char) : Option Charset :=
  let key := propertyKey name
  let binary :=
    if ["cf", "sc", "lc"].contains key then none else (Unicode.property? key).map Charset.ofRanges
  binary <|> generalCategory? key <|> scriptNamed? key

/-- A property given by its name and a value. -/
def propertyValue? (name value : List Char) : Option Charset :=
  let key := propertyKey value
  match propertyKey name with
  | "gc" | "generalcategory" => generalCategory? key
  | "sc" | "script" => scriptNamed? key
  | "scx" | "scriptextensions" => scriptExtensions? key
  | "age" => (Unicode.age? key).map Charset.ofRanges
  | "gcb" | "graphemeclusterbreak" => (Unicode.graphemeBreak? key).map Charset.ofRanges
  | "wb" | "wordbreak" => (Unicode.wordBreakTable.named? key).map Charset.ofRanges
  | "sb" | "sentencebreak" => (Unicode.sentenceBreakTable.named? key).map Charset.ofRanges
  | _ => none

end Forms.Pattern
