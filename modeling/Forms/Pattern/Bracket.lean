import Forms.Pattern.Escape

/-!
# Classes in brackets

A class lists characters, ranges and other classes, may be negated, and may be cut, reduced or
compared with what follows `&&`, `--` or `~~`.  Classes nest; the reader keeps the ones that are
still open.  Inside a class most marks lose their meaning, and a name between colons that is no
class name is just a class of its letters.
-/

namespace Forms.Pattern

open Unicode (Ranges)

inductive SetOperation where
  | intersection
  | difference
  | symmetricDifference
deriving DecidableEq

def SetOperation.apply : SetOperation → Charset → Charset → Charset
  | .intersection => Charset.intersection
  | .difference => Charset.difference
  | .symmetricDifference => Charset.symmetricDifference

namespace Bracket

/-- Items listed side by side: their ranges, their number, and how deep they nest. -/
structure Items where
  ranges : Ranges := []
  count : Nat := 0
  depth : Nat := 0

namespace Items

def add (items : Items) (ranges : Ranges) (depth : Nat) : Items :=
  ⟨items.ranges ++ ranges, items.count + 1, max items.depth depth⟩

def addChar (items : Items) (c : Char) : Items := items.add [(c.toNat, c.toNat)] 0

def set (items : Items) : Charset := Charset.ofRanges items.ranges

/-- Two items or more side by side nest one deeper than they do. -/
def nesting (items : Items) : Nat := if items.count < 2 then items.depth else items.depth + 1

end Items

/-- What waits for the class that is being read. -/
inductive Pending where
  | opened (outer : Items) (negated : Bool)
  | operation (kind : SetOperation) (left : Charset) (depth : Nat)

structure Reader where
  flags : Flags
  items : Items
  pending : List Pending

/-- A finished class and how deep it nests. -/
structure Class where
  set : Charset
  depth : Nat

/-- Leading hyphens, and then a leading closing bracket, stand for themselves. -/
def leading (flags : Flags) : (fuel : Nat) → Items → List Char → Option (Items × List Char)
  | 0, _, _ => none
  | _ + 1, _, [] => none
  | fuel + 1, items, c :: rest =>
    let rest' := flags.skip rest
    if c = '-' then
      if rest'.isEmpty then none else leading flags fuel (items.addChar '-') rest'
    else if c = ']' ∧ items.count = 0 then
      if rest'.isEmpty then none else some (items.addChar ']', rest')
    else some (items, c :: rest)

/-- After an opening bracket: whether the class is negated, and its leading items. -/
def opening (flags : Flags) (rest : List Char) : Option (Bool × Items × List Char) :=
  match flags.skip rest with
  | '^' :: rest => do
    let rest := flags.skip rest
    let (items, rest) ← leading flags (rest.length + 1) {} rest
    some (true, items, rest)
  | rest => do
    let (items, rest) ← leading flags (rest.length + 1) {} rest
    some (false, items, rest)

/-- A class name between `[:` and `:]`, given what follows the opening bracket. -/
def named? (rest : List Char) : Option (Bool × Charset × List Char) :=
  match rest with
  | ':' :: rest =>
    let negated := rest.head? == some '^'
    let body := if negated then rest.drop 1 else rest
    let name := body.takeWhile (· ≠ ':')
    match body.dropWhile (· ≠ ':') with
    | ':' :: ']' :: rest => (namedClass? (String.ofList name)).map (negated, ·, rest)
    | _ => none
  | _ => none

/-- Applies the operation that waits for its right side, if there is one. -/
def applyPending (flags : Flags) (right : Charset) (depth : Nat) (pending : List Pending) :
    Charset × Nat × List Pending :=
  match pending with
  | .operation kind left leftDepth :: outer =>
    let fold := fun set => if flags.ignoreCase then Charset.ignoringCase flags.alphabet set else set
    (kind.apply (fold left) (fold right), max leftDepth depth + 1, outer)
  | pending => (right, depth, pending)

/-- Closes the innermost class; it is an item of the class around it, or the whole class. -/
def close (reader : Reader) : Option (Reader ⊕ Class) :=
  let (set, depth, pending) :=
    applyPending reader.flags reader.items.set reader.items.nesting reader.pending
  match pending with
  | .opened outer negated :: pending =>
    let set := reader.flags.finish negated set
    match pending with
    | [] => some (.inr ⟨set, depth + 1⟩)
    | pending => some (.inl { reader with items := outer.add set (depth + 1), pending })
  | _ => none

def operate (reader : Reader) (kind : SetOperation) : Reader :=
  let (set, depth, pending) :=
    applyPending reader.flags reader.items.set reader.items.nesting reader.pending
  { reader with items := {}, pending := .operation kind set depth :: pending }

/-- One end of a range, or a class that an escape names. -/
def item? (flags : Flags) : List Char → Option (Escape × List Char)
  | [] => none
  | '\\' :: rest => Escape.ofChars? flags rest
  | c :: rest => some (.literal c false, rest)

/-- The character of an item in a class.  Where Unicode is off, a class holds ASCII alone. -/
def charOf? (flags : Flags) : Escape → Option Char
  | .literal c _ => if flags.unicode ∨ c.toNat < 0x80 then some c else none
  | _ => none

/-- A range, or a single item.  A hyphen before a closing bracket or another hyphen
makes no range. -/
def range? (reader : Reader) (chars : List Char) : Option (Reader × List Char) := do
  let flags := reader.flags
  let (first, rest) ← item? flags chars
  let single (rest : List Char) : Option (Reader × List Char) :=
    match first with
    | .set members => some ({ reader with items := reader.items.add members 0 }, rest)
    | .assertion _ => none
    | first => do
      let c ← charOf? flags first
      some ({ reader with items := reader.items.addChar c }, rest)
  match flags.skip rest with
  | [] => none
  | '-' :: after =>
    match flags.skip after with
    | [] => none
    | ']' :: _ | '-' :: _ => single ('-' :: after)
    | after => do
      let (second, rest) ← item? flags after
      let low ← charOf? flags first
      let high ← charOf? flags second
      if low ≤ high then
        some ({ reader with items := reader.items.add [(low.toNat, high.toNat)] 0 }, rest)
      else none
  | rest => single rest

/-- Reads on until the outermost class is closed; `fuel` bounds the number of items. -/
def run : (fuel : Nat) → Reader → List Char → Option (Class × List Char)
  | 0, _, _ => none
  | fuel + 1, reader, chars =>
    match reader.flags.skip chars with
    | [] => none
    | '[' :: rest =>
      match named? rest with
      | some (negated, set, rest) =>
        let set := reader.flags.finish negated set
        run fuel { reader with items := reader.items.add set 0 } rest
      | none =>
        match opening reader.flags rest with
        | none => none
        | some (negated, items, rest) =>
          let pending := .opened reader.items negated :: reader.pending
          run fuel { reader with items, pending } rest
    | ']' :: rest =>
      match close reader with
      | none => none
      | some (.inr result) => some (result, rest)
      | some (.inl reader) => run fuel reader rest
    | '&' :: '&' :: rest => run fuel (operate reader .intersection) rest
    | '-' :: '-' :: rest => run fuel (operate reader .difference) rest
    | '~' :: '~' :: rest => run fuel (operate reader .symmetricDifference) rest
    | chars =>
      match range? reader chars with
      | none => none
      | some (reader, rest) => run fuel reader rest

/-- The class after its opening bracket.  Where Unicode is off, a class that reaches past ASCII
would match half of a character and is refused. -/
def class? (flags : Flags) (rest : List Char) : Option (Class × List Char) := do
  let (negated, items, rest) ← opening flags rest
  let reader : Reader := ⟨flags, items, [.opened {} negated]⟩
  let (result, rest) ← run (rest.length + 1) reader rest
  if flags.unicode ∨ result.set.isAscii then some (result, rest) else none

end Bracket

end Forms.Pattern
