import Forms.Pattern.Expr

/-!
# How large a pattern may be

A pattern is turned into two programs over encoded text, one that reads it forwards and one that
reads it backwards.  Counted repetitions are written out, so a short pattern can stand for a very
long program.  A pattern is refused when one of its programs takes more than ten mebibytes.

A program is a list of states of equal size; a state that branches also takes room for its
branches.  A character past ASCII takes several bytes, so a set of characters is a small automaton
over bytes.  Forwards its states are shared wherever they read the same; backwards only common
beginnings are shared.
-/

namespace Forms.Pattern

/-- Bytes of one state of a program. -/
def stateBytes : Nat := 32

/-- Bytes of a branch that is taken on a range of bytes. -/
def edgeBytes : Nat := 8

/-- Bytes of a branch that is taken without reading. -/
def linkBytes : Nat := 4

/-- Bytes that a program may take. -/
def programLimit : Nat := 10 * Nat.pow 2 20

/-- A state with two ways on. -/
def forkBytes : Nat := stateBytes + 2 * linkBytes

abbrev ByteRange := Nat × Nat

/-- The bytes that encode a code point. -/
def encode (code : Nat) : List Nat :=
  if code < 0x80 then [code]
  else if code < 0x800 then [0xC0 + code / 0x40, 0x80 + code % 0x40]
  else if code < 0x10000 then
    [0xE0 + code / 0x1000, 0x80 + code / 0x40 % 0x40, 0x80 + code % 0x40]
  else
    [0xF0 + code / 0x40000, 0x80 + code / 0x1000 % 0x40, 0x80 + code / 0x40 % 0x40,
      0x80 + code % 0x40]

/-- Where a range of code points has to be cut, so that the encodings of both parts have one length
and differ only from some byte on; none when it need not be cut. -/
def cut? (low high : Nat) : Option Nat :=
  if low < 0xE000 ∧ 0xD7FF < high then some 0xD7FF
  else
    match [0x7F, 0x7FF, 0xFFFF].find? fun last => low ≤ last && last < high with
    | some last => some last
    | none =>
      if high < 0x80 then none
      else
        [0x40, 0x1000, 0x40000].findSome? fun block =>
          if low / block = high / block then none
          else if low % block ≠ 0 then some (low / block * block + (block - 1))
          else if high % block ≠ block - 1 then some (high / block * block - 1)
          else none

/-- The encodings of a range of code points as sequences of byte ranges.  The part before a cut ends
before a surrogate when the cut is made there; `fuel` bounds the number of cuts one
after another. -/
def byteSequences : (fuel : Nat) → (low high : Nat) → List (List ByteRange)
  | 0, _, _ => []
  | fuel + 1, low, high =>
    if high < low then []
    else
      match cut? low high with
      | some last =>
        let next := if last = 0xD7FF then max low 0xE000 else last + 1
        byteSequences fuel low last ++ byteSequences fuel next high
      | none => [(encode low).zip (encode high)]

def Charset.byteSequences (set : Charset) : List (List ByteRange) :=
  set.flatMap fun range => Pattern.byteSequences 64 range.1 range.2

def commonLength (left right : List ByteRange) : Nat :=
  ((left.zip right).takeWhile fun pair => pair.1 == pair.2).length

/-- Number of different beginnings of sequences, which come in ascending order. -/
def beginnings (previous : List ByteRange) : List (List ByteRange) → Nat
  | [] => 0
  | sequence :: rest => sequence.length - commonLength previous sequence + beginnings sequence rest

/-- Branches of a state of the forward automaton: byte range and number of the next state. -/
abbrev Row := List (ByteRange × Nat)

/-- Splits sequences by their first range; equal ones stand side by side. -/
def groupByHead (sequences : List (List ByteRange)) : List (ByteRange × List (List ByteRange)) :=
  sequences.foldr
    (fun sequence groups =>
      match sequence, groups with
      | [], groups => groups
      | head :: tail, (other, tails) :: rest =>
        if head = other then (other, (tail :: tails)) :: rest else (head, [tail]) :: groups
      | head :: tail, [] => [(head, [tail])])
    []

/-- Adds the state that reads these sequences, unless an equal one is there.  State zero is the end;
`fuel` bounds the length of the sequences. -/
def shareStates : (fuel : Nat) → List (List ByteRange) → List Row → Nat × List Row
  | 0, _, rows => (0, rows)
  | fuel + 1, sequences, rows =>
    match groupByHead sequences with
    | [] => (0, rows)
    | groups =>
      let (row, rows) := groups.foldl
        (fun (row, rows) group =>
          let (state, rows) := shareStates fuel group.2 rows
          (row ++ [(group.1, state)], rows))
        (([] : Row), rows)
      match rows.findIdx? (· == row) with
      | some position => (position + 1, rows)
      | none => (rows.length + 1, rows ++ [row])

/-- Bytes of the forward and of the backward program of a set. -/
structure ProgramSize where
  forward : Nat
  backward : Nat

namespace ProgramSize

def add (left right : ProgramSize) : ProgramSize :=
  ⟨left.forward + right.forward, left.backward + right.backward⟩

def times (count : Nat) (size : ProgramSize) : ProgramSize :=
  ⟨count * size.forward, count * size.backward⟩

/-- The same number of bytes in both programs. -/
def both (bytes : Nat) : ProgramSize := ⟨bytes, bytes⟩

def fits (size : ProgramSize) : Bool :=
  size.forward ≤ programLimit && size.backward ≤ programLimit

end ProgramSize

namespace Charset

/-- One character is its bytes; a set within ASCII is one state with an edge for each range. -/
def simpleSize? (set : Charset) : Option ProgramSize :=
  match set with
  | [] => some (.both stateBytes)
  | [(low, high)] =>
    if low = high then some (.both (stateBytes * (encode low).length))
    else if high < 0x80 then some (.both (2 * stateBytes + edgeBytes))
    else none
  | set => if set.isAscii then some (.both (2 * stateBytes + edgeBytes * set.length)) else none

/-- More than any set of this many ranges takes. -/
def roughSize (set : Charset) : ProgramSize :=
  set.simpleSize?.getD (.both (set.length * 4096 + 1024))

def exactSize (set : Charset) : ProgramSize :=
  match set.simpleSize? with
  | some size => size
  | none =>
    let sequences := set.byteSequences
    let rows := (shareStates 5 sequences []).2
    let edges := (rows.map List.length).foldl (· + ·) 0
    ⟨stateBytes * (rows.length + 1) + edgeBytes * edges,
      stateBytes * (beginnings [] sequences + 2) + linkBytes * sequences.length⟩

end Charset

namespace Expr

/-- Whether the expression matches nothing but the empty text. -/
def onlyEmpty : Expr → Bool
  | .empty | .assertion _ => true
  | .chars _ => false
  | .concat first second | .alternate first second => first.onlyEmpty && second.onlyEmpty
  | .iterate body _ most => most == some 0 || body.onlyEmpty
  | .capture body => body.onlyEmpty

/-- Whether the expression matches the empty text somewhere. -/
def maybeEmpty : Expr → Bool
  | .empty | .assertion _ => true
  | .chars _ => false
  | .concat first second => first.maybeEmpty && second.maybeEmpty
  | .alternate first second => first.maybeEmpty || second.maybeEmpty
  | .iterate body least _ => least == 0 || body.maybeEmpty
  | .capture body => body.maybeEmpty

/-- The union of the branches when each of them is a set. -/
def asSet? : Expr → Option Charset
  | .chars set => some set
  | .alternate first second => do return Charset.union (← first.asSet?) (← second.asSet?)
  | _ => none

/-- Number of branches of a chain of alternatives. -/
def branchCount : Expr → Nat
  | .alternate first second => first.branchCount + second.branchCount
  | _ => 1

/-- Room for a repetition of a body of the given size. -/
def iterateSize (body : ProgramSize) (bodyMaybeEmpty : Bool) (least : Nat) (most : Option Nat) :
    ProgramSize :=
  match least, most with
  | 0, none =>
    if bodyMaybeEmpty then body.add (.both (2 * forkBytes + stateBytes))
    else body.add (.both forkBytes)
  | least, none => (body.times least).add (.both forkBytes)
  | 0, some 0 => .both stateBytes
  | 0, some 1 => body.add (.both (forkBytes + stateBytes))
  | 0, some most => ((body.add (.both forkBytes)).times most).add (.both (2 * stateBytes))
  | least, some most =>
    if least = most then body.times least
    else
      (body.times least).add
        (((body.add (.both forkBytes)).times (most - least)).add (.both stateBytes))

/-- Room for an expression; `inChain` says that it is a branch of alternatives already counted.  A
body that takes no character is repeated at most once. -/
def size (setSize : Charset → ProgramSize) (inChain : Bool) : Expr → ProgramSize
  | .empty => .both stateBytes
  | .chars set => setSize set
  | .assertion _ => .both stateBytes
  | .concat .empty second => second.size setSize false
  | .concat first .empty => first.size setSize false
  | .concat first second => (first.size setSize false).add (second.size setSize false)
  | .alternate first second =>
    match if inChain then none else (Expr.alternate first second).asSet? with
    | some set => setSize set
    | none =>
      let branches := (first.size setSize true).add (second.size setSize true)
      if inChain then branches
      else
        branches.add
          (.both (2 * stateBytes + linkBytes * (first.branchCount + second.branchCount)))
  | .iterate body least most =>
    let (least, most) := if body.onlyEmpty then (min least 1, most.map (min 1)) else (least, most)
    iterateSize (body.size setSize false) body.maybeEmpty least most
  | .capture body => (body.size setSize false).add ⟨2 * stateBytes, 0⟩

/-- States around a whole pattern: its start, its end, and the loop that moves the search on. -/
def frameSize : ProgramSize := ⟨7 * stateBytes + 16, 5 * stateBytes + 16⟩

/-- Whether both programs stay within the limit.  The exact size of a set is only worked out when
the rough one is too large. -/
def fitsProgram (expr : Expr) : Bool :=
  ((expr.size Charset.roughSize false).add frameSize).fits
    || ((expr.size Charset.exactSize false).add frameSize).fits

end Expr

end Forms.Pattern
