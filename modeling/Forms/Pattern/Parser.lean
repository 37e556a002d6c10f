import Forms.Pattern.Bracket
import Forms.Unicode.Alphanumeric

/-!
# Reading a pattern

The reader goes through the pattern once and keeps the groups that are still open.  Look-around and
references back to a group are not part of the language, so a pattern that uses them is no pattern.
Groups, repetitions, classes, sequences and alternatives may nest up to a fixed depth.
-/

namespace Forms.Pattern

open Unicode (isBlank)

/-- Part of a sequence: its meaning, how deep it nests, and whether a repetition may follow it. -/
structure Part where
  expr : Expr
  depth : Nat
  repeatable : Bool

/-- A group whose end has not come yet: the sequence and the branches around it, both latest first,
the flags to go back to, and whether it is numbered. -/
structure Group where
  parts : List Part
  branches : List Part
  flags : Flags
  numbered : Bool

structure Reader where
  flags : Flags
  parts : List Part
  branches : List Part
  groups : List Group
  names : List (List Char)

/-- Depth to which parts of a pattern may nest. -/
def nestingLimit : Nat := 250

/-- The largest number of repetitions that can be written. -/
def countLimit : Nat := UInt32.size

def maxDepth (parts : List Part) : Nat := (parts.map Part.depth).foldl max 0

/-- A sequence, given latest first. -/
def sequence (parts : List Part) : Part :=
  match parts with
  | [] => ⟨.empty, 0, false⟩
  | [part] => part
  | last :: others =>
    ⟨others.foldl (fun expr part => .concat part.expr expr) last.expr, maxDepth parts + 1, true⟩

/-- Branches, given latest first. -/
def alternatives (branches : List Part) : Part :=
  match branches with
  | [] => ⟨.empty, 0, false⟩
  | [branch] => branch
  | last :: others =>
    ⟨others.foldl (fun expr part => .alternate part.expr expr) last.expr,
      maxDepth branches + 1, true⟩

namespace Reader

def start : Reader := ⟨{}, [], [], [], []⟩

def push (reader : Reader) (expr : Expr) (depth : Nat) : Reader :=
  { reader with parts := ⟨expr, depth, true⟩ :: reader.parts }

/-- What the innermost open group holds. -/
def content (reader : Reader) : Part := alternatives (sequence reader.parts :: reader.branches)

def nextBranch (reader : Reader) : Reader :=
  { reader with parts := [], branches := sequence reader.parts :: reader.branches }

def openGroup (reader : Reader) (flags : Flags) (numbered : Bool) : Reader :=
  { reader with
    flags, parts := [], branches := []
    groups := ⟨reader.parts, reader.branches, reader.flags, numbered⟩ :: reader.groups }

def closeGroup? (reader : Reader) : Option Reader :=
  match reader.groups with
  | [] => none
  | group :: groups =>
    let content := reader.content
    let expr := if group.numbered then .capture content.expr else content.expr
    some { reader with
      flags := group.flags
      parts := ⟨expr, content.depth + 1, true⟩ :: group.parts
      branches := group.branches
      groups }

/-- Repeats the last part.  Nothing, or a change of flags, cannot be repeated. -/
def repeatLast? (reader : Reader) (least : Nat) (most : Option Nat) : Option Reader :=
  match reader.parts with
  | [] => none
  | part :: parts =>
    if part.repeatable then
      some { reader with
        parts := ⟨.iterate part.expr least most, part.depth + 1, true⟩ :: parts }
    else none

end Reader

/-- The expression of one character: a set of one, or of its cases where case is ignored.  A byte
past ASCII is no character. -/
def literal? (flags : Flags) (c : Char) (byte : Bool) : Option Expr :=
  if !flags.unicode ∧ byte ∧ 0x80 ≤ c.toNat then none
  else if flags.ignoreCase ∧ (flags.unicode ∨ c.toNat < 0x80) then
    some (.chars (Charset.ignoringCase flags.alphabet (Charset.single c.toNat)))
  else some (.chars (Charset.single c.toNat))

def escape? (flags : Flags) (rest : List Char) : Option (Expr × List Char) := do
  let (escape, rest) ← Escape.ofChars? flags rest
  match escape with
  | .literal c byte => (literal? flags c byte).map (·, rest)
  | .assertion test => some (.assertion test, rest)
  | .set members => if flags.unicode ∨ members.isAscii then some (.chars members, rest) else none

/-- A number in braces with blanks around it; `some none` when no digit is there. -/
def count? (flags : Flags) (rest : List Char) : Option (Option Nat × List Char) :=
  let rest := rest.dropWhile isBlank
  let digits := rest.takeWhile Token.isDigit
  let rest := (flags.skip (rest.dropWhile Token.isDigit)).dropWhile isBlank
  if digits.isEmpty then some (none, rest)
  else
    let value := Token.digitsValue digits
    if value < countLimit then some (some value, rest) else none

/-- Drops the mark of a lazy repetition, which no search can see. -/
def skipLazy (rest : List Char) : List Char :=
  match rest with
  | '?' :: rest => rest
  | rest => rest

/-- The bounds of a repetition after its opening brace.  The lower bound must be written. -/
def bounds? (flags : Flags) (rest : List Char) : Option (Nat × Option Nat × List Char) := do
  let (least, rest) ← count? flags (flags.skip rest)
  let least ← least
  match rest with
  | '\x7d' :: rest => some (least, some least, skipLazy (flags.skip rest))
  | ',' :: rest =>
    match flags.skip rest with
    | '\x7d' :: rest => some (least, none, skipLazy (flags.skip rest))
    | rest => do
      let (most, rest) ← count? flags rest
      let most ← most
      match rest with
      | '\x7d' :: rest =>
        if least ≤ most then some (least, some most, skipLazy (flags.skip rest)) else none
      | _ => none
  | _ => none

/-- Letters of flags up to a colon or a closing parenthesis; each at most once, and one of them
after a minus sign.  `fuel` bounds their number. -/
def flagLetters? : (fuel : Nat) → (seen : List Char) → (negative : Bool) → Flags → List Char →
    Option (Flags × List Char × List Char)
  | 0, _, _, _, _ => none
  | _ + 1, _, _, _, [] => none
  | fuel + 1, seen, negative, flags, c :: rest =>
    if c = ':' ∨ c = ')' then
      if seen.head? = some '-' then none else some (flags, seen, c :: rest)
    else if seen.contains c then none
    else if c = '-' then flagLetters? fuel (c :: seen) true flags rest
    else
      match flags.set? c (!negative) with
      | none => none
      | some flags => flagLetters? fuel (c :: seen) negative flags rest

def isNameChar (first : Bool) (c : Char) : Bool :=
  let letter := Unicode.alphabeticRanges.contains c.toNat
  c == '_' || letter
    || (!first && (['.', '[', ']'].contains c || Unicode.numericRanges.contains c.toNat))

/-- A group name up to its closing angle bracket. -/
def groupName? (rest : List Char) : Option (List Char × List Char) :=
  let name := rest.takeWhile (· ≠ '>')
  match name, rest.dropWhile (· ≠ '>') with
  | first :: others, '>' :: rest =>
    if isNameChar true first && others.all (isNameChar false) then some (name, rest) else none
  | _, _ => none

/-- What follows an opening parenthesis: a group, numbered or not, or a change of flags. -/
def group? (reader : Reader) (rest : List Char) : Option (Reader × List Char) :=
  let named (rest : List Char) : Option (Reader × List Char) := do
    let (name, rest) ← groupName? rest
    if reader.names.contains name then none
    else
      let reader := { reader with names := name :: reader.names }
      some (reader.openGroup reader.flags true, rest)
  match reader.flags.skip rest with
  | '?' :: '=' :: _ | '?' :: '!' :: _ | '?' :: '<' :: '=' :: _ | '?' :: '<' :: '!' :: _ => none
  | '?' :: 'P' :: '<' :: rest => named rest
  | '?' :: '<' :: rest => named rest
  | '?' :: rest => do
    let (flags, seen, rest) ← flagLetters? (rest.length + 1) [] false reader.flags rest
    match rest with
    | ')' :: rest =>
      if seen.isEmpty then none
      else some ({ reader with flags, parts := ⟨.empty, 0, false⟩ :: reader.parts }, rest)
    | ':' :: rest => some (reader.openGroup flags false, rest)
    | _ => none
  | rest => some (reader.openGroup reader.flags true, rest)

/-- Reads the part that starts with `c`. -/
def step? (reader : Reader) (c : Char) (rest : List Char) : Option (Reader × List Char) :=
  match c with
  | '(' => group? reader rest
  | ')' => reader.closeGroup?.map (·, rest)
  | '|' => some (reader.nextBranch, rest)
  | '[' => do
    let (result, rest) ← Bracket.class? reader.flags rest
    some (reader.push (.chars result.set) result.depth, rest)
  | '?' => (reader.repeatLast? 0 (some 1)).map (·, skipLazy rest)
  | '*' => (reader.repeatLast? 0 none).map (·, skipLazy rest)
  | '+' => (reader.repeatLast? 1 none).map (·, skipLazy rest)
  | '\x7b' => do
    let (least, most, rest) ← bounds? reader.flags rest
    let reader ← reader.repeatLast? least most
    some (reader, rest)
  | '\\' => do
    let (expr, rest) ← escape? reader.flags rest
    some (reader.push expr 0, rest)
  | '.' => reader.flags.dot?.map fun set => (reader.push (.chars set) 0, rest)
  | '^' => some (reader.push (.assertion reader.flags.lineStart) 0, rest)
  | '$' => some (reader.push (.assertion reader.flags.lineEnd) 0, rest)
  | c => (literal? reader.flags c false).map fun expr => (reader.push expr 0, rest)

/-- Reads a pattern to its end; `fuel` bounds the number of parts. -/
def read? : (fuel : Nat) → Reader → List Char → Option Expr
  | 0, _, _ => none
  | fuel + 1, reader, chars =>
    match reader.flags.skip chars with
    | [] =>
      let content := reader.content
      if reader.groups.isEmpty ∧ content.depth ≤ nestingLimit then some content.expr else none
    | c :: rest =>
      match step? reader c rest with
      | none => none
      | some (reader, rest) => read? fuel reader rest

/-- The expression that a pattern text stands for. -/
def parse? (text : List Char) : Option Expr := read? (text.length + 1) .start text

end Forms.Pattern
