import Forms.Json.Token
import Forms.Json.Value

/-!
# JSON text as it is written

`Written` is a value before anything is decided about it: members stand in written order, repeated
keys are all there, and a number or a string may be one that no value holds.  The tree is built by a
machine that takes the tokens one by one and keeps the containers that are still open.
-/

namespace Forms

inductive Written where
  | null
  | bool (flag : Bool)
  | number (literal : NumberLiteral)
  | string (text : Option String)
  | array (items : List Written)
  | object (members : List (Option String × Written))
deriving Inhabited

namespace Written

/-- A container whose closing bracket has not come yet; what it holds so far, latest first. -/
inductive Open where
  | array (items : List Written)
  | object (members : List (Option String × Written))
  | member (members : List (Option String × Written)) (key : Option String)

/-- What may come next. -/
inductive Expecting where
  | value
  | valueOrClose
  | key
  | keyOrClose
  | colon
  | commaOrClose
  | finished (result : Written)

structure Machine where
  enclosing : List Open
  expecting : Expecting

namespace Machine

def start : Machine := ⟨[], .value⟩

/-- Puts a complete value into the innermost open container, or ends the text with it. -/
def place (value : Written) : List Open → Option Machine
  | [] => some ⟨[], .finished value⟩
  | .array items :: outer => some ⟨.array (value :: items) :: outer, .commaOrClose⟩
  | .member members key :: outer => some ⟨.object ((key, value) :: members) :: outer, .commaOrClose⟩
  | .object _ :: _ => none

def close : Token → List Open → Option Machine
  | .closeBracket, .array items :: outer => place (.array items.reverse) outer
  | .closeBrace, .object members :: outer => place (.object members.reverse) outer
  | _, _ => none

/-- A token that starts a value. -/
def openValue (token : Token) (enclosing : List Open) : Option Machine :=
  match token with
  | .null => place .null enclosing
  | .bool flag => place (.bool flag) enclosing
  | .number literal => place (.number literal) enclosing
  | .string text => place (.string text) enclosing
  | .openBracket => some ⟨.array [] :: enclosing, .valueOrClose⟩
  | .openBrace => some ⟨.object [] :: enclosing, .keyOrClose⟩
  | _ => none

def openKey (token : Token) (enclosing : List Open) : Option Machine :=
  match token, enclosing with
  | .string key, .object members :: outer => some ⟨.member members key :: outer, .colon⟩
  | _, _ => none

def step (machine : Machine) (token : Token) : Option Machine :=
  match machine.expecting, token with
  | .value, token => openValue token machine.enclosing
  | .valueOrClose, .closeBracket => close .closeBracket machine.enclosing
  | .valueOrClose, token => openValue token machine.enclosing
  | .key, token => openKey token machine.enclosing
  | .keyOrClose, .closeBrace => close .closeBrace machine.enclosing
  | .keyOrClose, token => openKey token machine.enclosing
  | .colon, .colon => some ⟨machine.enclosing, .value⟩
  | .colon, _ => none
  | .commaOrClose, .comma =>
    match machine.enclosing with
    | .array _ :: _ => some ⟨machine.enclosing, .value⟩
    | .object _ :: _ => some ⟨machine.enclosing, .key⟩
    | _ => none
  | .commaOrClose, token => close token machine.enclosing
  | .finished _, _ => none

def result? (machine : Machine) : Option Written :=
  match machine.expecting with
  | .finished result => some result
  | _ => none

end Machine

/-- The value written by a whole text; none when the text is not well formed. -/
def ofText? (text : String) : Option Written := do
  let tokens ← Token.scan text.toList
  let machine ← tokens.foldlM Machine.step Machine.start
  machine.result?

mutual
/-- The value itself, members still in written order.  None when a number is too large, half of a
surrogate pair stands alone, or more than `depth` containers nest. -/
def toJson? (depth : Nat) : Written → Option Json
  | .null => some .null
  | .bool flag => some (.bool flag)
  | .number literal => (Number.ofLiteral? literal).map .number
  | .string text => text.map .string
  | .array items => if depth = 0 then none else (itemsToJson? (depth - 1) items).map .array
  | .object members => if depth = 0 then none else (membersToJson? (depth - 1) members).map .object

def itemsToJson? (depth : Nat) : List Written → Option (List Json)
  | [] => some []
  | item :: items => do
    let item ← toJson? depth item
    let items ← itemsToJson? depth items
    some (item :: items)

def membersToJson? (depth : Nat) : List (Option String × Written) → Option (List (String × Json))
  | [] => some []
  | (key, value) :: members => do
    let key ← key
    let value ← toJson? depth value
    let members ← membersToJson? depth members
    some ((key, value) :: members)
end

end Written

/-- Which members of a value a reader asks for.  All others are skimmed: they have to be well
formed, but no limit applies to them. -/
inductive Shape where
  /-- The whole value is read. -/
  | whole
  /-- Only the named members are read, by name or by position. -/
  | record (fields : List (String × Shape))
  /-- Every member is read, the named ones in their own shape. -/
  | openRecord (fields : List (String × Shape))
  /-- Every item is read in this shape. -/
  | each (item : Shape)
  /-- A visibility condition, whose rules are conditions again. -/
  | condition

namespace Shape

def fields? : Shape → Option (List (String × Shape))
  | .record fields | .openRecord fields => some fields
  | .condition => some [("field", .whole), ("operator", .whole), ("value", .whole),
      ("logic", .whole), ("rules", .each .condition)]
  | _ => none

/-- The shape of a named member; none when the member is skimmed. -/
def member? (shape : Shape) (key : String) : Option Shape :=
  match shape with
  | .openRecord fields => some ((fields.lookup key).getD .whole)
  | shape =>
    match shape.fields? with
    | some fields => fields.lookup key
    | none => some .whole

/-- The shape of the item at a position. -/
def item (shape : Shape) (position : Nat) : Shape :=
  match shape with
  | .each item => item
  | shape => ((shape.fields?.getD [])[position]?.map Prod.snd).getD .whole

end Shape

namespace Written

mutual
/-- Drops the members that no reader of this shape asks for. -/
def select (shape : Shape) : Written → Written
  | .array items => .array (selectItems shape 0 items)
  | .object members => .object (selectMembers shape members)
  | other => other

def selectItems (shape : Shape) (position : Nat) : List Written → List Written
  | [] => []
  | item :: items => select (shape.item position) item :: selectItems shape (position + 1) items

def selectMembers (shape : Shape) : List (Option String × Written) → List (Option String × Written)
  | [] => []
  | (none, value) :: members => (none, value) :: selectMembers shape members
  | (some key, value) :: members =>
    match shape.member? key with
    | some inner => (some key, select inner value) :: selectMembers shape members
    | none => selectMembers shape members
end

end Written

end Forms
