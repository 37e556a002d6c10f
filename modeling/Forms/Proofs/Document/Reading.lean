import Forms.Decode.Text
import Forms.Proofs.Document.Tokens
import Forms.Proofs.Numbers.Returning

/-!
# A printed value reads back

The machine that reads tokens places a value when it has seen all tokens of it, whatever containers
are open around it.  So a printed value is read as it was written, and only two things can come
between the two: the limit on nesting, and the numbers, which may be rounded when they are read.  A
value whose numbers come back comes back exactly when it keeps to the limit.
-/

namespace Forms

open Token

namespace Written

mutual
/-- A value as it is written. -/
def ofJson : Json → Written
  | .null => .null
  | .bool flag => .bool flag
  | .number value => .number value.literal
  | .string text => .string (some text)
  | .array items => .array (ofItems items)
  | .object members => .object (ofMembers members)

def ofItems : List Json → List Written
  | [] => []
  | item :: items => ofJson item :: ofItems items

def ofMembers : List (String × Json) → List (Option String × Written)
  | [] => []
  | (key, value) :: members => (some key, ofJson value) :: ofMembers members
end

namespace Machine

/-! ## Tokens of a value -/

/-- The machine takes the tokens of the value and places it. -/
def Reads (value : Json) : Prop :=
  ∀ enclosing expecting rest, expecting = .value ∨ expecting = .valueOrClose →
    (value.tokens ++ rest).foldlM step ⟨enclosing, expecting⟩ =
      (place (ofJson value) enclosing).bind (rest.foldlM step ·)

theorem foldlM_itemTokens {items : List Json} (hitems : ∀ item ∈ items, Reads item)
    (seen : List Written) (outer : List Open) (rest : List Token) :
    (Json.itemTokens items ++ rest).foldlM step ⟨.array seen :: outer, .commaOrClose⟩ =
      (place (.array (seen.reverse ++ ofItems items)) outer).bind (rest.foldlM step ·) := by
  induction items generalizing seen with
  | nil =>
      rw [ofItems, List.append_nil]
      rfl
  | cons item items ih =>
      have hitem := hitems item List.mem_cons_self (.array seen :: outer) .value
        (Json.itemTokens items ++ rest) (Or.inl rfl)
      have hrest := ih (fun other hother => hitems other (List.mem_cons_of_mem _ hother))
        (ofJson item :: seen)
      rw [Json.itemTokens, List.cons_append, List.foldlM_cons, List.append_assoc]
      calc
        _ = (place (ofJson item) (.array seen :: outer)).bind
            ((Json.itemTokens items ++ rest).foldlM step ·) := hitem
        _ = (Json.itemTokens items ++ rest).foldlM step
            ⟨.array (ofJson item :: seen) :: outer, .commaOrClose⟩ := rfl
        _ = _ := by rw [hrest, List.reverse_cons, List.append_assoc, ofItems, List.singleton_append]

theorem foldlM_memberTokens {members : List (String × Json)}
    (hmembers : ∀ member ∈ members, Reads member.2) (seen : List (Option String × Written))
    (outer : List Open) (rest : List Token) :
    (Json.memberTokens members ++ rest).foldlM step ⟨.object seen :: outer, .commaOrClose⟩ =
      (place (.object (seen.reverse ++ ofMembers members)) outer).bind (rest.foldlM step ·) := by
  induction members generalizing seen with
  | nil =>
      rw [ofMembers, List.append_nil]
      rfl
  | cons member members ih =>
      obtain ⟨key, value⟩ := member
      have hvalue := hmembers (key, value) List.mem_cons_self (.member seen (some key) :: outer)
        .value (Json.memberTokens members ++ rest) (Or.inl rfl)
      have hrest := ih (fun other hother => hmembers other (List.mem_cons_of_mem _ hother))
        ((some key, ofJson value) :: seen)
      rw [Json.memberTokens, List.cons_append, List.cons_append, List.cons_append,
        List.foldlM_cons, List.append_assoc]
      calc
        _ = (place (ofJson value) (.member seen (some key) :: outer)).bind
            ((Json.memberTokens members ++ rest).foldlM step ·) := hvalue
        _ = (Json.memberTokens members ++ rest).foldlM step
            ⟨.object ((some key, ofJson value) :: seen) :: outer, .commaOrClose⟩ := rfl
        _ = _ := by
          rw [hrest, List.reverse_cons, List.append_assoc, ofMembers, List.singleton_append]

theorem reads (value : Json) : Reads value := by
  induction value using Json.induct with
  | null | bool | number | string =>
      intro enclosing expecting rest hexpecting
      rcases hexpecting with rfl | rfl <;> rfl
  | array items ih =>
      intro enclosing expecting rest hexpecting
      cases items with
      | nil => rcases hexpecting with rfl | rfl <;> rfl
      | cons item items =>
          have hitem := ih item List.mem_cons_self (.array [] :: enclosing) .valueOrClose
            (Json.itemTokens items ++ rest) (Or.inr rfl)
          have hitems := foldlM_itemTokens
            (fun other hother => ih other (List.mem_cons_of_mem _ hother)) [ofJson item] enclosing
            rest
          have hopen : step ⟨enclosing, expecting⟩ .openBracket =
              some ⟨.array [] :: enclosing, .valueOrClose⟩ := by
            rcases hexpecting with rfl | rfl <;> rfl
          rw [Json.tokens, List.cons_append, List.foldlM_cons, List.append_assoc, hopen]
          exact hitem.trans hitems
  | object members ih =>
      intro enclosing expecting rest hexpecting
      cases members with
      | nil => rcases hexpecting with rfl | rfl <;> rfl
      | cons member members =>
          obtain ⟨key, value⟩ := member
          have hvalue := ih (key, value) List.mem_cons_self
            (.member [] (some key) :: enclosing) .value (Json.memberTokens members ++ rest)
            (Or.inl rfl)
          have hmembers := foldlM_memberTokens
            (fun other hother => ih other (List.mem_cons_of_mem _ hother))
            [(some key, ofJson value)] enclosing rest
          have hopen : step ⟨enclosing, expecting⟩ .openBrace =
              some ⟨.object [] :: enclosing, .keyOrClose⟩ := by
            rcases hexpecting with rfl | rfl <;> rfl
          rw [Json.tokens, List.cons_append, List.cons_append, List.cons_append,
            List.foldlM_cons, List.append_assoc, hopen]
          exact hvalue.trans hmembers

end Machine

/-- The tokens of a value are read as the value was written, whatever the layout of the text. -/
theorem ofText?_of_scan {value : Json} {text : String}
    (hscan : scan text.toList = some value.tokens) : ofText? text = some (ofJson value) := by
  have hread := Machine.reads value [] .value [] (Or.inl rfl)
  rw [List.append_nil] at hread
  rw [ofText?, hscan]
  change (value.tokens.foldlM Machine.step Machine.start).bind Machine.result? = _
  rw [Machine.start, hread]
  rfl

/-- A printed value is read as it was written. -/
theorem ofText?_pretty (value : Json) : ofText? value.pretty = some (ofJson value) :=
  ofText?_of_scan value.scan_pretty

end Written

/-! ## Numbers that were rounded -/

namespace Json

mutual
/-- The value with every number as its printed form is read; none when one of them is refused. -/
def reread? : Json → Option Json
  | .number value => value.reread?.map .number
  | .array items => (rereadItems? items).map .array
  | .object members => (rereadMembers? members).map .object
  | .null => some .null
  | .bool flag => some (.bool flag)
  | .string text => some (.string text)

def rereadItems? : List Json → Option (List Json)
  | [] => some []
  | item :: items => do
    let item ← reread? item
    let items ← rereadItems? items
    some (item :: items)

def rereadMembers? : List (String × Json) → Option (List (String × Json))
  | [] => some []
  | (key, value) :: members => do
    let value ← reread? value
    let members ← rereadMembers? members
    some ((key, value) :: members)
end

/-- Every number in the value comes back from its printed form. -/
def ReadsBack (value : Json) : Prop := value.reread? = some value

instance (value : Json) : Decidable value.ReadsBack := inferInstanceAs (Decidable (_ = _))

theorem readsBack_array {items : List Json} (hitems : ∀ item ∈ items, item.ReadsBack) :
    (Json.array items).ReadsBack := by
  have hall : rereadItems? items = some items := by
    induction items with
    | nil => rfl
    | cons item items ih =>
        rw [rereadItems?, hitems item List.mem_cons_self,
          ih fun other hother => hitems other (List.mem_cons_of_mem _ hother)]
        rfl
  rw [ReadsBack, reread?, hall]
  rfl

theorem readsBack_object {members : List (String × Json)}
    (hmembers : ∀ member ∈ members, member.2.ReadsBack) : (Json.object members).ReadsBack := by
  have hall : rereadMembers? members = some members := by
    induction members with
    | nil => rfl
    | cons member members ih =>
        obtain ⟨key, value⟩ := member
        have hvalue : value.reread? = some value := hmembers (key, value) List.mem_cons_self
        rw [rereadMembers?, hvalue,
          ih fun other hother => hmembers other (List.mem_cons_of_mem _ hother)]
        rfl
  rw [ReadsBack, reread?, hall]
  rfl

end Json

namespace Written

/-! ## The limit on nesting -/

theorem itemsToJson?_ofItems {items : List Json} {depth : Nat}
    (hitems : ∀ item ∈ items, toJson? depth (ofJson item) =
      if item.depth ≤ depth then item.reread? else none) :
    itemsToJson? depth (ofItems items) =
      if Json.depthItems items ≤ depth then Json.rereadItems? items else none := by
  induction items with
  | nil => rfl
  | cons item items ih =>
      rw [ofItems, itemsToJson?, hitems item List.mem_cons_self,
        ih fun other hother => hitems other (List.mem_cons_of_mem _ hother), Json.depthItems,
        Json.rereadItems?]
      by_cases hitem : item.depth ≤ depth <;> by_cases hrest : Json.depthItems items ≤ depth <;>
        simp [hitem, hrest]

theorem membersToJson?_ofMembers {members : List (String × Json)} {depth : Nat}
    (hmembers : ∀ member ∈ members, toJson? depth (ofJson member.2) =
      if member.2.depth ≤ depth then member.2.reread? else none) :
    membersToJson? depth (ofMembers members) =
      if Json.depthMembers members ≤ depth then Json.rereadMembers? members else none := by
  induction members with
  | nil => rfl
  | cons member members ih =>
      obtain ⟨key, value⟩ := member
      rw [ofMembers, membersToJson?, hmembers (key, value) List.mem_cons_self,
        ih fun other hother => hmembers other (List.mem_cons_of_mem _ hother), Json.depthMembers,
        Json.rereadMembers?]
      by_cases hvalue : value.depth ≤ depth <;>
        by_cases hrest : Json.depthMembers members ≤ depth <;> simp [hvalue, hrest]

/-- What was written is refused when it is nested too deep, and otherwise comes back with its numbers
read anew. -/
theorem toJson?_ofJson (value : Json) (depth : Nat) :
    toJson? depth (ofJson value) = if value.depth ≤ depth then value.reread? else none := by
  induction value using Json.induct generalizing depth with
  | null | bool | string | number => rfl
  | array items ih =>
      rw [ofJson, toJson?, Json.depth, Json.reread?]
      cases depth with
      | zero => simp
      | succ depth =>
          rw [if_neg (by simp), Nat.add_sub_cancel,
            itemsToJson?_ofItems fun item hitem => ih item hitem depth]
          by_cases hdepth : Json.depthItems items ≤ depth <;> simp [hdepth]
  | object members ih =>
      rw [ofJson, toJson?, Json.depth, Json.reread?]
      cases depth with
      | zero => simp
      | succ depth =>
          rw [if_neg (by simp), Nat.add_sub_cancel,
            membersToJson?_ofMembers fun member hmember => ih member hmember depth]
          by_cases hdepth : Json.depthMembers members ≤ depth <;> simp [hdepth]

end Written

/-! ## What a reader asks for -/

namespace Shape

/-- A reader of this shape asks for all of the value. -/
def Keeps (shape : Shape) (value : Json) : Prop :=
  (Written.ofJson value).select shape = Written.ofJson value

variable {shape : Shape}

theorem Keeps.array {items : List Json} (hitems : ∀ place, ∀ item ∈ items,
    (shape.item place).Keeps item) : shape.Keeps (.array items) := by
  have hselect : ∀ place, Written.selectItems shape place (Written.ofItems items) =
      Written.ofItems items := by
    induction items with
    | nil => exact fun _ => rfl
    | cons item items ih =>
        intro place
        rw [Written.ofItems, Written.selectItems, hitems place item List.mem_cons_self,
          ih fun place other hother => hitems place other (List.mem_cons_of_mem _ hother)]
  rw [Keeps, Written.ofJson, Written.select, hselect]

theorem Keeps.object {members : List (String × Json)} (hmembers : ∀ member ∈ members,
    ∃ inner, shape.member? member.1 = some inner ∧ inner.Keeps member.2) :
    shape.Keeps (.object members) := by
  have hselect : Written.selectMembers shape (Written.ofMembers members) =
      Written.ofMembers members := by
    induction members with
    | nil => rfl
    | cons member members ih =>
        obtain ⟨key, value⟩ := member
        obtain ⟨inner, hinner, hvalue⟩ := hmembers (key, value) List.mem_cons_self
        rw [Written.ofMembers, Written.selectMembers]
        simp only at hinner
        rw [hinner]
        simp only [ih fun other hother => hmembers other (List.mem_cons_of_mem _ hother)]
        rw [hvalue]
  rw [Keeps, Written.ofJson, Written.select, hselect]

theorem keeps_whole (value : Json) : whole.Keeps value := by
  induction value using Json.induct with
  | null | bool | number | string => rfl
  | array items ih => exact .array fun _ item hitem => ih item hitem
  | object members ih => exact .object fun member hmember => ⟨whole, rfl, ih member hmember⟩

end Shape

namespace Decode

variable {α : Type}

/-- What a reader of this shape takes from a text. -/
def asked? (shape : Shape) (text : String) : Option Json :=
  (Written.ofText? text).bind fun written => (written.select shape).toJson? textDepth

theorem fromText_eq_ok_iff {shape : Shape} {decoder : Decoder α} {text : String} {result : α} :
    fromText shape decoder text = .ok result ↔
      ∃ value, asked? shape text = some value ∧ decoder .text value = .ok result := by
  rw [fromText, asked?]
  cases Written.ofText? text with
  | none => simp
  | some written =>
      simp only [Option.bind_some]
      cases (written.select shape).toJson? textDepth with
      | none => simp
      | some value =>
          simp only [Option.some.injEq, exists_eq_left']
          cases decoder .text value with
          | ok read => simp
          | error error =>
              cases (written.toJson? textDepth).isSome <;> simp

theorem asked?_pretty {shape : Shape} {value : Json} (hshape : shape.Keeps value) :
    asked? shape value.pretty = if value.depth ≤ textDepth then value.reread? else none := by
  rw [asked?, Written.ofText?_pretty, Option.bind_some, hshape, Written.toJson?_ofJson]

/-- A printed value is read by a decoder that asks for all of it, unless it is nested too deep or one
of its numbers is refused. -/
theorem fromText_pretty {shape : Shape} {value : Json} (hshape : shape.Keeps value)
    (decoder : Decoder α) :
    fromText shape decoder value.pretty =
      if value.depth ≤ textDepth then
        value.reread?.elim (.error .malformedText) fun read =>
          (decoder .text read).mapError .unreadable
      else .error .malformedText := by
  rw [Shape.Keeps] at hshape
  rw [fromText, Written.ofText?_pretty]
  simp only [hshape, Written.toJson?_ofJson]
  by_cases hdepth : value.depth ≤ textDepth
  · simp only [hdepth, if_true]
    cases value.reread? with
    | none => rfl
    | some read =>
        simp only [Option.isSome_some, if_true, Option.elim_some]
        cases decoder .text read <;> rfl
  · simp only [hdepth, if_false]

end Decode

end Forms
