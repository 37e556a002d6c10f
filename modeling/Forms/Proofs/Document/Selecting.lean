import Forms.Proofs.Document.Reading
import Forms.Proofs.Reading.Respelling

/-!
# What a reader takes from a text

A text is one of a value when it can be read as the value with room enough for its nesting, however
it is spaced and its numbers and strings are spelled.  A reader skims the members that it does not
ask for, so what it takes from the text is what is left of the value without them.
-/

namespace Forms

namespace Json

/-! ## Members that are asked for -/

mutual
/-- Drops the members that no reader of this shape asks for. -/
def select (shape : Shape) : Json → Json
  | .array items => .array (selectItems shape 0 items)
  | .object members => .object (selectMembers shape members)
  | other => other

def selectItems (shape : Shape) (position : Nat) : List Json → List Json
  | [] => []
  | item :: items => select (shape.item position) item :: selectItems shape (position + 1) items

def selectMembers (shape : Shape) : List (String × Json) → List (String × Json)
  | [] => []
  | (key, value) :: members =>
    match shape.member? key with
    | some inner => (key, select inner value) :: selectMembers shape members
    | none => selectMembers shape members
end

theorem selectItems_each (item : Shape) (position : Nat) (items : List Json) :
    selectItems (.each item) position items = items.map (select item) := by
  induction items generalizing position with
  | nil => rfl
  | cons value items ih => rw [selectItems, ih, List.map_cons, Shape.item]

theorem select_whole (value : Json) : value.select .whole = value := by
  induction value using induct with
  | null | bool | number | string => rfl
  | array items ih =>
      have hitems : ∀ position, selectItems .whole position items = items := by
        induction items with
        | nil => exact fun _ => rfl
        | cons item items ihs =>
            intro position
            rw [selectItems, ihs fun other hother => ih other (List.mem_cons_of_mem _ hother)]
            exact congrArg (· :: items) (ih item List.mem_cons_self)
      rw [select, hitems]
  | object members ih =>
      have hmembers : selectMembers .whole members = members := by
        induction members with
        | nil => rfl
        | cons member members ihs =>
            obtain ⟨key, value⟩ := member
            have hrest := ihs fun other hother => ih other (List.mem_cons_of_mem _ hother)
            rw [selectMembers]
            change (key, select .whole value) :: selectMembers .whole members = _
            rw [hrest, ih (key, value) List.mem_cons_self]
      rw [select, hmembers]

/-- Items that stay related when they are taken stay related. -/
theorem ItemsRelated.select_each {related : Json → Json → Prop} {item : Shape}
    (hselect : ∀ value other, related value other → related (value.select item) (other.select item))
    {before after : Json} (h : ItemsRelated related before after) :
    ItemsRelated related (before.select (.each item)) (after.select (.each item)) := by
  rcases h with rfl | ⟨items, others, rfl, rfl, hitems⟩
  · exact .inl rfl
  · rw [Json.select, Json.select, selectItems_each, selectItems_each]
    refine .inr ⟨_, _, rfl, rfl, ?_⟩
    rw [List.forall₂_map_left_iff, List.forall₂_map_right_iff]
    exact hitems.imp hselect

end Json

namespace Entries

variable {shape : Shape} {first second : String}

theorem valuesAt_selectMembers (members : List (String × Json)) (key : String) :
    valuesAt (Json.selectMembers shape members) key =
      match shape.member? key with
      | some inner => (valuesAt members key).map (Json.select inner)
      | none => [] := by
  induction members with
  | nil => cases shape.member? key <;> rfl
  | cons member members ih =>
      obtain ⟨own, value⟩ := member
      rw [Json.selectMembers, valuesAt_cons]
      by_cases hkey : key = own
      · subst hkey
        cases hinner : shape.member? key with
        | none => simpa [hinner] using ih
        | some inner => simpa [hinner, valuesAt_cons] using ih
      · cases shape.member? own with
        | none => simpa [hkey] using ih
        | some inner => simpa [valuesAt_cons, hkey] using ih

/-- Members whose values stay related when they are taken stay related. -/
theorem Related.select {related : String → Json → Json → Prop}
    {before after : List (String × Json)}
    (hselect : ∀ key inner, shape.member? key = some inner → ∀ value other,
      related key value other → related key (value.select inner) (other.select inner))
    (h : Related related before after) :
    Related related (Json.selectMembers shape before) (Json.selectMembers shape after) := by
  intro key
  rw [valuesAt_selectMembers, valuesAt_selectMembers]
  split
  · rename_i inner hinner
    rw [List.forall₂_map_left_iff, List.forall₂_map_right_iff]
    exact (h key).imp (hselect key inner hinner)
  · exact .nil

theorem selectMembers_exchange (hsame : shape.member? first = shape.member? second)
    (members : List (String × Json)) :
    Json.selectMembers shape (exchange first second members) =
      exchange first second (Json.selectMembers shape members) := by
  have hnames (key : String) : shape.member? (Equiv.swap first second key) = shape.member? key := by
    by_cases hfirst : key = first
    · rw [hfirst, Equiv.swap_apply_left, hsame]
    · by_cases hsecond : key = second
      · rw [hsecond, Equiv.swap_apply_right, hsame]
      · rw [Equiv.swap_apply_of_ne_of_ne hfirst hsecond]
  induction members with
  | nil => rfl
  | cons member members ih =>
      obtain ⟨key, value⟩ := member
      rw [exchange, List.map_cons, ← exchange, Json.selectMembers, Json.selectMembers, hnames, ih]
      cases shape.member? key <;> rfl

/-- A reader that asks for both names alike takes the same under either. -/
theorem Respelled.select {before after : List (String × Json)}
    (hsame : shape.member? first = shape.member? second)
    (h : Respelled first second before after) :
    Respelled first second (Json.selectMembers shape before) (Json.selectMembers shape after) := by
  rcases h with rfl | ⟨hunused, rfl⟩
  · exact .inl rfl
  · refine .inr ⟨hunused.imp ?_ ?_, selectMembers_exchange hsame before⟩
    all_goals
      intro hnone
      rw [valuesAt_selectMembers, hnone]
      split <;> rfl

end Entries

namespace Written

/-! ## Texts of a value -/

/-- What is written is the value, with room enough for its nesting. -/
def Denotes (written : Written) (value : Json) : Prop :=
  ∃ depth, written.toJson? depth = some value

theorem itemsToJson?_eq_some_iff {depth : Nat} {items : List Written} {values : List Json} :
    itemsToJson? depth items = some values ↔
      List.Forall₂ (fun item value => toJson? depth item = some value) items values := by
  induction items generalizing values with
  | nil => simp [itemsToJson?, eq_comm]
  | cons item items ih =>
      simp only [itemsToJson?, List.forall₂_cons_left_iff, ← ih]
      cases toJson? depth item <;> cases itemsToJson? depth items <;> simp [eq_comm]

theorem membersToJson?_eq_some_iff {depth : Nat} {members : List (Option String × Written)}
    {values : List (String × Json)} :
    membersToJson? depth members = some values ↔
      List.Forall₂ (fun member value => member.1 = some value.1 ∧
        toJson? depth member.2 = some value.2) members values := by
  induction members generalizing values with
  | nil => simp [membersToJson?, eq_comm]
  | cons member members ih =>
      obtain ⟨key, written⟩ := member
      simp only [membersToJson?, List.forall₂_cons_left_iff, ← ih]
      cases key <;> cases toJson? depth written <;> cases membersToJson? depth members <;>
        simp [eq_comm]

theorem toJson?_eq_array_iff {written : Written} {depth : Nat} {values : List Json} :
    written.toJson? depth = some (.array values) ↔
      ∃ items room, written = .array items ∧ depth = room + 1 ∧
        List.Forall₂ (fun item value => toJson? room item = some value) items values := by
  cases depth <;> cases written <;> simp [toJson?, itemsToJson?_eq_some_iff]

theorem toJson?_eq_object_iff {written : Written} {depth : Nat} {values : List (String × Json)} :
    written.toJson? depth = some (.object values) ↔
      ∃ members room, written = .object members ∧ depth = room + 1 ∧
        List.Forall₂ (fun member value => member.1 = some value.1 ∧
          toJson? room member.2 = some value.2) members values := by
  cases depth <;> cases written <;> simp [toJson?, membersToJson?_eq_some_iff]

/-- Any room that is enough for the nesting will do. -/
theorem toJson?_of_depth_le {written : Written} {value : Json} {depth room : Nat}
    (h : written.toJson? depth = some value) (hroom : value.depth ≤ room) :
    written.toJson? room = some value := by
  induction value using Json.induct generalizing written depth room with
  | null | bool | number | string => cases written <;> simp_all [toJson?]
  | array values ih =>
      obtain ⟨items, inner, rfl, -, hitems⟩ := toJson?_eq_array_iff.mp h
      obtain ⟨room, rfl⟩ : ∃ outer, room = outer + 1 := Nat.exists_eq_add_one.mpr (by
        rw [Json.depth] at hroom
        omega)
      rw [Json.depth, Nat.succ_le_succ_iff, Json.depthItems_le_iff] at hroom
      refine toJson?_eq_array_iff.mpr ⟨items, room, rfl, rfl, ?_⟩
      exact Outcome.forall₂_imp_of_mem hitems fun value hvalue item hitem =>
        ih value hvalue hitem (hroom value hvalue)
  | object values ih =>
      obtain ⟨members, inner, rfl, -, hmembers⟩ := toJson?_eq_object_iff.mp h
      obtain ⟨room, rfl⟩ : ∃ outer, room = outer + 1 := Nat.exists_eq_add_one.mpr (by
        rw [Json.depth] at hroom
        omega)
      rw [Json.depth, Nat.succ_le_succ_iff, Json.depthMembers_le_iff] at hroom
      refine toJson?_eq_object_iff.mpr ⟨members, room, rfl, rfl, ?_⟩
      exact Outcome.forall₂_imp_of_mem hmembers fun value hvalue member hmember =>
        ⟨hmember.1, ih value hvalue hmember.2 (hroom value hvalue)⟩

/-- What was read kept to the room that there was. -/
theorem depth_le_of_toJson? {written : Written} {value : Json} {depth : Nat}
    (h : written.toJson? depth = some value) : value.depth ≤ depth := by
  induction value using Json.induct generalizing written depth with
  | null | bool | number | string => exact Nat.zero_le depth
  | array values ih =>
      obtain ⟨items, room, rfl, rfl, hitems⟩ := toJson?_eq_array_iff.mp h
      rw [Json.depth, Nat.succ_le_succ_iff, Json.depthItems_le_iff]
      intro value hvalue
      obtain ⟨item, -, hitem⟩ := Outcome.exists_mem_of_forall₂ hitems hvalue
      exact ih value hvalue hitem
  | object values ih =>
      obtain ⟨members, room, rfl, rfl, hmembers⟩ := toJson?_eq_object_iff.mp h
      rw [Json.depth, Nat.succ_le_succ_iff, Json.depthMembers_le_iff]
      intro value hvalue
      obtain ⟨member, -, hmember⟩ := Outcome.exists_mem_of_forall₂ hmembers hvalue
      exact ih value hvalue hmember.2

namespace Denotes

variable {written : Written} {value : Json}

theorem ofJson {value : Json} (hnumbers : value.ReadsBack) : (Written.ofJson value).Denotes value :=
  ⟨value.depth, by rw [toJson?_ofJson, if_pos le_rfl, hnumbers]⟩

/-- What is written is read as its value exactly when there is room for it. -/
theorem toJson?_eq_some_iff (h : written.Denotes value) {room : Nat} {other : Json} :
    written.toJson? room = some other ↔ value.depth ≤ room ∧ other = value := by
  obtain ⟨depth, hvalue⟩ := h
  constructor
  · intro hother
    have hroom := depth_le_of_toJson? hother
    have hmost := toJson?_of_depth_le hvalue (le_max_left value.depth other.depth)
    rw [toJson?_of_depth_le hother (le_max_right value.depth other.depth)] at hmost
    cases Option.some.inj hmost
    exact ⟨hroom, rfl⟩
  · rintro ⟨hroom, rfl⟩
    exact toJson?_of_depth_le hvalue hroom

end Denotes

/-- What is taken from a text of a value is what is taken from the value. -/
theorem toJson?_select {written : Written} {value : Json} {depth : Nat}
    (h : written.toJson? depth = some value) (shape : Shape) :
    (written.select shape).toJson? depth = some (value.select shape) := by
  induction value using Json.induct generalizing written depth shape with
  | null | bool | number | string => cases written <;> simp_all [toJson?, select, Json.select]
  | array values ih =>
      obtain ⟨items, room, rfl, rfl, hitems⟩ := toJson?_eq_array_iff.mp h
      rw [select, Json.select, toJson?_eq_array_iff]
      refine ⟨_, room, rfl, rfl, ?_⟩
      clear h
      generalize 0 = position
      induction hitems generalizing position with
      | nil => exact .nil
      | cons hitem _ ihs =>
          refine .cons (ih _ List.mem_cons_self hitem _) (ihs ?_ (position + 1))
          exact fun other hother => ih other (List.mem_cons_of_mem _ hother)
  | object values ih =>
      obtain ⟨members, room, rfl, rfl, hmembers⟩ := toJson?_eq_object_iff.mp h
      rw [select, Json.select, toJson?_eq_object_iff]
      refine ⟨_, room, rfl, rfl, ?_⟩
      clear h
      induction hmembers with
      | nil => exact .nil
      | @cons member value members values hmember _ ihs =>
          obtain ⟨hkey, hvalue⟩ := hmember
          have hrest := ihs fun other hother => ih other (List.mem_cons_of_mem _ hother)
          obtain ⟨key, written⟩ := member
          obtain ⟨own, value⟩ := value
          cases hkey
          rw [selectMembers, Json.selectMembers]
          cases shape.member? own with
          | none => exact hrest
          | some inner => exact .cons ⟨rfl, ih _ List.mem_cons_self hvalue inner⟩ hrest

/-- A text of a value has in it what is asked for of the value. -/
theorem Denotes.select {written : Written} {value : Json} (h : written.Denotes value)
    (shape : Shape) : (written.select shape).Denotes (value.select shape) :=
  h.imp fun _ hvalue => toJson?_select hvalue shape

end Written

/-- A text of a value is read by reading what is asked for of it, unless that nests too deep. -/
theorem Decode.fromText_eq_ok_iff_of_denotes {α : Type} {shape : Shape} {decoder : Decoder α}
    {text : String} {written : Written} {value : Json} (htext : Written.ofText? text = some written)
    (hwritten : written.Denotes value) {result : α} :
    fromText shape decoder text = .ok result ↔
      (value.select shape).depth ≤ textDepth ∧ decoder .text (value.select shape) = .ok result := by
  rw [fromText_eq_ok_iff, asked?, htext, Option.bind_some]
  simp only [(hwritten.select shape).toJson?_eq_some_iff]
  constructor
  · rintro ⟨_, ⟨hdepth, rfl⟩, hread⟩
    exact ⟨hdepth, hread⟩
  · rintro ⟨hdepth, hread⟩
    exact ⟨_, ⟨hdepth, rfl⟩, hread⟩

end Forms
