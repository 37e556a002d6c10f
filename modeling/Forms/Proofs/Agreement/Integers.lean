import Forms.Proofs.Agreement.Replacing
import Forms.Proofs.Numbers.Integers

/-!
# Comparing integers

Equality sees every integer as the double nearest to it.  Values that hold no other numbers are
therefore equal exactly when they are the same up to rounding, at every depth.  Where the integers
have at most fifty-three binary digits that is the same value; past that, neighbouring integers can be
taken for one another.
-/

namespace Forms

/-! ## Values of integers -/

namespace Json

/-- All numbers of the value are integers of this kind, and objects list their members in order. -/
inductive Integers (Kind : Int → Prop) : Json → Prop where
  | null : Integers Kind .null
  | bool (flag : Bool) : Integers Kind (.bool flag)
  | string (text : String) : Integers Kind (.string text)
  | number {value : Int} {inRange : Number.InRange value} (hvalue : Kind value) :
      Integers Kind (.number (.integer value inRange))
  | array {items : List Json} (hitems : ∀ item ∈ items, Integers Kind item) :
      Integers Kind (.array items)
  | object {members : Members} (hascending : Entries.Ascending members)
      (hmembers : ∀ member ∈ members, Integers Kind member.2) : Integers Kind (.object members)

/-- The two values are the same but for their integers, which are related one by one. -/
inductive SameUpTo (Related : Int → Int → Prop) : Json → Json → Prop where
  | null : SameUpTo Related .null .null
  | bool (flag : Bool) : SameUpTo Related (.bool flag) (.bool flag)
  | string (text : String) : SameUpTo Related (.string text) (.string text)
  | number {value other : Int} {inRange : Number.InRange value} {others : Number.InRange other}
      (hvalues : Related value other) :
      SameUpTo Related (.number (.integer value inRange)) (.number (.integer other others))
  | array {items others : List Json} (hlength : items.length = others.length)
      (hitems : ∀ pair ∈ items.zip others, SameUpTo Related pair.1 pair.2) :
      SameUpTo Related (.array items) (.array others)
  | object {members others : Members} (hlength : members.length = others.length)
      (hkeys : ∀ pair ∈ members.zip others, pair.1.1 = pair.2.1)
      (hvalues : ∀ pair ∈ members.zip others, SameUpTo Related pair.1.2 pair.2.2) :
      SameUpTo Related (.object members) (.object others)

variable {Kind OtherKind : Int → Prop} {left right : Json}

theorem Integers.distinctKeys (h : left.Integers Kind) : left.DistinctKeys := by
  induction h with
  | null => exact .null
  | bool flag => exact .bool flag
  | string text => exact .string text
  | number _ => exact .number _
  | array _ ih => exact .array ih
  | object hascending _ ih => exact .object hascending.nodup_keys ih

/-! ## Members side by side -/

theorem exists_mem_zip {α β : Type} {lefts : List α} {rights : List β}
    (hlength : lefts.length = rights.length) {left : α} (hleft : left ∈ lefts) :
    ∃ right, (left, right) ∈ lefts.zip rights := by
  obtain ⟨index, hindex, rfl⟩ := List.mem_iff_getElem.mp hleft
  refine ⟨rights[index], List.mem_iff_getElem.mpr ⟨index, ?_, List.getElem_zip⟩⟩
  rw [List.length_zip]
  omega

section

variable {members others : Members} (hmembers : Entries.Ascending members)
  (hothers : Entries.Ascending others)
include hmembers hothers

/-- Objects in order with the same keys have them in the same places. -/
theorem keys_eq (hlength : members.length = others.length)
    (hfound : ∀ member ∈ members, member.1 ∈ others.map Prod.fst) :
    members.map Prod.fst = others.map Prod.fst := by
  have hperm := perm_keys hmembers.nodup_keys hlength hfound
  have hsorted {entries : Members} (hascending : Entries.Ascending entries) :
      (entries.map Prod.fst).Pairwise (· < ·) := List.pairwise_map.mpr hascending
  exact hperm.symm.eq_of_pairwise (fun a b _ _ hab hba => absurd hab (lt_asymm hba))
    (hsorted hmembers) (hsorted hothers)

/-- What a member finds under its key stands in its own place. -/
theorem zip_of_found (hlength : members.length = others.length) (Related : Json → Json → Prop)
    (hfound : ∀ member ∈ members, ∃ other, others.get? member.1 = some other ∧
      Related member.2 other) :
    ∀ pair ∈ members.zip others, pair.1.1 = pair.2.1 ∧ Related pair.1.2 pair.2.2 := by
  have hkeys := keys_eq hmembers hothers hlength fun member hmember => by
    obtain ⟨other, hget, -⟩ := hfound member hmember
    exact List.mem_map.mpr ⟨_, Entries.mem_of_get?_eq_some hget, rfl⟩
  have hsame : List.Forall₂ (fun member other => member.1 = other.1) members others := by
    rw [← List.forall₂_map_right_iff, ← List.forall₂_map_left_iff, hkeys]
    exact List.forall₂_refl _
  rintro ⟨member, other⟩ hpair
  obtain ⟨hmember, hother⟩ := List.of_mem_zip hpair
  have hkey : member.1 = other.1 := (List.forall₂_iff_zip.mp hsame).2 hpair
  obtain ⟨held, hget, hrelated⟩ := hfound member hmember
  rw [hkey, hothers.get?_eq_some hother] at hget
  cases hget
  exact ⟨hkey, hrelated⟩

end

/-! ## Equality of values of integers -/

/-- Equality takes the second value for the first: they differ at most in integers that are rounded to
the same double. -/
def TakenFor (left right : Json) : Prop :=
  left.SameUpTo (fun value other => nearest value = nearest other) right

theorem takenFor_of_agrees (hleft : left.Integers Kind) (hright : right.Integers OtherKind)
    (hagrees : left.agrees right = true) : left.TakenFor right := by
  induction hleft generalizing right with
  | null =>
      cases null_agrees_iff.mp hagrees
      exact .null
  | bool flag =>
      cases bool_agrees_iff.mp hagrees
      exact .bool flag
  | string text =>
      cases string_agrees_iff.mp hagrees
      exact .string text
  | number _ =>
      obtain ⟨_, rfl, hunits⟩ := number_agrees_iff.mp hagrees
      cases hright with
      | number _ => exact .number ((Number.units_integer_eq_iff _ _).mp hunits)
  | array _ ih =>
      obtain ⟨others, rfl, hitems⟩ := array_agrees_iff.mp hagrees
      obtain ⟨hlength, hpairs⟩ := List.forall₂_iff_zip.mp hitems
      cases hright with
      | array hothers =>
          refine .array hlength fun pair hpair => ?_
          obtain ⟨hitem, hother⟩ := List.of_mem_zip hpair
          exact ih _ hitem (hothers _ hother) (hpairs hpair)
  | @object members hmembers _ ih =>
      obtain ⟨others, rfl, hlength, hfound⟩ := object_agrees_iff.mp hagrees
      cases hright with
      | object hothers hvalues =>
          have hpairs := zip_of_found hmembers hothers hlength
            (fun member other => member.agrees other = true) hfound
          refine .object hlength (fun pair hpair => (hpairs pair hpair).1) fun pair hpair => ?_
          obtain ⟨hmember, hother⟩ := List.of_mem_zip hpair
          exact ih _ hmember (hvalues _ hother) (hpairs pair hpair).2

theorem agrees_of_takenFor (hright : right.Integers OtherKind) (htaken : left.TakenFor right) :
    left.agrees right = true := by
  induction htaken with
  | null => exact null_agrees_iff.mpr rfl
  | bool flag => exact bool_agrees_iff.mpr rfl
  | string text => exact string_agrees_iff.mpr rfl
  | number hnearest =>
      exact number_agrees_iff.mpr ⟨_, rfl, (Number.units_integer_eq_iff _ _).mpr hnearest⟩
  | array hlength _ ih =>
      cases hright with
      | array hothers =>
          refine array_agrees_iff.mpr ⟨_, rfl, List.forall₂_iff_zip.mpr ⟨hlength, ?_⟩⟩
          intro item other hpair
          exact ih _ hpair (hothers _ (List.of_mem_zip hpair).2)
  | object hlength hkeys _ ih =>
      cases hright with
      | object hothers hvalues =>
          refine object_agrees_iff.mpr ⟨_, rfl, hlength, fun member hmember => ?_⟩
          obtain ⟨other, hpair⟩ := exists_mem_zip hlength hmember
          have hother := (List.of_mem_zip hpair).2
          refine ⟨other.2, ?_, ih _ hpair (hvalues _ hother)⟩
          rw [hkeys _ hpair]
          exact hothers.get?_eq_some hother

theorem agrees_iff_takenFor (hleft : left.Integers Kind) (hright : right.Integers OtherKind) :
    left.agrees right = true ↔ left.TakenFor right :=
  ⟨takenFor_of_agrees hleft hright, agrees_of_takenFor hright⟩

/-! ## Values that are told apart -/

/-- Values that differ at most in integers are the same where these integers are. -/
theorem SameUpTo.eq {Related : Int → Int → Prop} (h : left.SameUpTo Related right)
    (hleft : left.Integers Kind) (hright : right.Integers OtherKind)
    (hrelated : ∀ {value other}, Kind value → OtherKind other → Related value other →
      value = other) : left = right := by
  induction h with
  | null | bool | string => rfl
  | number hvalues =>
      cases hleft with
      | number hvalue =>
          cases hright with
          | number hother =>
              cases hrelated hvalue hother hvalues
              rfl
  | array hlength _ ih =>
      cases hleft with
      | array hitems =>
          cases hright with
          | array hothers =>
              congr 1
              rw [← List.forall₂_eq_eq_eq, List.forall₂_iff_zip]
              refine ⟨hlength, fun {item other} hpair => ?_⟩
              obtain ⟨hitem, hother⟩ := List.of_mem_zip hpair
              exact ih _ hpair (hitems _ hitem) (hothers _ hother)
  | object hlength hkeys _ ih =>
      cases hleft with
      | object _ hmembers =>
          cases hright with
          | object _ hothers =>
              congr 1
              rw [← List.forall₂_eq_eq_eq, List.forall₂_iff_zip]
              refine ⟨hlength, fun {member other} hpair => ?_⟩
              obtain ⟨hmember, hother⟩ := List.of_mem_zip hpair
              exact Prod.ext (hkeys _ hpair) (ih _ hpair (hmembers _ hmember) (hothers _ hother))

/-- Rounding keeps the values apart: a double has room for all their integers, or one of them holds
only integers below `2 ^ 53`. -/
inductive KeptApart (left right : Json) : Prop where
  | fits (hleft : left.Integers FitsDouble) (hright : right.Integers FitsDouble)
  | left (hleft : left.Integers fun value => value.natAbs < 2 ^ 53)
  | right (hright : right.Integers fun value => value.natAbs < 2 ^ 53)

theorem TakenFor.eq (htaken : left.TakenFor right) (hleft : left.Integers Kind)
    (hright : right.Integers OtherKind) (hapart : left.KeptApart right) : left = right := by
  cases hapart with
  | fits hfits hothers =>
      refine SameUpTo.eq htaken hfits hothers fun hvalue hother hnearest => ?_
      rw [← nearest_of_fitsDouble hvalue, hnearest, nearest_of_fitsDouble hother]
  | left hsmall =>
      exact SameUpTo.eq htaken hsmall hright fun hvalue _ hnearest =>
        eq_of_nearest_eq_of_lt hvalue hnearest
  | right hsmall =>
      exact SameUpTo.eq htaken hleft hsmall fun _ hother hnearest =>
        (eq_of_nearest_eq_of_lt hother hnearest.symm).symm

theorem agrees_iff_eq (hleft : left.Integers Kind) (hright : right.Integers OtherKind)
    (hapart : left.KeptApart right) : left.agrees right = true ↔ left = right := by
  constructor
  · exact fun hagrees => (takenFor_of_agrees hleft hright hagrees).eq hleft hright hapart
  · rintro rfl
    exact agrees_refl hleft.distinctKeys

end Json

/-! ## Operators that ask for the same value -/

/-- Equality of the value with the operand, and all operators that rest on it, see the values that
stand in a relation as the same. -/
structure ComparedBy (Same : Json → Json → Prop) (value operand : Json) (items : List Json) :
    Prop where
  agrees : value.agrees operand = true ↔ Same value operand
  equals : Operator.equals.compares value operand = true ↔ Same value operand
  notEquals : Operator.notEquals.compares value operand = true ↔ ¬Same value operand
  isIn : Operator.isIn.compares value (.array items) = true ↔ ∃ item ∈ items, Same item value
  notIn : Operator.notIn.compares value (.array items) = true ↔ ∀ item ∈ items, ¬Same item value

section

variable {value operand : Json} {items : List Json}

theorem comparedBy_of_agrees_iff {Same : Json → Json → Prop}
    (hoperand : value.agrees operand = true ↔ Same value operand)
    (hitems : ∀ item ∈ items, (item.agrees value = true ↔ Same item value)) :
    ComparedBy Same value operand items where
  agrees := hoperand
  equals := hoperand
  notEquals := by rw [Operator.compares, Bool.not_eq_true', ← hoperand, Bool.not_eq_true]
  isIn := by
    rw [Operator.compares, Json.isAmong, beq_true, List.any_eq_true]
    exact exists_congr fun item => and_congr_right (hitems item)
  notIn := by
    rw [Operator.compares, Json.isAmong, beq_false, Bool.not_eq_true', List.any_eq_false]
    exact forall₂_congr fun item hitem => not_congr (hitems item hitem)

/-- Values that hold no other numbers than integers are compared as doubles: they are the same up to
rounding, at every depth.  Where rounding keeps them apart they are compared as what they are. -/
theorem comparedBy_integers (hvalue : value.Integers fun _ => True)
    (hoperand : operand.Integers fun _ => True)
    (hitems : ∀ item ∈ items, item.Integers fun _ => True) :
    ComparedBy Json.TakenFor value operand items ∧
      (value.KeptApart operand → (∀ item ∈ items, item.KeptApart value) →
        ComparedBy Eq value operand items) := by
  constructor
  · exact comparedBy_of_agrees_iff (Json.agrees_iff_takenFor hvalue hoperand) fun item hitem =>
      Json.agrees_iff_takenFor (hitems item hitem) hvalue
  · intro hapart hitemsApart
    exact comparedBy_of_agrees_iff (Json.agrees_iff_eq hvalue hoperand hapart) fun item hitem =>
      Json.agrees_iff_eq (hitems item hitem) hvalue (hitemsApart item hitem)

end

/-- Someone with this account. -/
def holder (account : Int) (inRange : Number.InRange account) : Json :=
  .object [("accounts", .array [.number (.integer account inRange)])]

theorem integers_holder {Kind : Int → Prop} {account : Int} {inRange : Number.InRange account}
    (haccount : Kind account) : (holder account inRange).Integers Kind := by
  refine .object (List.pairwise_singleton _ _) fun member hmember => ?_
  cases List.mem_singleton.mp hmember
  refine .array fun item hitem => ?_
  cases List.mem_singleton.mp hitem
  exact .number haccount

theorem takenFor_holder {account other : Int} {inRange : Number.InRange account}
    {others : Number.InRange other} (hnearest : nearest account = nearest other) :
    (holder account inRange).TakenFor (holder other others) := by
  refine .object rfl (fun pair hpair => ?_) fun pair hpair => ?_
  · cases List.mem_singleton.mp hpair
    rfl
  · cases List.mem_singleton.mp hpair
    refine .array rfl fun pair hpair => ?_
    cases List.mem_singleton.mp hpair
    exact .number hnearest

/-- The holder of account `2 ^ 53 + 1` is taken for the one of account `2 ^ 53`; the holder of account
seven is not the one of account eight, nor among those of eight and nine. -/
theorem comparedBy_integers_holder :
    Operator.equals.compares (holder 9007199254740993 (by decide))
        (holder 9007199254740992 (by decide)) = true ∧
      Operator.notEquals.compares (holder 7 (by decide)) (holder 8 (by decide)) = true ∧
      Operator.notIn.compares (holder 7 (by decide))
        (.array [holder 8 (by decide), holder 9 (by decide)]) = true := by
  have hlarge := (@comparedBy_integers (holder 9007199254740993 (by decide))
    (holder 9007199254740992 (by decide)) [] (integers_holder trivial) (integers_holder trivial)
    (List.forall_mem_nil _)).1
  have hseven : (holder 7 (by decide)).Integers fun value => value.natAbs < 2 ^ 53 :=
    integers_holder (by decide)
  have height : (holder 8 (by decide)).Integers fun _ => True := integers_holder trivial
  have hothers : ∀ item ∈ [holder 8 (by decide), holder 9 (by decide)],
      item.Integers fun _ => True :=
    List.forall_mem_cons.mpr ⟨height, List.forall_mem_singleton.mpr (integers_holder trivial)⟩
  have hsmall := (comparedBy_integers (integers_holder trivial) height hothers).2 (.left hseven)
    fun _ _ => .right hseven
  refine ⟨hlarge.equals.mpr (takenFor_holder (by decide)), hsmall.notEquals.mpr nofun,
    hsmall.notIn.mpr ?_⟩
  exact List.forall_mem_cons.mpr ⟨nofun, List.forall_mem_singleton.mpr nofun⟩

/-- Equality does not keep all integers of documents apart. -/
theorem not_agrees_iff_eq_integers :
    ¬∀ {left right : Json}, left.Integers (fun _ => True) → right.Integers (fun _ => True) →
      (left.agrees right = true ↔ left = right) := by
  intro hexact
  have hleft : (holder 9007199254740993 (by decide)).Integers fun _ => True :=
    integers_holder trivial
  have hright : (holder 9007199254740992 (by decide)).Integers fun _ => True :=
    integers_holder trivial
  have htaken : (holder 9007199254740993 (by decide)).TakenFor
      (holder 9007199254740992 (by decide)) := takenFor_holder (by decide)
  cases (hexact hleft hright).mp (Json.agrees_of_takenFor hright htaken)

end Forms
