import Forms.Proofs.Canonical
import Forms.Readings
import Mathlib.Data.List.Perm.Subperm

/-!
# Equal values

Values are equal in the sense of conditions when they have the same structure and their numbers are
the same as doubles.  Two equal values cannot be told apart by comparing them with a third one, as
long as no object repeats a key.
-/

namespace Forms.Json

variable {left right : Json}

theorem agreesItems_iff (lefts rights : List Json) :
    agreesItems lefts rights = true ↔
      List.Forall₂ (fun left right => agrees left right = true) lefts rights := by
  induction lefts generalizing rights with
  | nil => cases rights <;> simp [agreesItems]
  | cons left lefts ih => cases rights <;> simp [agreesItems, ih]

theorem agreesMembers_iff (lefts : List (String × Json)) (rights : Members) :
    agreesMembers lefts rights = true ↔
      ∀ member ∈ lefts, ∃ other, rights.get? member.1 = some other ∧
        agrees member.2 other = true := by
  induction lefts with
  | nil => simp [agreesMembers]
  | cons member lefts ih =>
      obtain ⟨key, value⟩ := member
      rw [agreesMembers, Bool.and_eq_true, ih, List.forall_mem_cons]
      apply and_congr_left'
      cases rights.get? key with
      | none => simp
      | some other => simp

/-- What a value has to be like to equal another one. -/
theorem agrees_iff (left right : Json) :
    agrees left right = true ↔
      match left with
      | .null => right = .null
      | .bool flag => right = .bool flag
      | .string content => right = .string content
      | .number value =>
        ∃ other, right = .number other ∧ value.toDouble.units = other.toDouble.units
      | .array items => ∃ others, right = .array others ∧
        List.Forall₂ (fun item other => agrees item other = true) items others
      | .object members => ∃ others, right = .object others ∧
        members.length = others.length ∧ ∀ member ∈ members,
          ∃ other, Entries.get? others member.1 = some other ∧ agrees member.2 other = true := by
  cases left with
  | bool flag => cases right <;> simp [agrees, @eq_comm _ flag]
  | string content => cases right <;> simp [agrees, @eq_comm _ content]
  | null | number => cases right <;> simp [agrees]
  | array => cases right <;> simp [agrees, agreesItems_iff]
  | object => cases right <;> simp [agrees, agreesMembers_iff]

theorem null_agrees_iff : agrees .null right = true ↔ right = .null := agrees_iff .null right

theorem bool_agrees_iff {flag : Bool} :
    agrees (.bool flag) right = true ↔ right = .bool flag := agrees_iff (.bool flag) right

theorem string_agrees_iff {content : String} :
    agrees (.string content) right = true ↔ right = .string content :=
  agrees_iff (.string content) right

theorem number_agrees_iff {value : Number} :
    agrees (.number value) right = true ↔
      ∃ other, right = .number other ∧ value.toDouble.units = other.toDouble.units :=
  agrees_iff (.number value) right

theorem array_agrees_iff {items : List Json} :
    agrees (.array items) right = true ↔ ∃ others, right = .array others ∧
      List.Forall₂ (fun item other => agrees item other = true) items others :=
  agrees_iff (.array items) right

theorem object_agrees_iff {members : List (String × Json)} :
    agrees (.object members) right = true ↔ ∃ others, right = .object others ∧
      members.length = others.length ∧ ∀ member ∈ members,
        ∃ other, Entries.get? others member.1 = some other ∧ agrees member.2 other = true :=
  agrees_iff (.object members) right

/-- Equal values are the same value, or numbers, arrays or objects. -/
theorem agrees_cases (hagrees : agrees left right = true) :
    left = right ∨
      (∃ value other, left = .number value ∧ right = .number other ∧
        value.toDouble.units = other.toDouble.units) ∨
      (∃ items others, left = .array items ∧ right = .array others ∧
        List.Forall₂ (fun item other => agrees item other = true) items others) ∨
      ∃ members others, left = .object members ∧ right = .object others := by
  cases left with
  | null => exact Or.inl (null_agrees_iff.mp hagrees).symm
  | bool flag => exact Or.inl (bool_agrees_iff.mp hagrees).symm
  | string content => exact Or.inl (string_agrees_iff.mp hagrees).symm
  | number value =>
      obtain ⟨other, rfl, hunits⟩ := number_agrees_iff.mp hagrees
      exact Or.inr (Or.inl ⟨value, other, rfl, rfl, hunits⟩)
  | array items =>
      obtain ⟨others, rfl, hitems⟩ := array_agrees_iff.mp hagrees
      exact Or.inr (Or.inr (Or.inl ⟨items, others, rfl, rfl, hitems⟩))
  | object members =>
      obtain ⟨others, rfl, -⟩ := object_agrees_iff.mp hagrees
      exact Or.inr (Or.inr (Or.inr ⟨members, others, rfl, rfl⟩))

/-! ## Equality is an equivalence -/

/-- Two relations in a row, item by item. -/
theorem forall₂_trans {R : Json → Json → Prop} {lefts middles rights : List Json}
    (hfirst : List.Forall₂ R lefts middles) (hsecond : List.Forall₂ R middles rights)
    (htrans : ∀ left ∈ lefts, ∀ {middle right}, R left middle → R middle right → R left right) :
    List.Forall₂ R lefts rights := by
  induction hfirst generalizing rights with
  | nil => exact hsecond
  | cons hhead _ ih =>
      cases hsecond with
      | cons hnext htail =>
          rw [List.forall_mem_cons] at htrans
          exact .cons (htrans.1 hhead hnext) (ih htail htrans.2)

/-- A relation read from the other side, item by item. -/
theorem forall₂_symm {R : Json → Json → Prop} {lefts rights : List Json}
    (hfirst : List.Forall₂ R lefts rights)
    (hsymm : ∀ left ∈ lefts, ∀ {right}, R left right → R right left) :
    List.Forall₂ R rights lefts := by
  induction hfirst with
  | nil => exact .nil
  | cons hhead _ ih =>
      rw [List.forall_mem_cons] at hsymm
      exact .cons (hsymm.1 hhead) (ih hsymm.2)

theorem agrees_trans {middle : Json} (hfirst : agrees left middle = true)
    (hsecond : agrees middle right = true) : agrees left right = true := by
  induction left using induct generalizing middle right with
  | null =>
      cases null_agrees_iff.mp hfirst
      exact hsecond
  | bool flag =>
      cases bool_agrees_iff.mp hfirst
      exact hsecond
  | string content =>
      cases string_agrees_iff.mp hfirst
      exact hsecond
  | number value =>
      obtain ⟨other, rfl, hother⟩ := number_agrees_iff.mp hfirst
      obtain ⟨last, rfl, hlast⟩ := number_agrees_iff.mp hsecond
      exact number_agrees_iff.mpr ⟨last, rfl, hother.trans hlast⟩
  | array items ih =>
      obtain ⟨others, rfl, hothers⟩ := array_agrees_iff.mp hfirst
      obtain ⟨lasts, rfl, hlasts⟩ := array_agrees_iff.mp hsecond
      refine array_agrees_iff.mpr ⟨lasts, rfl, ?_⟩
      exact forall₂_trans hothers hlasts fun item hitem => ih item hitem
  | object members ih =>
      obtain ⟨others, rfl, hlength, hothers⟩ := object_agrees_iff.mp hfirst
      obtain ⟨lasts, rfl, hlasts, hagrees⟩ := object_agrees_iff.mp hsecond
      refine object_agrees_iff.mpr ⟨lasts, rfl, hlength.trans hlasts, fun member hmember => ?_⟩
      obtain ⟨other, hget, hother⟩ := hothers member hmember
      obtain ⟨last, hfound, hlast⟩ := hagrees _ (Entries.mem_of_get?_eq_some hget)
      exact ⟨last, hfound, ih member hmember hother hlast⟩

/-- An object that repeats no key has the same keys as one it equals. -/
theorem perm_keys {members others : List (String × Json)}
    (hdistinct : (members.map Prod.fst).Nodup) (hlength : members.length = others.length)
    (hfound : ∀ member ∈ members, member.1 ∈ others.map Prod.fst) :
    (others.map Prod.fst).Perm (members.map Prod.fst) := by
  have hsubset : members.map Prod.fst ⊆ others.map Prod.fst := by
    intro key hkey
    obtain ⟨member, hmember, rfl⟩ := List.mem_map.mp hkey
    exact hfound member hmember
  apply List.Perm.symm
  apply (List.subperm_of_subset hdistinct hsubset).perm_of_length_le
  rw [List.length_map, List.length_map, hlength]

theorem agrees_symm (hdistinct : left.DistinctKeys) (hagrees : agrees left right = true) :
    agrees right left = true := by
  induction hdistinct generalizing right with
  | null =>
      cases null_agrees_iff.mp hagrees
      exact hagrees
  | bool flag =>
      cases bool_agrees_iff.mp hagrees
      exact hagrees
  | string content =>
      cases string_agrees_iff.mp hagrees
      exact hagrees
  | number value =>
      obtain ⟨other, rfl, hother⟩ := number_agrees_iff.mp hagrees
      exact number_agrees_iff.mpr ⟨value, rfl, hother.symm⟩
  | @array items _ ih =>
      obtain ⟨others, rfl, hothers⟩ := array_agrees_iff.mp hagrees
      exact array_agrees_iff.mpr ⟨items, rfl, forall₂_symm hothers ih⟩
  | @object members hdistinct _ ih =>
      obtain ⟨others, rfl, hlength, hothers⟩ := object_agrees_iff.mp hagrees
      have hkeys := perm_keys hdistinct hlength fun member hmember => by
        obtain ⟨other, hget, -⟩ := hothers member hmember
        exact List.mem_map.mpr ⟨_, Entries.mem_of_get?_eq_some hget, rfl⟩
      refine object_agrees_iff.mpr ⟨members, rfl, hlength.symm, fun other hother => ?_⟩
      obtain ⟨member, hmember, hkey⟩ :=
        List.mem_map.mp (hkeys.mem_iff.mp (List.mem_map_of_mem hother))
      obtain ⟨held, hget, hheld⟩ := hothers member hmember
      rw [hkey, Entries.get?_eq_some_of_mem (hkeys.nodup_iff.mpr hdistinct) hother] at hget
      cases hget
      rw [← hkey]
      exact ⟨member.2, Entries.get?_eq_some_of_mem hdistinct hmember, ih member hmember hheld⟩

/-! ## Comparisons with a third value -/

theorem agrees_congr_left (hdistinct : left.DistinctKeys) (hagrees : agrees left right = true)
    (third : Json) : agrees left third = agrees right third := by
  rw [Bool.eq_iff_iff]
  constructor
  · exact agrees_trans (agrees_symm hdistinct hagrees)
  · exact agrees_trans hagrees

theorem agrees_congr_right (hdistinct : left.DistinctKeys) (hagrees : agrees left right = true)
    (third : Json) : agrees third left = agrees third right := by
  rw [Bool.eq_iff_iff]
  constructor
  · exact fun hthird => agrees_trans hthird hagrees
  · exact fun hthird => agrees_trans hthird (agrees_symm hdistinct hagrees)

end Forms.Json
