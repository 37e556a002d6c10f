import Forms.Json.Value
import Forms.Proofs.Entries
import Mathlib.Data.List.Forall2

/-!
# The sorted form of JSON values

Sorting is settled after one pass.  A value *rearranges* another one when it has the same sorted
form and repeats no key, so that it is the other value with members in any order.  What is written
of a record may be rearranged on its way to the reader, and the reader finds under each key what was
written there.
-/

namespace Forms.Json

/-- Induction over all values inside a value. -/
@[elab_as_elim]
theorem induct {motive : Json → Prop} (null : motive .null) (bool : ∀ flag, motive (.bool flag))
    (number : ∀ value, motive (.number value)) (string : ∀ text, motive (.string text))
    (array : ∀ items, (∀ item ∈ items, motive item) → motive (.array items))
    (object : ∀ members, (∀ member ∈ members, motive member.2) → motive (.object members)) :
    ∀ value, motive value
  | .null => null
  | .bool flag => bool flag
  | .number value => number value
  | .string text => string text
  | .array items =>
      array items fun item _ => induct null bool number string array object item
  | .object members =>
      object members fun member _ => induct null bool number string array object member.2
termination_by value => value
decreasing_by
  · rename_i hitem
    have := List.sizeOf_lt_of_mem hitem
    simp only [Json.array.sizeOf_spec]
    omega
  · rename_i hmember
    have := List.sizeOf_lt_of_mem hmember
    cases member
    simp only [Json.object.sizeOf_spec, Prod.mk.sizeOf_spec] at *
    omega

theorem canonicalItems_eq_map (items : List Json) : canonicalItems items = items.map canonical := by
  induction items with
  | nil => rfl
  | cons item items ih => rw [canonicalItems, ih, List.map_cons]

theorem canonicalMembers_eq_mapValues (members : List (String × Json)) :
    canonicalMembers members = Entries.mapValues canonical members := by
  induction members with
  | nil => rfl
  | cons member members ih =>
      obtain ⟨key, value⟩ := member
      rw [canonicalMembers, ih]
      rfl

theorem canonical_array (items : List Json) :
    canonical (.array items) = .array (items.map canonical) := by
  rw [canonical, canonicalItems_eq_map]

theorem canonical_object (members : List (String × Json)) :
    canonical (.object members) = .object (Entries.ofWrites (canonicalMembers members)) := by
  rw [canonical]

/-- A key of a sorted object has the sorted form of what was written last under it. -/
theorem get?_ofWrites_canonicalMembers (members : List (String × Json)) (key : String) :
    (Entries.ofWrites (canonicalMembers members)).get? key =
      ((Entries.ofWrites members).get? key).map canonical := by
  rw [canonicalMembers_eq_mapValues, ← Entries.mapValues_ofWrites, Entries.get?_mapValues]

theorem canonical_canonical (value : Json) : value.canonical.canonical = value.canonical := by
  induction value using induct with
  | null | bool | number | string => rfl
  | array items ih =>
      rw [canonical_array, canonical_array, List.map_map]
      congr 1
      exact List.map_congr_left ih
  | object members ih =>
      have hmembers : Entries.mapValues canonical (canonicalMembers members) =
          canonicalMembers members := by
        rw [canonicalMembers_eq_mapValues, Entries.mapValues, Entries.mapValues, List.map_map]
        apply List.map_congr_left
        intro member hmember
        exact Prod.ext rfl (ih member hmember)
      have hsorted : canonicalMembers (Entries.ofWrites (canonicalMembers members)) =
          Entries.ofWrites (canonicalMembers members) := by
        rw [canonicalMembers_eq_mapValues, Entries.mapValues_ofWrites, hmembers]
      calc
        (object members).canonical.canonical =
            .object (Entries.ofWrites (Entries.ofWrites (canonicalMembers members))) := by
          rw [canonical_object, canonical_object, hsorted]
        _ = .object (Entries.ofWrites (canonicalMembers members)) := by
          rw [(Entries.ascending_ofWrites _).ofWrites_eq]
        _ = (object members).canonical := by
          rw [canonical_object]

/-! ## Sorted values -/

/-- Every object inside the value is sorted. -/
def IsCanonical (value : Json) : Prop := value.canonical = value

instance (value : Json) : Decidable value.IsCanonical := inferInstanceAs (Decidable (_ = _))

theorem isCanonical_canonical (value : Json) : value.canonical.IsCanonical :=
  canonical_canonical value

theorem isCanonical_object_iff (members : List (String × Json)) :
    (object members).IsCanonical ↔
      Entries.Ascending members ∧ ∀ member ∈ members, member.2.IsCanonical := by
  rw [IsCanonical, canonical_object, object.injEq]
  constructor
  · intro hsame
    have hascending : Entries.Ascending members := hsame ▸ Entries.ascending_ofWrites _
    refine ⟨hascending, fun member hmember => ?_⟩
    have hget := congrArg (Entries.get? · member.1) hsame
    simp only [get?_ofWrites_canonicalMembers, hascending.ofWrites_eq,
      hascending.get?_eq_some hmember, Option.map_some, Option.some.injEq] at hget
    exact hget
  · rintro ⟨hascending, hmembers⟩
    have hsame : canonicalMembers members = members := by
      rw [canonicalMembers_eq_mapValues]
      conv_rhs => rw [← List.map_id members]
      apply List.map_congr_left
      intro member hmember
      exact Prod.ext rfl (hmembers member hmember)
    rw [hsame, hascending.ofWrites_eq]

theorem IsCanonical.insert {members : Members} (h : (object members).IsCanonical) (key : String)
    {value : Json} (hvalue : value.IsCanonical) :
    (object (Entries.insert key value members)).IsCanonical := by
  rw [isCanonical_object_iff] at h ⊢
  refine ⟨Entries.ascending_insert h.1 key value, fun member hmember => ?_⟩
  rcases Entries.eq_or_mem_of_mem_insert hmember with rfl | hold
  · exact hvalue
  · exact h.2 member hold

/-- A member that is left out rather than null, and sorted when it is there. -/
def Settled (member : Option Json) : Prop :=
  ∀ value ∈ member, value.IsCanonical ∧ value ≠ .null

theorem canonical_eq_null_iff (value : Json) : value.canonical = .null ↔ value = .null := by
  cases value <;> simp [canonical]

/-! ## Rearranged values -/

/-- No object inside the value has a key twice. -/
inductive DistinctKeys : Json → Prop where
  | null : DistinctKeys .null
  | bool (flag : Bool) : DistinctKeys (.bool flag)
  | number (value : Number) : DistinctKeys (.number value)
  | string (text : String) : DistinctKeys (.string text)
  | array {items : List Json} (inside : ∀ item ∈ items, DistinctKeys item) :
      DistinctKeys (.array items)
  | object {members : List (String × Json)} (distinct : (members.map Prod.fst).Nodup)
      (inside : ∀ member ∈ members, DistinctKeys member.2) : DistinctKeys (.object members)

theorem distinctKeys_canonical (value : Json) : value.canonical.DistinctKeys := by
  induction value using induct with
  | null => exact .null
  | bool flag => exact .bool flag
  | number value => exact .number value
  | string text => exact .string text
  | array items ih =>
      rw [canonical_array]
      apply DistinctKeys.array
      intro item hitem
      obtain ⟨original, horiginal, rfl⟩ := List.mem_map.mp hitem
      exact ih original horiginal
  | object members ih =>
      rw [canonical_object]
      apply DistinctKeys.object (Entries.ascending_ofWrites _).nodup_keys
      intro member hmember
      have hget := (Entries.ascending_ofWrites _).get?_eq_some hmember
      rw [get?_ofWrites_canonicalMembers, Option.map_eq_some_iff] at hget
      obtain ⟨original, horiginal, hcanonical⟩ := hget
      rw [← hcanonical]
      exact ih _ (Entries.mem_of_get?_ofWrites horiginal)

/-- The value is the written one with members in any order. -/
def Rearranges (value written : Json) : Prop :=
  value.DistinctKeys ∧ value.canonical = written.canonical

theorem rearranges_canonical (value : Json) : value.canonical.Rearranges value :=
  ⟨distinctKeys_canonical value, canonical_canonical value⟩

/-- The entries are the written ones in any order, as far as a reader can tell. -/
structure Carries (entries written : List (String × Json)) : Prop where
  distinct : (entries.map Prod.fst).Nodup
  inside : ∀ entry ∈ entries, entry.2.DistinctKeys
  same : Entries.ofWrites (canonicalMembers entries) = Entries.ofWrites (canonicalMembers written)

namespace Rearranges

variable {value written : Json}

theorem eq_bool {flag : Bool} (h : value.Rearranges (.bool flag)) : value = .bool flag := by
  have hsame := h.2
  cases value <;> simp_all [canonical]

theorem eq_number {number : Number} (h : value.Rearranges (.number number)) :
    value = .number number := by
  have hsame := h.2
  cases value <;> simp_all [canonical]

theorem eq_string {text : String} (h : value.Rearranges (.string text)) :
    value = .string text := by
  have hsame := h.2
  cases value <;> simp_all [canonical]

theorem ne_null (h : value.Rearranges written) (hwritten : written ≠ .null) : value ≠ .null := by
  rintro rfl
  exact hwritten ((canonical_eq_null_iff written).mp h.2.symm)

theorem array {items : List Json} (h : value.Rearranges (.array items)) :
    ∃ found, value = .array found ∧ List.Forall₂ Rearranges found items := by
  obtain ⟨hdistinct, hsame⟩ := h
  cases value with
  | array found =>
      refine ⟨found, rfl, ?_⟩
      rw [canonical_array, canonical_array, array.injEq] at hsame
      cases hdistinct with
      | array inside =>
          induction found generalizing items with
          | nil => cases items <;> simp_all
          | cons head tail ih =>
              cases items with
              | nil => simp at hsame
              | cons item items =>
                  rw [List.map_cons, List.map_cons, List.cons.injEq] at hsame
                  refine .cons ⟨inside head List.mem_cons_self, hsame.1⟩ (ih hsame.2 ?_)
                  exact fun later hlater => inside later (List.mem_cons_of_mem _ hlater)
  | null | bool | number | string | object => simp [canonical] at hsame

theorem object {members : List (String × Json)} (h : value.Rearranges (.object members)) :
    ∃ entries, value = .object entries ∧ Carries entries members := by
  obtain ⟨hdistinct, hsame⟩ := h
  cases value with
  | object entries =>
      rw [canonical_object, canonical_object, object.injEq] at hsame
      cases hdistinct with
      | object distinct inside => exact ⟨entries, rfl, distinct, inside, hsame⟩
  | null | bool | number | string | array => simp [canonical] at hsame

end Rearranges

namespace Carries

variable {entries written : List (String × Json)}

theorem get?_map_canonical (h : Carries entries written) (key : String) :
    (Entries.get? entries key).map canonical =
      ((Entries.ofWrites written).get? key).map canonical := by
  have hget := congrArg (Entries.get? · key) h.same
  simpa only [get?_ofWrites_canonicalMembers, Entries.get?_ofWrites_of_nodup h.distinct] using hget

/-- What was written last under a key is found there, perhaps rearranged. -/
theorem found (h : Carries entries written) {key : String} {member : Json}
    (hmember : (Entries.ofWrites written).get? key = some member) :
    ∃ value, Entries.get? entries key = some value ∧ value.Rearranges member := by
  have hsame := h.get?_map_canonical key
  rw [hmember, Option.map_some, Option.map_eq_some_iff] at hsame
  obtain ⟨value, hvalue, hcanonical⟩ := hsame
  exact ⟨value, hvalue, h.inside _ (Entries.mem_of_get?_eq_some hvalue), hcanonical⟩

/-- Every entry was written under its key, perhaps rearranged. -/
theorem written_of_mem (h : Carries entries written) {entry : String × Json}
    (hentry : entry ∈ entries) :
    ∃ member, (Entries.ofWrites written).get? entry.1 = some member ∧
      entry.2.Rearranges member := by
  have hsame := h.get?_map_canonical entry.1
  rw [Entries.get?_eq_some_of_mem h.distinct hentry, Option.map_some, eq_comm,
    Option.map_eq_some_iff] at hsame
  obtain ⟨member, hmember, hcanonical⟩ := hsame
  exact ⟨member, hmember, h.inside entry hentry, hcanonical.symm⟩

theorem absent (h : Carries entries written) {key : String}
    (hmember : (Entries.ofWrites written).get? key = none) : Entries.get? entries key = none := by
  have hsame := h.get?_map_canonical key
  rwa [hmember, Option.map_none, Option.map_eq_none_iff] at hsame

end Carries

/-- Sorted entries carry what they were sorted from. -/
theorem carries_canonicalMembers (written : List (String × Json)) :
    Carries (Entries.ofWrites (canonicalMembers written)) written := by
  have hrearranges := rearranges_canonical (.object written)
  rw [canonical_object] at hrearranges
  obtain ⟨entries, heq, hcarries⟩ := hrearranges.object
  cases heq
  exact hcarries

/-! ## Depth -/

theorem depthItems_le_iff {items : List Json} {bound : Nat} :
    depthItems items ≤ bound ↔ ∀ item ∈ items, item.depth ≤ bound := by
  induction items with
  | nil => simp [depthItems]
  | cons item items ih => rw [depthItems, max_le_iff, ih, List.forall_mem_cons]

theorem depthMembers_le_iff {members : List (String × Json)} {bound : Nat} :
    depthMembers members ≤ bound ↔ ∀ member ∈ members, member.2.depth ≤ bound := by
  induction members with
  | nil => simp [depthMembers]
  | cons member members ih => rw [depthMembers, max_le_iff, ih, List.forall_mem_cons]

theorem depth_lt_of_mem_array {items : List Json} {item : Json} (hitem : item ∈ items) :
    item.depth < (array items).depth := by
  rw [depth, Nat.lt_succ_iff]
  exact depthItems_le_iff.mp le_rfl item hitem

theorem depth_lt_of_mem_object {members : List (String × Json)} {member : String × Json}
    (hmember : member ∈ members) : member.2.depth < (object members).depth := by
  rw [depth, Nat.lt_succ_iff]
  exact depthMembers_le_iff.mp le_rfl member hmember

/-- Sorting puts nothing deeper; an entry that is written over may have been the deepest. -/
theorem depth_canonical_le (value : Json) : value.canonical.depth ≤ value.depth := by
  induction value using induct with
  | null | bool | number | string => rfl
  | array items ih =>
      rw [canonical_array, depth, depth, Nat.succ_le_succ_iff, depthItems_le_iff]
      intro item hitem
      obtain ⟨original, horiginal, rfl⟩ := List.mem_map.mp hitem
      calc
        original.canonical.depth ≤ original.depth := ih original horiginal
        _ ≤ depthItems items := depthItems_le_iff.mp le_rfl original horiginal
  | object members ih =>
      rw [canonical_object, depth, depth, Nat.succ_le_succ_iff, depthMembers_le_iff]
      intro member hmember
      have hget := (Entries.ascending_ofWrites _).get?_eq_some hmember
      rw [get?_ofWrites_canonicalMembers, Option.map_eq_some_iff] at hget
      obtain ⟨original, horiginal, hcanonical⟩ := hget
      have hmem := Entries.mem_of_get?_ofWrites horiginal
      calc
        member.2.depth = original.canonical.depth := by rw [hcanonical]
        _ ≤ original.depth := ih _ hmem
        _ ≤ depthMembers members := depthMembers_le_iff.mp le_rfl _ hmem

end Forms.Json
