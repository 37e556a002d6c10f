import Forms.Decode.Record
import Forms.Proofs.Canonical
import Forms.Proofs.Outcome

/-!
# What a decoder ensures

A decoder *ensures* a property when everything it gives has it, whatever value it is given.  The
property of a record follows from those of its fields, whether they are read by name or by position.
-/

namespace Forms

variable {α β : Type}

/-- Everything the decoder gives has the property. -/
def Decoder.Ensures (decoder : Decoder α) (property : α → Prop) : Prop :=
  ∀ origin value result, decoder origin value = .ok result → property result

/-- Everything that is read, by name or by position, has the property. -/
structure Fields.Ensures (fields : Fields α) (property : α → Prop) : Prop where
  byName : ∀ origin entries result, fields.byName origin entries = .ok result → property result
  byPosition : ∀ origin position items result rest,
    fields.byPosition origin position items = .ok (result, rest) → property result

theorem Decode.optional_of_ne_null {decoder : Decoder α} {origin : Origin} {value : Json}
    (hvalue : value ≠ .null) :
    Decode.optional decoder origin value = (decoder origin value).map some := by
  cases value <;> first | rfl | exact absurd rfl hvalue

namespace Decoder.Ensures

variable {decoder : Decoder α} {property weaker : α → Prop}

theorem mono (h : decoder.Ensures property) (himp : ∀ value, property value → weaker value) :
    decoder.Ensures weaker :=
  fun origin value result hresult => himp result (h origin value result hresult)

theorem trivial (decoder : Decoder α) : decoder.Ensures fun _ => True :=
  fun _ _ _ _ => True.intro

theorem optional (h : decoder.Ensures property) :
    (Decode.optional decoder).Ensures fun value => ∀ held ∈ value, property held := by
  intro origin value result hresult held hheld
  by_cases hnull : value = .null
  · subst hnull
    cases hresult
    simp at hheld
  · rw [Decode.optional_of_ne_null hnull, Outcome.map_eq_ok_iff] at hresult
    obtain ⟨read, hread, rfl⟩ := hresult
    cases hheld
    exact h origin value _ hread

theorem list (h : decoder.Ensures property) :
    (Decode.list decoder).Ensures fun values => ∀ held ∈ values, property held := by
  intro origin value result hresult
  cases value with
  | array items =>
      intro held hheld
      obtain ⟨item, -, hitem⟩ := Outcome.exists_mem_of_mapM_eq_ok hresult hheld
      exact h origin item held hitem
  | null | bool | number | string | object => simp [Decode.list] at hresult

end Decoder.Ensures

theorem Decode.any_ensures : Decoder.Ensures Decode.any Json.IsCanonical := by
  intro origin value result hresult
  cases hresult
  exact Json.isCanonical_canonical value

/-- A member of any shape that may be missing is sorted when it is there, and never null. -/
theorem Decode.optional_any_ensures :
    Decoder.Ensures (Decode.optional Decode.any) Json.Settled := by
  intro origin value result hresult held hheld
  by_cases hnull : value = .null
  · subst hnull
    cases hresult
    simp at hheld
  · rw [Decode.optional_of_ne_null hnull] at hresult
    cases hresult
    cases hheld
    refine ⟨Json.isCanonical_canonical value, ?_⟩
    rwa [ne_eq, Json.canonical_eq_null_iff]

theorem Decode.members_ensures :
    Decoder.Ensures Decode.members fun members => (Json.object members).IsCanonical := by
  intro origin value result hresult
  cases value with
  | object entries =>
      cases hresult
      rw [← Json.canonical_object]
      exact Json.isCanonical_canonical _
  | null | bool | number | string | array => simp [Decode.members] at hresult

theorem Decode.map_ensures (decoder : Decoder α) :
    Decoder.Ensures (Decode.map decoder) Entries.Ascending := by
  intro origin value result hresult
  cases value with
  | object entries =>
      simp only [Decode.map, bind, Except.bind] at hresult
      split at hresult
      · cases hresult
      · cases hresult
        exact Entries.ascending_ofWrites _
  | null | bool | number | string | array => simp [Decode.map] at hresult

theorem Ranked.pair_eq_ok_iff {first : Ranked α} {second : Ranked β} {a : α} {b : β} :
    first.pair second = .ok (a, b) ↔ first = .ok a ∧ second = .ok b := by
  cases first <;> cases second <;> simp only [Ranked.pair] <;> grind

namespace Fields.Ensures

variable {fields : Fields α} {property : α → Prop} {target : β → Prop}

theorem trivial (fields : Fields α) : fields.Ensures fun _ => True where
  byName _ _ _ _ := True.intro
  byPosition _ _ _ _ _ _ := True.intro

theorem map (h : fields.Ensures property) {f : α → β}
    (himp : ∀ value, property value → target (f value)) :
    (f <$> fields).Ensures target where
  byName origin entries result hresult := by
    obtain ⟨value, hvalue, rfl⟩ := Outcome.map_eq_ok_iff.mp hresult
    exact himp value (h.byName origin entries value hvalue)
  byPosition origin position items result rest hresult := by
    obtain ⟨⟨value, left⟩, hvalue, heq⟩ := Outcome.map_eq_ok_iff.mp hresult
    cases heq
    exact himp value (h.byPosition origin position items value rest hvalue)

/-- What the last field gives completes what the fields before it give. -/
theorem seq {functions : Fields (α → β)} {fields : Fields α}
    (hfunctions : functions.Ensures fun f => ∀ value, property value → target (f value))
    (hfields : fields.Ensures property) : (functions <*> fields).Ensures target where
  byName origin entries result hresult := by
    obtain ⟨⟨f, value⟩, hpair, rfl⟩ := Outcome.map_eq_ok_iff.mp hresult
    obtain ⟨hf, hvalue⟩ := Ranked.pair_eq_ok_iff.mp hpair
    exact hfunctions.byName origin entries f hf value (hfields.byName origin entries value hvalue)
  byPosition origin position items result rest hresult := by
    obtain ⟨pair, hpair, heq⟩ := Outcome.map_eq_ok_iff.mp hresult
    cases heq
    simp only [Fields.pair, Outcome.bind_eq_ok_iff] at hpair
    obtain ⟨⟨f, middle⟩, hf, ⟨value, left⟩, hvalue, heq⟩ := hpair
    cases heq
    exact hfunctions.byPosition _ _ _ f middle hf value (hfields.byPosition _ _ _ value left hvalue)

theorem field {decoder : Decoder α} (h : decoder.Ensures property) (keys : List String)
    {absent defaulted : Option α} (habsent : ∀ value ∈ absent, property value)
    (hdefaulted : ∀ value ∈ defaulted, property value) :
    (Fields.field keys decoder absent defaulted).Ensures property where
  byName origin entries result hresult := by
    simp only [Fields.field] at hresult
    split at hresult
    · split at hresult
      · cases hresult
        exact habsent _ rfl
      · simp at hresult
    · split at hresult
      · simp at hresult
      · simp at hresult
      · rename_i hread _
        cases hresult
        exact h _ _ _ hread
  byPosition origin position items result rest hresult := by
    simp only [Fields.field] at hresult
    split at hresult
    · split at hresult
      · cases hresult
        exact hdefaulted _ rfl
      · simp at hresult
    · split at hresult
      · simp at hresult
      · rename_i hread
        cases hresult
        exact h _ _ _ hread

theorem required {decoder : Decoder α} (h : decoder.Ensures property) (key : String) :
    (Fields.required key decoder).Ensures property :=
  field h [key] (by simp) (by simp)

theorem defaulting {decoder : Decoder α} (h : decoder.Ensures property) (key : String) {value : α}
    (hvalue : property value) : (Fields.defaulting key decoder value).Ensures property :=
  field h [key] (by simpa using hvalue) (by simpa using hvalue)

theorem optional {decoder : Decoder α} {property : Option α → Prop}
    (h : (Decode.optional decoder).Ensures property) (key : String) (hnone : property none) :
    (Fields.optional key decoder).Ensures property :=
  field h [key] (by simpa using hnone) (by simp)

theorem omissible {decoder : Decoder α} {property : Option α → Prop}
    (h : (Decode.optional decoder).Ensures property) (key : String) (hnone : property none) :
    (Fields.omissible key decoder).Ensures property :=
  field h [key] (by simpa using hnone) (by simpa using hnone)

theorem optional_any (key : String) : (Fields.optional key Decode.any).Ensures Json.Settled :=
  optional Decode.optional_any_ensures key nofun

theorem omissible_any (key : String) : (Fields.omissible key Decode.any).Ensures Json.Settled :=
  omissible Decode.optional_any_ensures key nofun

/-- A sequence that is empty when it is missing. -/
theorem listed {decoder : Decoder α} (h : decoder.Ensures property) (key : String) :
    (Fields.defaulting key (Decode.list decoder) []).Ensures
      fun values => ∀ held ∈ values, property held :=
  defaulting h.list key (by simp)

end Fields.Ensures

theorem Decode.record_ensures {fields : Fields α} {property : α → Prop}
    (h : fields.Ensures property) (name : String) :
    Decoder.Ensures (Decode.record name fields) property := by
  intro origin value result hresult
  cases value with
  | object entries =>
      exact h.byName origin entries result (Outcome.mapError_eq_ok_iff.mp hresult)
  | array items =>
      simp only [Decode.record] at hresult
      split at hresult
      · simp at hresult
      · simp at hresult
      · rename_i hread
        cases hresult
        exact h.byPosition _ _ _ _ _ hread
      · simp at hresult
  | null | bool | number | string => simp [Decode.record] at hresult

end Forms
