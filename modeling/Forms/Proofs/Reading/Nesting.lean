import Forms.Proofs.Reading.Ensures

/-!
# What a decoder writes and how deep it nests

A list that is missing is read as an empty one, and the empty one is written.  So what is written of
a value may nest deeper than what the value was read from, but by one level only, as the list that
was missing has nothing inside.  A decoder is *shallow* when this holds for everything it reads; a
record of shallow decoders is shallow.
-/

namespace Forms

variable {α β : Type}

namespace Json

@[simp]
theorem depthMembers_nil_le (bound : Nat) : depthMembers [] ≤ bound := Nat.zero_le bound

@[simp]
theorem depthMembers_cons_le (member : String × Json) (members : List (String × Json))
    (bound : Nat) : depthMembers (member :: members) ≤ bound ↔
      member.2.depth ≤ bound ∧ depthMembers members ≤ bound := by
  rw [depthMembers, max_le_iff]

@[simp]
theorem depthMembers_append_le (first second : List (String × Json)) (bound : Nat) :
    depthMembers (first ++ second) ≤ bound ↔
      depthMembers first ≤ bound ∧ depthMembers second ≤ bound := by
  simp only [depthMembers_le_iff, List.forall_mem_append]

@[simp]
theorem depthMembers_optionalEntry_le (key : String) (toJson : α → Json) (value : Option α)
    (bound : Nat) : depthMembers (optionalEntry key toJson value) ≤ bound ↔
      ∀ held ∈ value, (toJson held).depth ≤ bound := by
  cases value <;> simp [optionalEntry]

@[simp]
theorem depth_ofStrings (texts : List String) : (ofStrings texts).depth = 1 := by
  have hinside : depthItems (texts.map string) ≤ 0 := by
    rw [depthItems_le_iff, List.forall_mem_map]
    exact fun _ _ => le_rfl
  rw [ofStrings, depth, Nat.le_zero.mp hinside]

end Json

/-- What the decoder gives is written at most one level deeper than what it was read from. -/
def Decoder.Shallow (decoder : Decoder α) (toJson : α → Json) : Prop :=
  ∀ origin value result, decoder origin value = .ok result →
    (toJson result).depth ≤ value.depth + 1

/-- What the fields give has the property when nothing they read is deeper than the bound; what they
leave of the items was among them. -/
structure Fields.EnsuresWithin (bound : Nat) (fields : Fields α) (property : α → Prop) : Prop where
  byName : ∀ origin (entries : List (String × Json)) result,
    (∀ entry ∈ entries, entry.2.depth ≤ bound) → fields.byName origin entries = .ok result →
    property result
  byPosition : ∀ origin position (items : List Json) result rest,
    (∀ item ∈ items, item.depth ≤ bound) →
    fields.byPosition origin position items = .ok (result, rest) → property result ∧ rest ⊆ items

namespace Decoder.Shallow

variable {decoder : Decoder α} {toJson : α → Json}

/-- Values that are written as an object with nothing nested inside. -/
theorem flat (decoder : Decoder α) {entries : α → List (String × Json)}
    (hjson : ∀ value, toJson value = .object (entries value))
    (hentries : ∀ value bound, Json.depthMembers (entries value) ≤ bound) :
    decoder.Shallow toJson := by
  intro origin value result _
  rw [hjson, Json.depth]
  exact Nat.succ_le_succ (hentries result _)

theorem any : Decoder.Shallow Decode.any id := by
  intro origin value result hresult
  cases hresult
  exact (Json.depth_canonical_le value).trans (Nat.le_succ _)

theorem members : Decoder.Shallow Decode.members .object := by
  intro origin value result hresult
  cases value with
  | object entries =>
      cases hresult
      have hdepth := Json.depth_canonical_le (.object entries)
      rw [Json.canonical_object] at hdepth
      exact hdepth.trans (Nat.le_succ _)
  | null | bool | number | string | array => simp [Decode.members] at hresult

theorem list (h : decoder.Shallow toJson) :
    (Decode.list decoder).Shallow fun values => .array (values.map toJson) := by
  intro origin value result hresult
  cases value with
  | array items =>
      rw [Json.depth, Json.depth, Nat.succ_le_succ_iff, Json.depthItems_le_iff,
        List.forall_mem_map]
      intro held hheld
      obtain ⟨item, hitem, hread⟩ := Outcome.exists_mem_of_mapM_eq_ok hresult hheld
      have hinside := Json.depthItems_le_iff.mp le_rfl item hitem
      exact (h origin item held hread).trans (Nat.succ_le_succ hinside)
  | null | bool | number | string | object => simp [Decode.list] at hresult

end Decoder.Shallow

namespace Fields.EnsuresWithin

variable {bound : Nat} {fields : Fields α} {property : α → Prop} {target : β → Prop}

theorem map (h : fields.EnsuresWithin bound property) {f : α → β}
    (himp : ∀ value, property value → target (f value)) :
    (f <$> fields).EnsuresWithin bound target where
  byName origin entries result hentries hresult := by
    obtain ⟨value, hvalue, rfl⟩ := Outcome.map_eq_ok_iff.mp hresult
    exact himp value (h.byName origin entries value hentries hvalue)
  byPosition origin position items result rest hitems hresult := by
    obtain ⟨⟨value, left⟩, hvalue, heq⟩ := Outcome.map_eq_ok_iff.mp hresult
    cases heq
    obtain ⟨hproperty, hrest⟩ := h.byPosition origin position items value rest hitems hvalue
    exact ⟨himp value hproperty, hrest⟩

theorem seq {functions : Fields (α → β)} {fields : Fields α}
    (hfunctions : functions.EnsuresWithin bound fun f => ∀ value, property value → target (f value))
    (hfields : fields.EnsuresWithin bound property) :
    (functions <*> fields).EnsuresWithin bound target where
  byName origin entries result hentries hresult := by
    obtain ⟨⟨f, value⟩, hpair, rfl⟩ := Outcome.map_eq_ok_iff.mp hresult
    obtain ⟨hf, hvalue⟩ := Ranked.pair_eq_ok_iff.mp hpair
    exact hfunctions.byName origin entries f hentries hf value
      (hfields.byName origin entries value hentries hvalue)
  byPosition origin position items result rest hitems hresult := by
    obtain ⟨pair, hpair, heq⟩ := Outcome.map_eq_ok_iff.mp hresult
    cases heq
    simp only [Fields.pair, Outcome.bind_eq_ok_iff] at hpair
    obtain ⟨⟨f, middle⟩, hf, ⟨value, left⟩, hvalue, heq⟩ := hpair
    cases heq
    obtain ⟨hfirst, hmiddle⟩ := hfunctions.byPosition _ _ _ f middle hitems hf
    obtain ⟨hsecond, hrest⟩ := hfields.byPosition _ _ _ value left
      (fun item hitem => hitems item (hmiddle hitem)) hvalue
    exact ⟨hfirst value hsecond, List.Subset.trans hrest hmiddle⟩

theorem field {decoder : Decoder α} (h : ∀ origin value result, value.depth ≤ bound →
      decoder origin value = .ok result → property result) (keys : List String)
    {absent defaulted : Option α} (habsent : ∀ value ∈ absent, property value)
    (hdefaulted : ∀ value ∈ defaulted, property value) :
    (Fields.field keys decoder absent defaulted).EnsuresWithin bound property where
  byName origin entries result hentries hresult := by
    simp only [Fields.field] at hresult
    split at hresult
    · split at hresult
      · cases hresult
        exact habsent _ rfl
      · simp at hresult
    · rename_i place value others hoccurrences
      have hinside : ∃ entry ∈ entries, entry.2 = value := by
        have hmem : (place, value) ∈ occurrences keys entries := by simp [hoccurrences]
        rw [occurrences, List.mem_map] at hmem
        obtain ⟨⟨entry, index⟩, hentry, heq⟩ := hmem
        cases heq
        exact ⟨entry, List.fst_mem_of_mem_zipIdx (List.mem_of_mem_filter hentry), rfl⟩
      obtain ⟨entry, hentry, rfl⟩ := hinside
      split at hresult
      · simp at hresult
      · simp at hresult
      · rename_i hread
        cases hresult
        exact h _ _ _ (hentries entry hentry) hread
  byPosition origin position items result rest hitems hresult := by
    simp only [Fields.field] at hresult
    split at hresult
    · split at hresult
      · cases hresult
        exact ⟨hdefaulted _ rfl, List.Subset.refl _⟩
      · simp at hresult
    · split at hresult
      · simp at hresult
      · rename_i hread
        cases hresult
        exact ⟨h _ _ _ (hitems _ List.mem_cons_self) hread, List.subset_cons_self ..⟩

/-- A field of which nothing has to be known. -/
theorem trivial (keys : List String) (decoder : Decoder α) (absent defaulted : Option α) :
    (Fields.field keys decoder absent defaulted).EnsuresWithin bound fun _ => True :=
  field (fun _ _ _ _ _ => True.intro) keys (fun _ _ => True.intro) fun _ _ => True.intro

section

variable {decoder : Decoder α} {toJson : α → Json} (h : decoder.Shallow toJson)

include h

theorem required (key : String) : (Fields.required key decoder).EnsuresWithin bound
    fun value => (toJson value).depth ≤ bound + 1 :=
  field (fun origin value result hvalue hread =>
    (h origin value result hread).trans (Nat.succ_le_succ hvalue)) [key] (by simp) (by simp)

theorem ofOption (key : String) {defaulted : Option (Option α)}
    (hdefaulted : ∀ value ∈ defaulted, value = none) :
    (Fields.field [key] (Decode.optional decoder) (some none) defaulted).EnsuresWithin bound
      fun value => ∀ held ∈ value, (toJson held).depth ≤ bound + 1 := by
  refine field (fun origin value result hvalue hread held hheld => ?_) [key] (by simp) ?_
  · by_cases hnull : value = .null
    · subst hnull
      cases hread
      cases hheld
    · rw [Decode.optional_of_ne_null hnull, Outcome.map_eq_ok_iff] at hread
      obtain ⟨inner, hinner, rfl⟩ := hread
      cases hheld
      exact (h origin value _ hinner).trans (Nat.succ_le_succ hvalue)
  · intro value hvalue
    rw [hdefaulted value hvalue]
    nofun

theorem optional (key : String) : (Fields.optional key decoder).EnsuresWithin bound
    fun value => ∀ held ∈ value, (toJson held).depth ≤ bound + 1 :=
  ofOption h key (by simp)

theorem omissible (key : String) : (Fields.omissible key decoder).EnsuresWithin bound
    fun value => ∀ held ∈ value, (toJson held).depth ≤ bound + 1 :=
  ofOption h key (by simp)

/-- A sequence of several names that is empty when it is missing. -/
theorem listed (keys : List String) :
    (Fields.aliased keys (Decode.list decoder) []).EnsuresWithin bound
      fun values => Json.depthItems (values.map toJson) ≤ bound := by
  refine field (fun origin value result hvalue hread => Nat.succ_le_succ_iff.mp
    ((h.list origin value result hread).trans (Nat.succ_le_succ hvalue))) keys ?_ ?_
  all_goals
    rintro values ⟨⟩
    exact Nat.zero_le bound

end

end Fields.EnsuresWithin

/-- A record has a level of its own above what its fields read. -/
theorem Decode.record_shallow {fields : Fields α} {toJson : α → Json}
    (h : ∀ bound, fields.EnsuresWithin bound fun value => (toJson value).depth ≤ bound + 2)
    (name : String) : (Decode.record name fields).Shallow toJson := by
  intro origin value result hresult
  cases value with
  | object members =>
      exact (h _).byName origin members result (Json.depthMembers_le_iff.mp le_rfl)
        (Outcome.mapError_eq_ok_iff.mp hresult)
  | array items =>
      simp only [Decode.record] at hresult
      split at hresult
      · simp at hresult
      · simp at hresult
      · rename_i hread
        cases hresult
        exact ((h _).byPosition _ _ _ _ _ (Json.depthItems_le_iff.mp le_rfl) hread).1
      · simp at hresult
  | null | bool | number | string => simp [Decode.record] at hresult

end Forms
