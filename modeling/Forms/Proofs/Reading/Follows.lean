import Forms.Proofs.Reading.Restores

/-!
# Reading from related values

Two values that differ may be read alike.  A decoder *follows* a relation when related values are
read to the same, or neither of them is read.  Two objects are related when under every key the same
number of values stands on both sides, related one by one; the order of different keys does not
matter, and a key may be repeated.  A record follows the relation when each of its fields does.
-/

namespace Forms

variable {α β : Type}

/-! ## What stands under a key -/

namespace Entries

/-- The values under a key, in order. -/
def valuesAt (entries : List (String × α)) (key : String) : List α :=
  (entries.filter fun entry => entry.1 == key).map Prod.snd

theorem valuesAt_cons (own key : String) (value : α) (entries : List (String × α)) :
    valuesAt ((own, value) :: entries) key =
      if key = own then value :: valuesAt entries key else valuesAt entries key := by
  by_cases hkey : key = own
  · simp [valuesAt, hkey]
  · simp [valuesAt, hkey, Ne.symm hkey]

theorem mem_valuesAt_iff {entries : List (String × α)} {key : String} {value : α} :
    value ∈ valuesAt entries key ↔ (key, value) ∈ entries := by
  simp [valuesAt]

/-- Of repeated writes the last one counts. -/
theorem get?_ofWrites_eq_getLast? (writes : List (String × α)) (key : String) :
    (ofWrites writes).get? key = (valuesAt writes key).getLast? := by
  induction writes with
  | nil => rfl
  | cons entry writes ih =>
      rw [get?_ofWrites_cons, ih, valuesAt_cons]
      by_cases hkey : key = entry.1
      · rw [if_pos hkey, if_pos hkey, List.getLast?_cons]
        cases (valuesAt writes key).getLast? <;> rfl
      · rw [if_neg hkey, if_neg hkey, Option.or_none]

/-- Without repetition there is at most one value under a key. -/
theorem Ascending.valuesAt_eq {entries : Entries α} (hascending : entries.Ascending)
    (key : String) : valuesAt entries key = (entries.get? key).toList := by
  have hnodup := hascending.nodup_keys
  clear hascending
  induction entries with
  | nil => rfl
  | cons entry entries ih =>
      obtain ⟨own, value⟩ := entry
      rw [List.map_cons, List.nodup_cons] at hnodup
      have hrest := ih hnodup.2
      rw [valuesAt_cons, get?_cons, hrest]
      by_cases hkey : key = own
      · rw [if_pos hkey, if_pos hkey, hkey, get?_eq_none_iff.mpr hnodup.1]
        rfl
      · rw [if_neg hkey, if_neg hkey]

theorem valuesAt_filter_key (keep : String → Bool) (entries : List (String × α)) (key : String) :
    valuesAt (entries.filter fun entry => keep entry.1) key =
      if keep key then valuesAt entries key else [] := by
  induction entries with
  | nil => simp [valuesAt]
  | cons entry entries ih =>
      obtain ⟨own, value⟩ := entry
      rw [List.filter_cons, valuesAt_cons]
      by_cases hkey : key = own
      · subst hkey
        by_cases hkeep : keep key <;> simp [hkeep, valuesAt_cons, ih]
      · by_cases hkeep : keep own <;> simp [hkeep, hkey, valuesAt_cons, ih]

/-- What stands under either of two names is what stands under the one and under the other. -/
theorem valuesAt_append_perm {first second : String} (hne : first ≠ second)
    (entries : List (String × α)) :
    ((entries.filter fun entry => [first, second].contains entry.1).map Prod.snd).Perm
      (valuesAt entries first ++ valuesAt entries second) := by
  induction entries with
  | nil => exact .nil
  | cons entry entries ih =>
      obtain ⟨own, value⟩ := entry
      rw [valuesAt_cons, valuesAt_cons, List.filter_cons]
      by_cases hfirst : first = own
      · subst hfirst
        simpa [hne.symm] using ih
      · by_cases hsecond : second = own
        · subst hsecond
          simpa [hfirst] using (ih.cons value).trans List.perm_middle.symm
        · simpa [hfirst, hsecond, Ne.symm hfirst, Ne.symm hsecond] using ih

end Entries

/-! ## Related values -/

/-- The values are equal, or they are arrays whose items are related one by one. -/
def Json.ItemsRelated (related : Json → Json → Prop) (before after : Json) : Prop :=
  before = after ∨ ∃ items others, before = .array items ∧ after = .array others ∧
    List.Forall₂ related items others

/-- Under every key the values of both sides are related one by one. -/
def Entries.Related (related : String → Json → Json → Prop)
    (before after : List (String × Json)) : Prop :=
  ∀ key, List.Forall₂ (related key) (Entries.valuesAt before key) (Entries.valuesAt after key)

namespace Entries.Related

variable {related : String → Json → Json → Prop} {before after : List (String × Json)}

theorem nil : Related related [] [] := fun _ => .nil

/-- Members that stand in their places are compared one by one. -/
theorem cons {key : String} {value other : Json} (hvalue : related key value other)
    (h : Related related before after) :
    Related related ((key, value) :: before) ((key, other) :: after) := by
  intro wanted
  rw [valuesAt_cons, valuesAt_cons]
  split
  · rename_i hkey
    exact .cons (hkey ▸ hvalue) (h wanted)
  · exact h wanted

end Entries.Related

/-- Related values are read to the same, or they are not read. -/
def Decoder.Follows (decoder : Decoder α) (related : Json → Json → Prop) : Prop :=
  ∀ origin before after value, related before after →
    (decoder origin before = .ok value ↔ decoder origin after = .ok value)

/-- Objects with related members are read to the same, or they are not read. -/
def Fields.Follows (fields : Fields α) (related : String → Json → Json → Prop) : Prop :=
  ∀ origin before after value, Entries.Related related before after →
    (fields.Reads origin before value ↔ fields.Reads origin after value)

namespace Decoder.Follows

variable {decoder : Decoder α} {related : Json → Json → Prop}

theorem eq (decoder : Decoder α) : decoder.Follows Eq := by
  rintro origin before after value rfl
  rfl

/-- Null stands for nothing, so it may be related to null alone. -/
theorem optional (h : decoder.Follows related)
    (hnull : ∀ before after, related before after → (before = .null ↔ after = .null)) :
    (Decode.optional decoder).Follows related := by
  intro origin before after value hrelated
  by_cases hbefore : before = .null
  · rw [(hnull before after hrelated).mp hbefore, hbefore]
  · have hafter : after ≠ .null := fun hafter => hbefore ((hnull before after hrelated).mpr hafter)
    rw [Decode.optional_of_ne_null hbefore, Decode.optional_of_ne_null hafter,
      Outcome.map_eq_ok_iff, Outcome.map_eq_ok_iff]
    exact exists_congr fun held => and_congr_left' (h origin before after held hrelated)

theorem list (h : decoder.Follows related) :
    (Decode.list decoder).Follows (Json.ItemsRelated related) := by
  rintro origin before after values (rfl | ⟨items, others, rfl, rfl, hitems⟩)
  · rfl
  · rw [Decode.list, Outcome.mapM_eq_ok_iff, Decode.list, Outcome.mapM_eq_ok_iff]
    induction hitems generalizing values with
    | nil => rfl
    | @cons item other items others hitem _ ih =>
        have hhead (value : α) := h origin item other value hitem
        simp only [List.forall₂_cons_left_iff, hhead, ih]

end Decoder.Follows

namespace Fields

/-- A field is read from what stands under its names, which is at most one value. -/
def ReadsFrom (decoder : Decoder α) (absent : Option α) (origin : Origin) (values : List Json)
    (value : α) : Prop :=
  match values with
  | [] => absent = some value
  | [found] => decoder origin found = .ok value
  | _ => False

section

variable {decoder : Decoder α} {absent defaulted : Option α} {origin : Origin}
variable {entries : List (String × Json)} {value : α}

theorem readsFrom_iff_of_perm {values others : List Json} (hvalues : values.Perm others) :
    ReadsFrom decoder absent origin values value ↔
      ReadsFrom decoder absent origin others value := by
  match values, hvalues with
  | [], hvalues => rw [List.nil_perm.mp hvalues]
  | [found], hvalues => rw [List.singleton_perm.mp hvalues]
  | first :: second :: rest, hvalues =>
      have hlength := hvalues.length_eq
      match others with
      | [] | [_] => simp at hlength
      | _ :: _ :: _ => rfl

theorem readsFrom_iff_of_forall₂ {related : Json → Json → Prop} (h : decoder.Follows related)
    {values others : List Json} (hvalues : List.Forall₂ related values others) :
    ReadsFrom decoder absent origin values value ↔
      ReadsFrom decoder absent origin others value := by
  cases hvalues with
  | nil => rfl
  | cons hfirst hrest =>
      cases hrest with
      | nil => exact h origin _ _ value hfirst
      | cons => rfl

theorem map_occurrences (keys : List String) (entries : List (String × Json)) :
    (occurrences keys entries).map Prod.snd =
      (entries.filter fun entry => keys.contains entry.1).map Prod.snd := by
  conv_rhs => rw [← List.zipIdx_map_fst 0 entries, List.filter_map]
  simp only [occurrences, List.map_map, Function.comp_def]

theorem reads_field_iff_readsFrom (keys : List String) :
    (Fields.field keys decoder absent defaulted).Reads origin entries value ↔
      ReadsFrom decoder absent origin
        ((entries.filter fun entry => keys.contains entry.1).map Prod.snd) value := by
  rw [← map_occurrences]
  simp only [Reads, field]
  rcases occurrences keys entries with - | ⟨⟨place, found⟩, - | ⟨again, rest⟩⟩
  · cases absent <;> simp [ReadsFrom]
  · cases hread : decoder origin found <;> simp [ReadsFrom, hread]
  · cases hread : decoder origin found <;> simp [ReadsFrom, hread]

theorem reads_field_iff_valuesAt (own : String) :
    (Fields.field [own] decoder absent defaulted).Reads origin entries value ↔
      ReadsFrom decoder absent origin (Entries.valuesAt entries own) value := by
  have hsame : (fun entry : String × Json => [own].contains entry.1) =
      fun entry => entry.1 == own := by
    funext entry
    rw [List.contains_cons, List.contains_nil, Bool.or_false]
  rw [reads_field_iff_readsFrom, hsame, Entries.valuesAt]

/-- A field of two names is read from what stands under either of them. -/
theorem reads_aliased_iff {first second : String} (hne : first ≠ second) :
    (Fields.field [first, second] decoder absent defaulted).Reads origin entries value ↔
      ReadsFrom decoder absent origin
        (Entries.valuesAt entries first ++ Entries.valuesAt entries second) value := by
  rw [reads_field_iff_readsFrom]
  exact readsFrom_iff_of_perm (Entries.valuesAt_append_perm hne entries)

end

namespace Follows

variable {fields : Fields α} {related : String → Json → Json → Prop}

theorem map (h : fields.Follows related) (f : α → β) : (f <$> fields).Follows related := by
  intro origin before after result hrelated
  rw [reads_map_iff, reads_map_iff]
  exact exists_congr fun value => and_congr_left' (h origin before after value hrelated)

theorem seq {functions : Fields (α → β)} (hfunctions : functions.Follows related)
    (hfields : fields.Follows related) : (functions <*> fields).Follows related := by
  intro origin before after result hrelated
  rw [reads_seq_iff, reads_seq_iff]
  refine exists_congr fun f => and_congr (hfunctions origin before after f hrelated) ?_
  exact exists_congr fun value => and_congr_left' (hfields origin before after value hrelated)

/-- A field follows the relation of the values under its name. -/
theorem field {own : String} {decoder : Decoder α} {absent defaulted : Option α}
    (h : decoder.Follows (related own)) :
    (Fields.field [own] decoder absent defaulted).Follows related := by
  intro origin before after value hrelated
  rw [reads_field_iff_valuesAt, reads_field_iff_valuesAt]
  exact readsFrom_iff_of_forall₂ h (hrelated own)

/-- Under a name where the values have to be equal any field can be read. -/
theorem field_eq {own : String} {decoder : Decoder α} {absent defaulted : Option α}
    (hown : related own = Eq) : (Fields.field [own] decoder absent defaulted).Follows related :=
  field (hown ▸ .eq decoder)

/-- A field of two names follows the relation of the values under both. -/
theorem aliased {first second : String} {decoder : Decoder α} {absent defaulted : Option α}
    {own : Json → Json → Prop} (hne : first ≠ second) (h : decoder.Follows own)
    (hfirst : related first = own) (hsecond : related second = own) :
    (Fields.field [first, second] decoder absent defaulted).Follows related := by
  intro origin before after value hrelated
  rw [reads_aliased_iff hne, reads_aliased_iff hne]
  exact readsFrom_iff_of_forall₂ h
    (List.rel_append (hfirst ▸ hrelated first) (hsecond ▸ hrelated second))

end Follows

end Fields

theorem Decode.record_object_eq_ok_iff {name : String} {fields : Fields α} {origin : Origin}
    {members : List (String × Json)} {value : α} :
    Decode.record name fields origin (.object members) = .ok value ↔
      fields.Reads origin members value :=
  Outcome.mapError_eq_ok_iff

/-! ## Reading by position -/

theorem Decode.record_array_eq_ok_iff {name : String} {fields : Fields α} {origin : Origin}
    {items : List Json} {value : α} :
    Decode.record name fields origin (.array items) = .ok value ↔
      fields.byPosition origin 0 items = .ok (value, []) := by
  simp only [Decode.record]
  split <;> simp_all

namespace Fields

theorem byPosition_map_iff {fields : Fields α} {f : α → β} {origin : Origin} {position : Nat}
    {items rest : List Json} {result : β} :
    (f <$> fields).byPosition origin position items = .ok (result, rest) ↔
      ∃ value, fields.byPosition origin position items = .ok (value, rest) ∧ f value = result := by
  refine Outcome.map_eq_ok_iff.trans ?_
  simp

theorem byPosition_seq_iff {functions : Fields (α → β)} {fields : Fields α} {origin : Origin}
    {position : Nat} {items rest : List Json} {result : β} :
    (functions <*> fields).byPosition origin position items = .ok (result, rest) ↔
      ∃ f middle, functions.byPosition origin position items = .ok (f, middle) ∧
        ∃ value, fields.byPosition origin (position + functions.count) middle = .ok (value, rest) ∧
          f value = result := by
  refine Outcome.map_eq_ok_iff.trans ?_
  simp only [pair, Outcome.bind_eq_ok_iff]
  constructor
  · rintro ⟨_, ⟨⟨f, middle⟩, hf, ⟨value, left⟩, hvalue, heq⟩, hresult⟩
    cases heq
    cases hresult
    exact ⟨f, middle, hf, value, hvalue, rfl⟩
  · rintro ⟨f, middle, hf, value, hvalue, rfl⟩
    exact ⟨_, ⟨_, hf, _, hvalue, rfl⟩, rfl⟩

theorem byPosition_field_cons_iff {keys : List String} {decoder : Decoder α}
    {absent defaulted : Option α} {origin : Origin} {position : Nat} {item : Json}
    {items rest : List Json} {value : α} :
    (Fields.field keys decoder absent defaulted).byPosition origin position (item :: items) =
        .ok (value, rest) ↔ decoder origin item = .ok value ∧ rest = items := by
  simp only [field]
  cases decoder origin item <;> simp [eq_comm]

end Fields

end Forms
