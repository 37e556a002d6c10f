import Forms.Decode.Record
import Forms.Proofs.Canonical
import Forms.Proofs.Reading.Ensures
import Mathlib.Data.List.Nodup
import Mathlib.Data.Set.List

/-!
# What a decoder restores

A decoder *restores* a value when it gives that value back from its written form, members in any
order.  A record is restored when each of its fields finds under its key what was written of it, or
finds nothing and nothing was written.
-/

namespace Forms

variable {α β : Type}

/-- The decoder gives the value back from its written form. -/
def Decoder.Restores (decoder : Decoder α) (toJson : α → Json) (value : α) : Prop :=
  ∀ origin found, Json.Rearranges found (toJson value) → decoder origin found = .ok value

/-- The fields give the value from these entries. -/
def Fields.Reads (fields : Fields α) (origin : Origin) (entries : List (String × Json))
    (value : α) : Prop :=
  fields.byName origin entries = .ok value

@[simp]
theorem get?_ofWrites_optionalEntry (key wanted : String) (toJson : α → Json) (value : Option α) :
    (Entries.ofWrites (optionalEntry key toJson value)).get? wanted =
      if wanted = key then value.map toJson else none := by
  cases value with
  | none => simp [optionalEntry]
  | some held => simp [optionalEntry]

/-! ## Single values -/

theorem Number.inRange_uInt32 (count : UInt32) : Number.InRange count.toNat := by
  have hbound := count.toNat_lt
  constructor <;> omega

theorem Number.inRange_uInt64 (count : UInt64) : Number.InRange count.toNat := by
  have hbound := count.toNat_lt
  constructor <;> omega

namespace Decoder.Restores

theorem string (text : String) : Decoder.Restores Decode.string .string text := by
  intro origin found hfound
  rw [hfound.eq_string]
  rfl

theorem boolean (flag : Bool) : Decoder.Restores Decode.boolean .bool flag := by
  intro origin found hfound
  rw [hfound.eq_bool]
  rfl

theorem any {value : Json} (hvalue : value.IsCanonical) : Decoder.Restores Decode.any id value := by
  intro origin found hfound
  rw [Decode.any, hfound.2]
  exact congrArg Except.ok hvalue

theorem nonBlank (name : NonBlank) :
    Decoder.Restores Decode.nonBlank (fun name => .string name.text) name := by
  intro origin found hfound
  rw [hfound.eq_string]
  simp [Decode.nonBlank, Decode.string, bind, Except.bind, NonBlank.ofString?_text]

theorem double (value : Double) :
    Decoder.Restores Decode.double (fun value => .number (.double value)) value := by
  intro origin found hfound
  rw [hfound.eq_number]
  rfl

theorem natural {bound value : Nat} (hbound : value < bound) (expected : Expected)
    (inRange : Number.InRange value) (origin : Origin) :
    Decode.natural bound expected origin (.number (.integer value inRange)) = .ok value := by
  simp only [Decode.natural]
  rw [if_pos ⟨Int.natCast_nonneg value, Int.ofNat_lt.mpr hbound⟩]
  rfl

theorem count32 (count : UInt32) :
    Decoder.Restores Decode.count32 (fun count => .number (.ofUInt32 count)) count := by
  intro origin found hfound
  rw [hfound.eq_number]
  have hnatural := natural count.toNat_lt_size .count32 (Number.inRange_uInt32 count) origin
  calc
    Decode.count32 origin (.number (.ofUInt32 count)) =
        (Except.ok count.toNat).map UInt32.ofNat := congrArg (Except.map UInt32.ofNat) hnatural
    _ = .ok count := congrArg Except.ok count.ofNat_toNat

theorem count64 (count : UInt64) :
    Decoder.Restores Decode.count64 (fun count => .number (.ofUInt64 count)) count := by
  intro origin found hfound
  rw [hfound.eq_number]
  have hnatural := natural count.toNat_lt_size .count64 (Number.inRange_uInt64 count) origin
  calc
    Decode.count64 origin (.number (.ofUInt64 count)) =
        (Except.ok count.toNat).map UInt64.ofNat := congrArg (Except.map UInt64.ofNat) hnatural
    _ = .ok count := congrArg Except.ok count.ofNat_toNat

theorem members {members : Members} (hmembers : (Json.object members).IsCanonical) :
    Decoder.Restores Decode.members .object members := by
  intro origin found hfound
  obtain ⟨entries, rfl, hcarries⟩ := hfound.object
  rw [Json.IsCanonical, Json.canonical_object, Json.object.injEq] at hmembers
  rw [Decode.members, hcarries.same, hmembers]

theorem texts {texts : Entries String} (htexts : texts.Ascending) :
    Decoder.Restores (Decode.map Decode.string) (fun texts => .object (texts.mapValues .string))
      texts := by
  intro origin found hfound
  obtain ⟨entries, rfl, hcarries⟩ := hfound.object
  have hentries : ∀ entry ∈ entries, entry ∈ Set.range fun text : String × String =>
      (text.1, Json.string text.2) := by
    intro entry hentry
    obtain ⟨member, hmember, hrearranges⟩ := hcarries.written_of_mem hentry
    rw [← Entries.mapValues_ofWrites, Entries.get?_mapValues, Option.map_eq_some_iff] at hmember
    obtain ⟨text, -, rfl⟩ := hmember
    exact ⟨(entry.1, text), Prod.ext rfl hrearranges.eq_string.symm⟩
  obtain ⟨read, rfl⟩ : entries ∈ Set.range (List.map fun text : String × String =>
      (text.1, Json.string text.2)) := by
    rw [Set.range_list_map]
    exact hentries
  have hread : Entries.ofWrites read = texts := by
    apply (Entries.ascending_ofWrites read).ext htexts
    intro key
    have hsame := hcarries.get?_map_canonical key
    change ((Entries.mapValues Json.string read).get? key).map _ = _ at hsame
    have hnodup : (read.map Prod.fst).Nodup := by
      rw [← Entries.mapValues_keys Json.string]
      exact hcarries.distinct
    rw [Entries.get?_mapValues, ← Entries.mapValues_ofWrites, Entries.get?_mapValues,
      htexts.ofWrites_eq, ← Entries.get?_ofWrites_of_nodup hnodup] at hsame
    have hinjective : Function.Injective fun text => (Json.string text).canonical := by
      intro left right heq
      simpa [Json.canonical] using heq
    rw [Option.map_map, Option.map_map] at hsame
    exact Option.map_injective hinjective hsame
  rw [Decode.map, Outcome.mapM_map_eq_ok]
  · exact congrArg Except.ok hread
  · intro text
    rfl

/-- An alternative is restored from its own name. -/
theorem variant {known : List (String × α)} {name : α → String} {value : α}
    (hknown : known.lookup (name value) = some value) :
    Decoder.Restores (Decode.variant known) (fun value => .string (name value)) value := by
  intro origin found hfound
  rw [hfound.eq_string]
  cases origin <;> simp [Decode.variant, Decode.alternative, hknown]

theorem list {decoder : Decoder α} {toJson : α → Json} {values : List α}
    (hvalues : ∀ value ∈ values, decoder.Restores toJson value) :
    (Decode.list decoder).Restores (fun values => .array (values.map toJson)) values := by
  intro origin found hfound
  obtain ⟨items, rfl, hitems⟩ := hfound.array
  rw [Decode.list, Outcome.mapM_eq_ok_iff]
  rw [List.forall₂_map_right_iff] at hitems
  clear hfound
  induction hitems with
  | nil => exact .nil
  | cons hitem _ ih =>
      refine .cons (hvalues _ List.mem_cons_self origin _ hitem) (ih ?_)
      exact fun value hvalue => hvalues value (List.mem_cons_of_mem _ hvalue)

end Decoder.Restores

/-! ## Fields of a record -/

namespace Fields

theorem filter_zipIdx_eq_nil {keys : List String} {part : List (String × Json)}
    (habsent : ∀ entry ∈ part, entry.1 ∉ keys) (start : Nat) :
    (part.zipIdx start).filter (fun (entry, _) => keys.contains entry.1) = [] := by
  rw [List.filter_eq_nil_iff]
  rintro ⟨entry, place⟩ hentry hkey
  exact habsent entry (List.fst_mem_of_mem_zipIdx hentry) (by simpa using hkey)

theorem occurrences_eq_nil {keys : List String} {entries : List (String × Json)}
    (habsent : ∀ key ∈ keys, Entries.get? entries key = none) : occurrences keys entries = [] := by
  have hentries : ∀ entry ∈ entries, entry.1 ∉ keys := by
    intro entry hentry hkey
    exact Entries.get?_eq_none_iff.mp (habsent entry.1 hkey) (List.mem_map_of_mem hentry)
  rw [occurrences, filter_zipIdx_eq_nil hentries, List.map_nil]

/-- Of several names of a field, one that is used once gives the only occurrence. -/
theorem occurrences_eq_singleton {keys : List String} {entries : List (String × Json)}
    (hdistinct : (entries.map Prod.fst).Nodup) {key : String} {value : Json} (hkey : key ∈ keys)
    (hget : Entries.get? entries key = some value)
    (hothers : ∀ other ∈ keys, other ≠ key → Entries.get? entries other = none) :
    ∃ place, occurrences keys entries = [(place, value)] := by
  rw [Entries.get?, List.lookup_eq_some_iff] at hget
  obtain ⟨before, after, rfl, -⟩ := hget
  have hunique : key ∉ (before ++ after).map Prod.fst := by
    rw [List.map_append, List.map_cons, List.nodup_middle, List.nodup_cons, ← List.map_append]
      at hdistinct
    exact hdistinct.1
  have hrest : ∀ entry ∈ before ++ after, entry.1 ∉ keys := by
    intro entry hentry hmem
    have hother : entry.1 ≠ key := by
      rintro rfl
      exact hunique (List.mem_map_of_mem hentry)
    have hnone := Entries.get?_eq_none_iff.mp (hothers entry.1 hmem hother)
    apply hnone
    apply List.mem_map_of_mem
    rcases List.mem_append.mp hentry with hbefore | hafter
    · exact List.mem_append_left _ hbefore
    · exact List.mem_append_right _ (List.mem_cons_of_mem _ hafter)
  rw [List.forall_mem_append] at hrest
  refine ⟨before.length, ?_⟩
  rw [occurrences, List.zipIdx_append, List.filter_append, filter_zipIdx_eq_nil hrest.1,
    List.zipIdx_cons, List.filter_cons_of_pos (by simpa using hkey), filter_zipIdx_eq_nil hrest.2]
  simp

theorem reads_map_iff {fields : Fields α} {f : α → β} {origin : Origin}
    {entries : List (String × Json)} {result : β} :
    (f <$> fields).Reads origin entries result ↔
      ∃ value, fields.Reads origin entries value ∧ f value = result :=
  Outcome.map_eq_ok_iff

/-- Two groups of fields are read when each of them is. -/
theorem reads_seq_iff {functions : Fields (α → β)} {fields : Fields α} {origin : Origin}
    {entries : List (String × Json)} {result : β} :
    (functions <*> fields).Reads origin entries result ↔
      ∃ f, functions.Reads origin entries f ∧
        ∃ value, fields.Reads origin entries value ∧ f value = result := by
  constructor
  · intro hread
    obtain ⟨⟨f, value⟩, hpair, rfl⟩ := Outcome.map_eq_ok_iff.mp hread
    obtain ⟨hf, hvalue⟩ := Ranked.pair_eq_ok_iff.mp hpair
    exact ⟨f, hf, value, hvalue, rfl⟩
  · rintro ⟨f, hf, value, hvalue, rfl⟩
    exact Outcome.map_eq_ok_iff.mpr ⟨(f, value), Ranked.pair_eq_ok_iff.mpr ⟨hf, hvalue⟩, rfl⟩

namespace Reads

variable {fields : Fields α} {origin : Origin} {entries written : List (String × Json)}
variable {decoder : Decoder α} {toJson : α → Json} {key : String} {value : α}

theorem map (h : fields.Reads origin entries value) (f : α → β) :
    (f <$> fields).Reads origin entries (f value) :=
  reads_map_iff.mpr ⟨value, h, rfl⟩

theorem seq {functions : Fields (α → β)} {f : α → β} (hfunctions : functions.Reads origin entries f)
    (hfields : fields.Reads origin entries value) :
    (functions <*> fields).Reads origin entries (f value) :=
  reads_seq_iff.mpr ⟨f, hfunctions, value, hfields, rfl⟩

/-- A field that stands once under one of its names is read from there. -/
theorem field {keys : List String} {absent defaulted : Option α}
    (hcarries : Json.Carries entries written) (hkey : key ∈ keys)
    (hwritten : (Entries.ofWrites written).get? key = some (toJson value))
    (hothers : ∀ other ∈ keys, other ≠ key → (Entries.ofWrites written).get? other = none)
    (hrestores : decoder.Restores toJson value) :
    (Fields.field keys decoder absent defaulted).Reads origin entries value := by
  obtain ⟨found, hfound, hrearranges⟩ := hcarries.found hwritten
  obtain ⟨place, hplace⟩ := occurrences_eq_singleton hcarries.distinct hkey hfound
    fun other hother hne => hcarries.absent (hothers other hother hne)
  simp only [Fields.Reads, Fields.field, hplace, hrestores origin found hrearranges]

/-- A field that stands under none of its names has its default. -/
theorem field_absent {keys : List String} {defaulted : Option α}
    (hcarries : Json.Carries entries written)
    (hwritten : ∀ key ∈ keys, (Entries.ofWrites written).get? key = none) :
    (Fields.field keys decoder (some value) defaulted).Reads origin entries value := by
  have hnone := occurrences_eq_nil fun key hkey => hcarries.absent (hwritten key hkey)
  simp only [Fields.Reads, Fields.field, hnone]

theorem required (hcarries : Json.Carries entries written)
    (hwritten : (Entries.ofWrites written).get? key = some (toJson value))
    (hrestores : decoder.Restores toJson value) :
    (Fields.required key decoder).Reads origin entries value :=
  field hcarries List.mem_cons_self hwritten (by simp) hrestores

theorem defaulting (hcarries : Json.Carries entries written)
    (hwritten : (Entries.ofWrites written).get? key = some (toJson value))
    (hrestores : decoder.Restores toJson value) (default : α) :
    (Fields.defaulting key decoder default).Reads origin entries value :=
  field hcarries List.mem_cons_self hwritten (by simp) hrestores

theorem defaulting_absent (hcarries : Json.Carries entries written)
    (hwritten : (Entries.ofWrites written).get? key = none) :
    (Fields.defaulting key decoder value).Reads origin entries value :=
  field_absent hcarries (by simpa using hwritten)

variable {held : Option α}

/-- A member that is left out when there is nothing to write is read back as nothing. -/
theorem ofOption {defaulted : Option (Option α)} (hcarries : Json.Carries entries written)
    (hwritten : (Entries.ofWrites written).get? key = held.map toJson)
    (hrestores : ∀ value ∈ held, decoder.Restores toJson value ∧ toJson value ≠ .null) :
    (Fields.field [key] (Decode.optional decoder) (some none) defaulted).Reads origin entries
      held := by
  cases held with
  | none => exact field_absent hcarries (by simpa using hwritten)
  | some value =>
      obtain ⟨hvalue, hnull⟩ := hrestores value rfl
      have hsome : (Decode.optional decoder).Restores (Json.ofOption toJson) (some value) := by
        intro origin found hfound
        rw [Decode.optional_of_ne_null (hfound.ne_null hnull), hvalue origin found hfound]
        rfl
      have hheld : (Entries.ofWrites written).get? key =
          some (Json.ofOption toJson (some value)) := hwritten
      exact field hcarries List.mem_cons_self hheld (by simp) hsome

theorem optional (hcarries : Json.Carries entries written)
    (hwritten : (Entries.ofWrites written).get? key = held.map toJson)
    (hrestores : ∀ value ∈ held, decoder.Restores toJson value ∧ toJson value ≠ .null) :
    (Fields.optional key decoder).Reads origin entries held :=
  ofOption hcarries hwritten hrestores

theorem omissible (hcarries : Json.Carries entries written)
    (hwritten : (Entries.ofWrites written).get? key = held.map toJson)
    (hrestores : ∀ value ∈ held, decoder.Restores toJson value ∧ toJson value ≠ .null) :
    (Fields.omissible key decoder).Reads origin entries held :=
  ofOption hcarries hwritten hrestores

theorem optional_string {held : Option String} (hcarries : Json.Carries entries written)
    (hwritten : (Entries.ofWrites written).get? key = held.map .string) :
    (Fields.optional key Decode.string).Reads origin entries held :=
  optional hcarries hwritten fun text _ => ⟨.string text, nofun⟩

theorem omissible_string {held : Option String} (hcarries : Json.Carries entries written)
    (hwritten : (Entries.ofWrites written).get? key = held.map .string) :
    (Fields.omissible key Decode.string).Reads origin entries held :=
  omissible hcarries hwritten fun text _ => ⟨.string text, nofun⟩

theorem optional_boolean {held : Option Bool} (hcarries : Json.Carries entries written)
    (hwritten : (Entries.ofWrites written).get? key = held.map .bool) :
    (Fields.optional key Decode.boolean).Reads origin entries held :=
  optional hcarries hwritten fun flag _ => ⟨.boolean flag, nofun⟩

/-- A member of any shape that may be missing. -/
theorem optional_any {held : Option Json} (hcarries : Json.Carries entries written)
    (hwritten : (Entries.ofWrites written).get? key = held) (hheld : Json.Settled held) :
    (Fields.optional key Decode.any).Reads origin entries held :=
  optional hcarries (by rw [hwritten, Option.map_id_fun, id]) fun value hvalue =>
    ⟨.any (hheld value hvalue).1, (hheld value hvalue).2⟩

end Reads

end Fields

/-- The fields read the value from entries that carry what was written of it beside members of
these keys. -/
structure Fields.ReadsBeside (fields : Fields α) (keys : List String) (own : List (String × Json))
    (value : α) : Prop where
  apart : ∀ key ∈ keys, (Entries.ofWrites own).get? key = none
  reads : ∀ origin entries written, Json.Carries entries written →
    (∀ key ∉ keys, (Entries.ofWrites written).get? key = (Entries.ofWrites own).get? key) →
    fields.Reads origin entries value

/-- A record is restored when its fields read it from whatever carries its written members. -/
theorem Decode.record_restores {fields : Fields α} {toJson : α → Json} {value : α}
    {written : List (String × Json)} (hjson : toJson value = .object written)
    (hfields : ∀ origin entries, Json.Carries entries written → fields.Reads origin entries value)
    (name : String) : Decoder.Restores (Decode.record name fields) toJson value := by
  intro origin found hfound
  rw [hjson] at hfound
  obtain ⟨entries, rfl, hcarries⟩ := hfound.object
  rw [Decode.record, hfields origin entries hcarries]
  rfl

end Forms
