import Forms.Proofs.Codec.Members

/-!
# What is kept of a tag that is not known

A node of a tag that is not known is kept as it was read.  Only the member `type` stands in the way:
it is the older name of a tag, so the frame of the node claims it before the tag is looked at, and
asks for a text.
-/

namespace Forms

variable {α β : Type} {origin : Origin} {found : Members} {tag : String}

/-! ## One fault in a record -/

namespace Fields

/-- The entries are refused for this fault. -/
def Refuses (fields : Fields α) (origin : Origin) (entries : List (String × Json))
    (error : ReadError) : Prop :=
  ∃ place, fields.byName origin entries = .error (place, error)

namespace Refuses

variable {fields : Fields α} {functions : Fields (α → β)} {entries : List (String × Json)}
variable {error : ReadError}

/-- A fault in an earlier field, when the last one is sound. -/
theorem seq_left (h : functions.Refuses origin entries error) {value : α}
    (hfields : fields.Reads origin entries value) :
    (functions <*> fields).Refuses origin entries error := by
  obtain ⟨place, hplace⟩ := h
  refine ⟨place, ?_⟩
  change ((functions.byName origin entries).pair (fields.byName origin entries)).map _ = _
  rw [hplace, hfields]
  rfl

/-- A fault in the last field, when the earlier ones are sound. -/
theorem seq_right (h : fields.Refuses origin entries error) {f : α → β}
    (hfunctions : functions.Reads origin entries f) :
    (functions <*> fields).Refuses origin entries error := by
  obtain ⟨place, hplace⟩ := h
  refine ⟨place, ?_⟩
  change ((functions.byName origin entries).pair (fields.byName origin entries)).map _ = _
  rw [hplace, hfunctions]
  rfl

/-- A member of the wrong shape is the fault of its field. -/
theorem field {own : String} {decoder : Decoder α} {absent defaulted : Option α}
    (hdistinct : (entries.map Prod.fst).Nodup) {value : Json}
    (hget : Entries.get? entries own = some value) (hvalue : decoder origin value = .error error) :
    (Fields.field [own] decoder absent defaulted).Refuses origin entries error := by
  obtain ⟨place, hplace⟩ : ∃ place, occurrences [own] entries = [(place, value)] :=
    occurrences_eq_singleton hdistinct List.mem_cons_self hget (by simp)
  refine ⟨place, ?_⟩
  simp only [Fields.field, hplace, hvalue]

end Refuses

end Fields

namespace Node

/-! ## Objects of a tag that is not known -/

/-- An object of a node whose tag is not known, with no condition and no presentation.  Its other
members are of any names, `type` among them, and of any values. -/
structure Stranger (found : Members) (tag : String) : Prop where
  distinct : (found.map Prod.fst).Nodup
  unknown : Body.IsUnknown tag
  id : ∃ name : NonBlank, found.get? "id" = some (.string name.text)
  tag : found.get? "tag" = some (.string tag)
  plain : ∀ key ∈ ["visibleIf", "style", "className", "styleConfig"], found.get? key = none

/-- The object is read, and the node is written as the same object, members in any order. -/
def KeptVerbatim (origin : Origin) (found : Members) : Prop :=
  ∃ node, decode origin (.object found) = .ok node ∧
    node.toJson.canonical = (Json.object found).canonical

/-- Two objects are the same, members in any order, when they agree under every key. -/
theorem canonical_toJson_eq_iff (node : Node) (hdistinct : (found.map Prod.fst).Nodup) :
    node.toJson.canonical = (Json.object found).canonical ↔
      ∀ key, node.members.get? key = (found.get? key).map Json.canonical := by
  have hget (key : String) : (Entries.ofWrites (Json.canonicalMembers found)).get? key =
      (found.get? key).map Json.canonical := by
    rw [Json.get?_ofWrites_canonicalMembers, Entries.get?_ofWrites_of_nodup hdistinct]
  rw [← object_members, Json.canonical_object, Json.object.injEq]
  constructor
  · intro heq key
    rw [heq, hget]
  · intro hsame
    refine node.ascending_members.ext (Entries.ascending_ofWrites _) fun key => ?_
    rw [hsame, hget]

namespace Stranger

theorem names_read (h : Stranger found tag) (origin : Origin) : ∃ name : NonBlank,
    found.get? "id" = some (.string name.text) ∧
      (Frame.mk <$> Fields.required "id" Decode.nonBlank
        <*> Fields.optional "tag" Decode.string).Reads origin found (Frame.mk name (some tag)) := by
  obtain ⟨name, hname⟩ := h.id
  have hid : (Fields.required "id" Decode.nonBlank).Reads origin found name := by
    rw [Fields.required, Fields.reads_field_iff h.distinct, hname]
    simp [Decode.nonBlank, Decode.string, bind, Except.bind, NonBlank.ofString?_text]
  have htag : (Fields.optional "tag" Decode.string).Reads origin found (some tag) := by
    rw [Fields.optional, Fields.reads_field_iff h.distinct, h.tag]
    rfl
  exact ⟨name, hname, (hid.map Frame.mk).seq htag⟩

theorem absent_reads (h : Stranger found tag) {key : String} (decoder : Decoder α)
    (hkey : key ∈ ["visibleIf", "style", "className", "styleConfig"]) :
    (Fields.optional key decoder).Reads origin found none := by
  rw [Fields.optional, Fields.reads_field_iff h.distinct, h.plain key hkey]

/-- Once `type` is read, the node holds all that stood in the object, and under `type` what was read
there. -/
theorem exists_decode (h : Stranger found tag) {legacyTag : Option String}
    (hlegacy : (Fields.optional "type" Decode.string).Reads origin found legacyTag) :
    ∃ node, decode origin (.object found) = .ok node ∧ ∀ key, node.members.get? key =
      if key = "type" then legacyTag.map .string else (found.get? key).map Json.canonical := by
  obtain ⟨name, hname, hnames⟩ := h.names_read origin
  have hframe : frameFields.Reads origin found ⟨name, some tag, legacyTag, none, none, none, none⟩ :=
    hnames.seq hlegacy |>.seq (h.absent_reads _ (by simp)) |>.seq (h.absent_reads _ (by simp))
      |>.seq (h.absent_reads _ (by simp)) |>.seq (h.absent_reads _ (by simp))
  obtain ⟨members, hmembers⟩ :=
    exists_tagAndMembers ⟨name, some tag, legacyTag, none, none, none, none⟩ rfl
      (found.filter fun entry => !frameKeys.contains entry.1)
  obtain ⟨-, hsorted, hget⟩ := get?_of_tagAndMembers h.distinct hmembers
  refine ⟨_, decode_of_frame hframe hmembers (h.unknown.ofMembers decode members), fun key => ?_⟩
  have hown : tagMembers ⟨name, none, none, none, none, .unknown tag members⟩ = members := rfl
  rw [get?_members, get?_entries ⟨name, none, none, none, none, .unknown tag members⟩ hsorted, hown,
    hget]
  by_cases hframed : key ∈ frameKeys
  · simp only [frameKeys, List.mem_cons, List.not_mem_nil, or_false] at hframed
    rcases hframed with rfl | rfl | rfl | hpresented
    · simp [frameEntries, frameKeys, hname]
    · simp [frameEntries, frameKeys, h.tag, Node.tag, Body.tag]
    · cases legacyTag <;> simp [frameEntries, Json.canonical]
    · rw [h.plain key (by simpa using hpresented)]
      rcases hpresented with rfl | rfl | rfl | rfl <;> simp [frameEntries, frameKeys]
  · rw [get?_frameEntries_of_notMem _ hframed]
    simp only [frameKeys, List.mem_cons, List.not_mem_nil, or_false, not_or] at hframed
    simp [frameKeys, hframed, Function.comp_def, Json.canonical_canonical]

/-- A `type` that is neither a text nor null is refused. -/
theorem decode_eq_error (h : Stranger found tag) {value : Json}
    (hget : found.get? "type" = some value) (hnull : value ≠ .null)
    (htext : ∀ text, value ≠ .string text) :
    decode origin (.object found) = .error (Decode.mismatch value .text) := by
  obtain ⟨name, -, hnames⟩ := h.names_read origin
  have hvalue : Decode.optional Decode.string origin value =
      .error (Decode.mismatch value .text) := by
    rw [Decode.optional_of_ne_null hnull]
    cases value with
    | string text => exact absurd rfl (htext text)
    | null | bool | number | array | object => rfl
  have hlegacy : (Fields.optional "type" Decode.string).Refuses origin found
      (Decode.mismatch value .text) := .field h.distinct hget hvalue
  have hframe : frameFields.Refuses origin found (Decode.mismatch value .text) :=
    hlegacy.seq_right hnames |>.seq_left (h.absent_reads _ (by simp))
      |>.seq_left (h.absent_reads _ (by simp)) |>.seq_left (h.absent_reads _ (by simp))
      |>.seq_left (h.absent_reads _ (by simp))
  obtain ⟨place, hplace⟩ := hframe
  rw [decode_eq, decodeOver, Decode.openRecord, hplace]
  rfl

/-- A `type` that is a text is read as it is, and a null one as if it were missing. -/
theorem legacy_reads (h : Stranger found tag) {legacyTag : Option String}
    (hget : found.get? "type" = legacyTag.map .string ∨
      found.get? "type" = some .null ∧ legacyTag = none) :
    (Fields.optional "type" Decode.string).Reads origin found legacyTag := by
  rw [Fields.optional, Fields.reads_field_iff h.distinct]
  rcases hget with hget | ⟨hget, rfl⟩
  · rw [hget]
    cases legacyTag <;> rfl
  · rw [hget]
    rfl

theorem keptVerbatim_of_legacy (h : Stranger found tag) (legacyTag : Option String)
    (hget : found.get? "type" = legacyTag.map .string) : KeptVerbatim origin found := by
  obtain ⟨node, hread, hmembers⟩ := h.exists_decode (h.legacy_reads (.inl hget))
  refine ⟨node, hread, (node.canonical_toJson_eq_iff h.distinct).mpr fun key => ?_⟩
  rw [hmembers]
  split
  · rename_i hkey
    rw [hkey, hget]
    cases legacyTag <;> rfl
  · rfl

/-- A null `type` is lost, and nothing else. -/
theorem exists_decode_of_null (h : Stranger found tag) (hget : found.get? "type" = some .null) :
    ∃ node, decode origin (.object found) = .ok node ∧ node.members.get? "type" = none ∧
      node.toJson.canonical = (Json.object (found.erase "type")).canonical := by
  obtain ⟨node, hread, hmembers⟩ := h.exists_decode (h.legacy_reads (.inr ⟨hget, rfl⟩))
  have hdistinct : ((found.erase "type").map Prod.fst).Nodup :=
    h.distinct.sublist (List.filter_sublist.map _)
  refine ⟨node, hread, hmembers "type",
    (node.canonical_toJson_eq_iff hdistinct).mpr fun key => ?_⟩
  rw [hmembers, Entries.get?_erase]
  split <;> rfl

/-- Of a tag that is not known every member is kept, whatever its name and its value, when there is
no `type` beside the tag or a text under it.  A null `type` is lost, and any other one is refused. -/
theorem keptVerbatim_iff (h : Stranger found tag) (origin : Origin) :
    (KeptVerbatim origin found ↔ ∀ value ∈ found.get? "type", ∃ text, value = .string text) ∧
    (found.get? "type" = some .null → ∃ node, decode origin (.object found) = .ok node ∧
      node.toJson.canonical = (Json.object (found.erase "type")).canonical) ∧
    ∀ value, found.get? "type" = some value → value ≠ .null → (∀ text, value ≠ .string text) →
      decode origin (.object found) = .error (Decode.mismatch value .text) := by
  refine ⟨⟨?_, fun htexts => ?_⟩, fun hnull => ?_, fun _ => h.decode_eq_error⟩
  · rintro ⟨node, hread, hsame⟩ value hvalue
    by_contra htext
    rw [not_exists] at htext
    by_cases hnull : value = .null
    · subst hnull
      obtain ⟨other, hother, hlost, -⟩ := h.exists_decode_of_null hvalue
      cases hread.symm.trans hother
      rw [(node.canonical_toJson_eq_iff h.distinct).mp hsame, hvalue] at hlost
      cases hlost
    · rw [h.decode_eq_error hvalue hnull htext] at hread
      cases hread
  · cases hget : found.get? "type" with
    | none => exact h.keptVerbatim_of_legacy none hget
    | some value =>
        obtain ⟨text, rfl⟩ := htexts value hget
        exact h.keptVerbatim_of_legacy (some text) hget
  · obtain ⟨node, hread, -, hwritten⟩ := h.exists_decode_of_null hnull
    exact ⟨node, hread, hwritten⟩

end Stranger

/-- A signature pad, whose tag is not known, with members named like those of other nodes. -/
def signature (type : Json) : Members :=
  [("id", .string "sig"), ("tag", .string "signature-pad"), ("type", type), ("name", .null),
    ("children", .bool true)]

theorem stranger_signature (type : Json) : Stranger (signature type) "signature-pad" where
  distinct := by
    change ["id", "tag", "type", "name", "children"].Nodup
    decide
  unknown := ⟨rfl, rfl, by decide⟩
  id := ⟨⟨"sig", by decide⟩, rfl⟩
  tag := rfl
  plain := by simp [signature, Entries.get?_cons]

namespace Stranger

theorem keptVerbatim_iff_signature :
    KeptVerbatim .value (signature (.string "vector")) ∧
      (∃ node, decode .value (.object (signature .null)) = .ok node ∧
        node.toJson.canonical = (Json.object ((signature .null).erase "type")).canonical) ∧
      decode .value (.object (signature (.bool false))) =
        .error (Decode.mismatch (.bool false) .text) := by
  obtain ⟨hkept, -, -⟩ := keptVerbatim_iff (stranger_signature (.string "vector")) .value
  obtain ⟨-, hnull, -⟩ := keptVerbatim_iff (stranger_signature .null) .value
  obtain ⟨-, -, hrefused⟩ := keptVerbatim_iff (stranger_signature (.bool false)) .value
  refine ⟨hkept.mpr ?_, hnull rfl, hrefused _ rfl nofun nofun⟩
  rintro _ ⟨⟩
  exact ⟨"vector", rfl⟩

/-- Not every member is kept: a `type` that is a number is refused. -/
theorem not_keptVerbatim_signature :
    ¬ ∀ found tag, Stranger found tag → KeptVerbatim .value found := by
  intro hkept
  obtain ⟨node, hread, -⟩ :=
    hkept (signature (.number (.ofUInt32 5))) "signature-pad" (stranger_signature _)
  cases hread

end Stranger

end Node

end Forms
