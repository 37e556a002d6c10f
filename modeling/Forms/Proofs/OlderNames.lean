import Forms.Proofs.Codec.Renaming
import Forms.Proofs.Document.Compact
import Forms.Proofs.Document.Selecting

/-!
# Documents with older names

Documents of the older format have `components` for `nodes` and `type` for `tag`.  Names may be
mixed, each node and the schema itself having its own, and every spelling of one document is read to
the same schema.
-/

namespace Forms

/-! ## Nodes with older names -/

namespace Node

variable {related : Json → Json → Prop} {before after : Json}

/-- Of a node only the visibility condition is not asked for as a whole. -/
theorem member?_shape {key : String} (hkey : key ≠ "visibleIf") :
    shape.member? key = some .whole := by
  rw [← beq_eq_false_iff_ne] at hkey
  simp [shape, Shape.member?, List.lookup_cons, hkey]

theorem namedTag?_selectMembers (members : List (String × Json)) :
    namedTag? (Json.selectMembers shape members) = namedTag? members := by
  have hwhole : Json.select .whole = fun value => value := funext Json.select_whole
  have htext (key : String) (hkey : key ≠ "visibleIf") :
      Entries.textAt? (Json.selectMembers shape members) key = Entries.textAt? members key := by
    rw [Entries.textAt?, Entries.valuesAt_selectMembers, member?_shape hkey, Entries.textAt?]
    simp [hwhole]
  rw [namedTag?, namedTag?, htext "tag" (by decide), htext "type" (by decide)]

theorem RenamedOver.select (h : RenamedOver related before after) :
    RenamedOver related (before.select shape) (after.select shape) := by
  rcases h with rfl | ⟨members, renamed, others, rfl, rfl, hspelled, hrelated⟩
  · exact .inl rfl
  · rw [Json.select, Json.select]
    have hsame : shape.member? "tag" = shape.member? "type" := by
      rw [member?_shape (by decide), member?_shape (by decide)]
    refine .inr ⟨_, _, _, rfl, rfl, hspelled.select hsame, ?_⟩
    rw [namedTag?_selectMembers]
    refine hrelated.select fun key inner hinner value other hvalue => ?_
    by_cases hkey : key = "visibleIf"
    · rw [memberRelated_of_mem_frameKeys (hkey ▸ by decide)] at hvalue ⊢
      rw [hvalue]
    · rw [member?_shape hkey] at hinner
      cases hinner
      rwa [Json.select_whole, Json.select_whole]

theorem RenamedWithin.select {depth : Nat} (h : RenamedWithin depth before after) :
    RenamedWithin depth (before.select shape) (after.select shape) := by
  cases depth with
  | zero => exact congrArg (Json.select shape) h
  | succ depth => exact RenamedOver.select h

end Node

/-! ## Schemas with older names -/

namespace Schema

/-- What the members of a schema are related by: its nodes stand under either name. -/
def MemberRelated (related : Json → Json → Prop) (key : String) : Json → Json → Prop :=
  if key ∈ ["nodes", "components"] then Json.ItemsRelated related else Eq

/-- Two forms of one schema: the nodes may have moved to the other name of their member, and the
tags of nodes at any depth to the other name of theirs. -/
def Renamed (before after : Json) : Prop :=
  ∃ depth members renamed others, before = .object members ∧ after = .object others ∧
    Entries.Respelled "nodes" "components" members renamed ∧
    Entries.Related (MemberRelated (Node.RenamedWithin depth)) renamed others

theorem sameForm_memberRelated (depth : Nat) (key : String) :
    Json.SameForm (MemberRelated (Node.RenamedWithin depth) key) := by
  rw [MemberRelated]
  split
  · exact (Node.sameForm_renamedWithin depth).items
  · exact .eq

theorem decode_object_eq_ok_iff {origin : Origin} {found : List (String × Json)}
    {schema : Schema} :
    decode origin (.object found) = .ok schema ↔
      (Fields.omissible "title" Decode.string).Reads origin found schema.title ∧
        (Fields.omissible "description" Decode.string).Reads origin found schema.description ∧
        (Fields.aliased ["nodes", "components"] (Decode.list Node.decode) []).Reads origin found
          schema.nodes ∧
        (Fields.omissible "initialValues" Decode.members).Reads origin found
          schema.initialValues := by
  rw [decode, Decode.record_object_eq_ok_iff]
  simp only [Fields.reads_seq_iff, Fields.reads_map_iff]
  constructor
  · rintro ⟨_, ⟨_, ⟨_, ⟨_, htitle, rfl⟩, _, hdescription, rfl⟩, _, hnodes, rfl⟩, _, hvalues, rfl⟩
    exact ⟨htitle, hdescription, hnodes, hvalues⟩
  · rintro ⟨htitle, hdescription, hnodes, hvalues⟩
    exact ⟨_, ⟨_, ⟨_, ⟨_, htitle, rfl⟩, _, hdescription, rfl⟩, _, hnodes, rfl⟩, _, hvalues, rfl⟩

/-- The nodes are read under either name. -/
theorem decode_exchange_iff {origin : Origin} {members : List (String × Json)} {schema : Schema} :
    decode origin (.object (Entries.exchange "nodes" "components" members)) = .ok schema ↔
      decode origin (.object members) = .ok schema := by
  rw [decode_object_eq_ok_iff, decode_object_eq_ok_iff]
  simp only [Fields.omissible, Fields.aliased, Fields.reads_exchange_iff,
    Fields.reads_aliased_exchange_iff (show "nodes" ≠ "components" by decide)]
  repeat rw [Equiv.swap_apply_of_ne_of_ne (by decide) (by decide)]

theorem decode_object_follows (depth : Nat) {members others : List (String × Json)}
    (h : Entries.Related (MemberRelated (Node.RenamedWithin depth)) members others)
    (origin : Origin) (schema : Schema) :
    decode origin (.object members) = .ok schema ↔
      decode origin (.object others) = .ok schema := by
  have hnodes := (Node.decode_renamedWithin depth).list
  have hother (key : String) (hkey : key ∉ ["nodes", "components"]) :
      MemberRelated (Node.RenamedWithin depth) key = Eq := if_neg hkey
  rw [decode, Decode.record_object_eq_ok_iff, Decode.record_object_eq_ok_iff]
  refine Fields.Follows.seq (.seq (.seq (.map (.field_eq (hother "title" (by decide))) _)
    (.field_eq (hother "description" (by decide)))) ?_)
    (.field_eq (hother "initialValues" (by decide))) origin members others schema h
  exact .aliased (by decide) hnodes (if_pos (by decide)) (if_pos (by decide))

variable {before after : Json}

theorem Renamed.decode_iff (h : Renamed before after) (origin : Origin) (schema : Schema) :
    decode origin before = .ok schema ↔ decode origin after = .ok schema := by
  obtain ⟨depth, members, renamed, others, rfl, rfl, hspelled, hrelated⟩ := h
  rw [← decode_object_follows depth hrelated origin schema]
  rcases hspelled with rfl | ⟨-, rfl⟩
  · rfl
  · exact decode_exchange_iff.symm

theorem Renamed.depth_eq (h : Renamed before after) : before.depth = after.depth := by
  obtain ⟨depth, members, renamed, others, rfl, rfl, hspelled, hrelated⟩ := h
  rw [Json.depth, Json.depth, ← hrelated.depth_eq (sameForm_memberRelated depth),
    hspelled.depth_eq]

/-- What a reader asks for of two forms of one schema are two forms of one schema. -/
theorem Renamed.select (h : Renamed before after) :
    Renamed (before.select shape) (after.select shape) := by
  obtain ⟨depth, members, renamed, others, rfl, rfl, hspelled, hrelated⟩ := h
  rw [Json.select, Json.select]
  refine ⟨depth, _, _, _, rfl, rfl, hspelled.select rfl, ?_⟩
  refine hrelated.select fun key inner hinner value other hvalue => ?_
  by_cases hkey : key ∈ ["nodes", "components"]
  · have hshape : shape.member? key = some (.each Node.shape) := by
      rcases List.mem_pair.mp hkey with rfl | rfl <;> rfl
    cases hinner.symm.trans hshape
    rw [MemberRelated, if_pos hkey] at hvalue ⊢
    exact hvalue.select_each fun value other (hnode : Node.RenamedWithin depth value other) =>
      hnode.select
  · rw [MemberRelated, if_neg hkey] at hvalue ⊢
    rw [hvalue]

/-- Two forms of one schema are read to the same schema, or neither is read: at hand or from any
texts of them. -/
theorem renamed_read_alike (h : Renamed before after) :
    (∀ origin schema, decode origin before = .ok schema ↔ decode origin after = .ok schema) ∧
      ∀ (text changed : String) (written rewritten : Written),
        Written.ofText? text = some written → written.Denotes before →
        Written.ofText? changed = some rewritten → rewritten.Denotes after →
        ∀ schema, ofText text = .ok schema ↔ ofText changed = .ok schema := by
  refine ⟨h.decode_iff, fun text changed written rewritten htext hwritten hchanged hrewritten
    schema => ?_⟩
  rw [ofText, Decode.fromText_eq_ok_iff_of_denotes htext hwritten, ofText,
    Decode.fromText_eq_ok_iff_of_denotes hchanged hrewritten, h.select.depth_eq,
    h.select.decode_iff]

/-- A document of the older format: a field inside a card. -/
def olderCard : Json :=
  .object [("components", .array [.object [("id", .string "box"), ("type", .string "card"),
    ("content", .array [.object [("id", .string "age"), ("type", .string "number"),
      ("name", .string "age")]])]])]

/-- The same document under the newer names. -/
def newerCard : Json :=
  .object [("nodes", .array [.object [("id", .string "box"), ("tag", .string "card"),
    ("content", .array [.object [("id", .string "age"), ("tag", .string "number"),
      ("name", .string "age")]])]])]

/-- The card of the older format is the card under the newer names, at hand and as a text. -/
theorem renamed_read_alike_card :
    Renamed olderCard newerCard ∧
      (∃ schema, decode .value olderCard = .ok schema ∧ decode .value newerCard = .ok schema) ∧
      ∀ schema, ofText olderCard.compact = .ok schema ↔ ofText newerCard.compact = .ok schema := by
  have hfield : Node.RenamedWithin 1
      (.object [("id", .string "age"), ("type", .string "number"), ("name", .string "age")])
      (.object [("id", .string "age"), ("tag", .string "number"), ("name", .string "age")]) :=
    .inr ⟨_, _, _, rfl, rfl, .inr ⟨.inl rfl, rfl⟩, .cons rfl (.cons rfl (.cons rfl .nil))⟩
  have hcard : Node.RenamedWithin 2
      (.object [("id", .string "box"), ("type", .string "card"),
        ("content", .array [.object [("id", .string "age"), ("type", .string "number"),
          ("name", .string "age")]])])
      (.object [("id", .string "box"), ("tag", .string "card"),
        ("content", .array [.object [("id", .string "age"), ("tag", .string "number"),
          ("name", .string "age")]])]) :=
    .inr ⟨_, _, _, rfl, rfl, .inr ⟨.inl rfl, rfl⟩, .cons rfl (.cons rfl
      (.cons (.inr ⟨_, _, rfl, rfl, .cons hfield .nil⟩) .nil))⟩
  have hcards : Renamed olderCard newerCard :=
    ⟨2, _, _, _, rfl, rfl, .inr ⟨.inl rfl, rfl⟩,
      .cons (.inr ⟨_, _, rfl, rfl, .cons hcard .nil⟩) .nil⟩
  obtain ⟨hvalues, htexts⟩ := renamed_read_alike hcards
  obtain ⟨schema, hread⟩ : ∃ schema, decode .value olderCard = .ok schema := ⟨_, rfl⟩
  refine ⟨hcards, ⟨schema, hread, (hvalues .value schema).mp hread⟩, ?_⟩
  exact htexts _ _ _ _ (Written.ofText?_compact olderCard) (.ofJson (by decide))
    (Written.ofText?_compact newerCard) (.ofJson (by decide))

end Schema

end Forms
