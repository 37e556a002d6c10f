import Forms.Proofs.Codec.Generation

/-!
# Schemas survive being written and read

Every schema that the library hands out is normal: reading, generating and editing give nothing
else. A normal schema is restored from its written form, so writing one and reading it back changes
nothing, however it came about.
-/

namespace Forms

/-- Nodes that are inserted have been read. -/
def SchemaEdit.InsertsRead : SchemaEdit → Prop
  | .insert _ node => ∃ origin value, Node.decode origin value = .ok node
  | .update _ _ | .remove _ => True

namespace Schema

/-- The schemas that can be come by: read, generated, or edited. -/
inductive Obtained : Schema → Prop where
  | read {schema : Schema} {origin : Origin} {value : Json}
      (hread : decode origin value = .ok schema) : Obtained schema
  | generated {schema : Schema} {config : GenerationConfig} (hconfig : config.IsNormal)
      (hgenerated : config.schema = .ok schema) : Obtained schema
  | edited {schema : Schema} (hschema : Obtained schema) {edit : SchemaEdit}
      (hedit : edit.InsertsRead) : Obtained (edit.perform schema)

theorem IsNormal.perform {schema : Schema} (h : schema.IsNormal) {edit : SchemaEdit}
    (hedit : edit.InsertsRead) : (edit.perform schema).IsNormal := by
  apply edit.perform_cases h
  intro edited hedited
  cases edit with
  | insert place node =>
      obtain ⟨origin, value, hnode⟩ := hedit
      exact h.insert (Node.decode_ensures origin value node hnode) hedited
  | update id patch => exact h.update hedited
  | remove id =>
      obtain ⟨⟨removed, rest⟩, hremoved, rfl⟩ := Outcome.map_eq_ok_iff.mp hedited
      exact h.remove hremoved

theorem Obtained.isNormal {schema : Schema} (h : Obtained schema) : schema.IsNormal := by
  induction h with
  | read hread => exact decode_ensures _ _ _ hread
  | generated hconfig hgenerated => exact GenerationConfig.schema_isNormal hconfig hgenerated
  | edited _ hedit ih => exact ih.perform hedit

theorem obtained_of_ofText {text : String} {schema : Schema} (htext : ofText text = .ok schema) :
    Obtained schema := by
  simp only [ofText, Decode.fromText] at htext
  split at htext
  · cases htext
  · split at htext
    · cases htext
    · split at htext
      · rename_i hread
        cases htext
        exact .read hread
      · split at htext <;> cases htext

/-- Writing a schema to a value and reading that value back gives the same schema. -/
theorem fromValue_canonical_toJson {schema : Schema} (h : Obtained schema) :
    Decode.fromValue decode schema.toJson.canonical = .ok schema :=
  Outcome.mapError_eq_ok_iff.mpr
    (h.isNormal.restores .value _ (Json.rearranges_canonical schema.toJson))

/-- A stepper over a field with an operator that is not known, and over a node with a tag that is
not known and an older name of a tag beside it. -/
def survey : Json := .object
  [("title", .string "Survey"), ("components", .array
    [.object [("id", .string "steps"), ("tag", .string "stepper"), ("steps", .array
      [.object [("id", .string "first"), ("label", .string "First"), ("content", .array
        [.object [("type", .string "text"), ("id", .string "age"), ("name", .string "age"),
          ("min", .object [("z", .null), ("a", .bool true)]),
          ("validation", .array [.object [("type", .string "required"), ("message", .string "?")]]),
          ("visibleIf", .object [("field", .string "known"), ("operator", .string "resembles"),
            ("rules", .array [.object [("field", .string "x"), ("operator", .string "equals")]])])],
        .object [("id", .string "odd"), ("tag", .string "hologram"), ("type", .string "text"),
          ("zeta", .number (.ofUInt32 1)), ("alpha", .null)]])]])]])]

theorem fromValue_canonical_toJson_survey :
    ∃ schema edited, decode .value survey = .ok schema ∧
      (SchemaEdit.update "odd" [("alpha", .bool true)]).attempt schema = .ok edited ∧
      Decode.fromValue decode edited.toJson.canonical = .ok edited := by
  obtain ⟨schema, edited, hread, hedited⟩ : ∃ schema edited, decode .value survey = .ok schema ∧
      (SchemaEdit.update "odd" [("alpha", .bool true)]).attempt schema = .ok edited :=
    ⟨_, _, rfl, rfl⟩
  have hobtained : Obtained
      ((SchemaEdit.update "odd" [("alpha", .bool true)]).perform schema) :=
    .edited (.read hread) True.intro
  rw [SchemaEdit.perform, hedited] at hobtained
  exact ⟨schema, edited, hread, hedited, fromValue_canonical_toJson hobtained⟩

end Schema

end Forms
