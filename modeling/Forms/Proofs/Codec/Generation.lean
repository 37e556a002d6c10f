import Forms.Proofs.Codec.Schema
import Forms.Proofs.Columns

/-!
# Generated schemas are normal

The rules, fields and defaults of a generated form have the shape that reading gives, so a generated
schema is as good as one that was read.
-/

namespace Forms

namespace Rule

theorem of?_isNormal {kind : RuleKind} {operand : Option Json} {message : String} {rule : Rule}
    (hoperand : Json.Settled operand) (hrule : Rule.of? kind operand message = .ok rule) :
    rule.IsNormal := by
  obtain ⟨text, -, heq⟩ := Outcome.bind_eq_ok_iff.mp hrule
  cases heq
  exact ⟨hoperand, rfl⟩

theorem required?_isNormal {message : Option String} {rule : Rule}
    (hrule : Rule.required? message = .ok rule) : rule.IsNormal :=
  of?_isNormal (by simp [Json.Settled]) hrule

theorem email?_isNormal {message : Option String} {rule : Rule}
    (hrule : Rule.email? message = .ok rule) : rule.IsNormal :=
  of?_isNormal (by simp [Json.Settled]) hrule

theorem pattern?_isNormal {pattern message : String} {rule : Rule}
    (hrule : Rule.pattern? pattern message = .ok rule) : rule.IsNormal := by
  refine of?_isNormal (fun value hvalue => ?_) hrule
  cases hvalue
  exact ⟨rfl, nofun⟩

end Rule

theorem ruleWhen_isNormal {condition : Bool} {rule : Outcome Rule} {rules : List Rule}
    (hrule : ∀ held, rule = .ok held → held.IsNormal)
    (hrules : ruleWhen condition rule = .ok rules) : ∀ held ∈ rules, held.IsNormal := by
  cases condition with
  | true =>
      obtain ⟨held, hheld, rfl⟩ := Outcome.map_eq_ok_iff.mp hrules
      simpa using hrule held hheld
  | false =>
      cases hrules
      simp

theorem LengthConstraints.rules_isNormal {constraints : LengthConstraints} {rules : List Rule}
    (hrules : constraints.rules = .ok rules) : ∀ rule ∈ rules, rule.IsNormal := by
  obtain ⟨longest, hlongest, hrest⟩ := Outcome.bind_eq_ok_iff.mp hrules
  obtain ⟨shortest, hshortest, heq⟩ := Outcome.bind_eq_ok_iff.mp hrest
  cases heq
  rw [List.forall_mem_append]
  constructor
  · intro rule hrule
    obtain ⟨length, -, hlength⟩ := Outcome.exists_mem_of_mapM_eq_ok hlongest hrule
    exact Rule.pattern?_isNormal hlength
  · intro rule hrule
    obtain ⟨length, -, hlength⟩ := Outcome.exists_mem_of_mapM_eq_ok hshortest hrule
    exact Rule.pattern?_isNormal hlength

theorem Column.lengthRules_isNormal {column : Column} {rules : List Rule}
    (hrules : column.lengthRules = .ok rules) : ∀ rule ∈ rules, rule.IsNormal := by
  simp only [lengthRules] at hrules
  split at hrules
  · exact LengthConstraints.rules_isNormal hrules
  · cases hrules
    simp

namespace ColumnMapping

theorem rules_isNormal {mapping : ColumnMapping} {rules : List Rule}
    (hrules : mapping.rules = .ok rules) : ∀ rule ∈ rules, rule.IsNormal := by
  obtain ⟨required, hrequired, hrest⟩ := Outcome.bind_eq_ok_iff.mp hrules
  obtain ⟨email, hemail, hrest⟩ := Outcome.bind_eq_ok_iff.mp hrest
  obtain ⟨lengths, hlengths, heq⟩ := Outcome.bind_eq_ok_iff.mp hrest
  cases heq
  rw [List.forall_mem_append, List.forall_mem_append]
  exact ⟨⟨ruleWhen_isNormal (fun _ => Rule.required?_isNormal) hrequired,
    ruleWhen_isNormal (fun _ => Rule.email?_isNormal) hemail⟩,
    Column.lengthRules_isNormal hlengths⟩

/-- A generated field has neither bounds nor a source of choices. -/
theorem input_isNormal (mapping : ColumnMapping) : mapping.input.IsNormal := by
  simp only [input]
  split
  · exact True.intro
  · exact fun held hheld => nomatch hheld
  · exact True.intro
  · exact True.intro
  · exact True.intro
  · split
    · exact ⟨nofun, nofun, nofun⟩
    · exact ⟨nofun, nofun, nofun⟩

theorem node_isNormal {mapping : ColumnMapping} {includeValidation : Bool} {node : Node}
    (hnode : mapping.node includeValidation = .ok node) : node.IsNormal := by
  obtain ⟨hname, rules, hrules, rfl⟩ := node_eq_ok_iff.mp hnode
  have hnormal : ∀ rule ∈ rules, rule.IsNormal := by
    split at hrules
    · exact rules_isNormal hrules
    · cases hrules
      exact List.forall_mem_nil _
  exact .mk nofun nofun nofun nofun ⟨mapping.input_isNormal, nofun, hnormal⟩
    (List.forall_mem_nil _)

end ColumnMapping

theorem SubmitAction.buttonNode_isNormal (action : SubmitAction) : action.buttonNode.IsNormal :=
  .mk nofun nofun nofun nofun True.intro (List.forall_mem_nil _)

namespace GenerationConfig

/-- Default values are sorted.  A value at hand holds the members of an object by ascending key, and
reading a configuration gives no others. -/
def IsNormal (config : GenerationConfig) : Prop :=
  ∀ mapping ∈ config.columns, ∀ value ∈ mapping.defaultValue, value.IsCanonical

theorem decode_ensures : Decoder.Ensures decode IsNormal := by
  have hdefault := Fields.Ensures.omissible (Decode.any_ensures.optional) "defaultValue"
    (by simp)
  have hmapping : Decoder.Ensures ColumnMapping.decode
      fun mapping => ∀ value ∈ mapping.defaultValue, value.IsCanonical := by
    apply Decode.record_ensures
    refine (Fields.Ensures.trivial _).map ?_ |>.seq (.trivial _) |>.seq (.trivial _)
      |>.seq (.trivial _) |>.seq hdefault |>.seq (.trivial _)
    intro _ _ _ _ _ _ _ _ defaultValue hdefault _ _
    exact hdefault
  apply Decode.record_ensures
  refine (Fields.Ensures.trivial _).map ?_ |>.seq (.trivial _) |>.seq (.trivial _)
    |>.seq (.trivial _) |>.seq (.trivial _) |>.seq (.required hmapping.list _)
  intro _ _ _ _ _ _ _ _ _ _ columns hcolumns
  exact hcolumns

theorem defaults_isCanonical {config : GenerationConfig} (h : config.IsNormal) :
    (Json.object config.defaults).IsCanonical := by
  simp only [defaults]
  split
  · rw [Json.isCanonical_object_iff]
    refine ⟨Entries.ascending_ofWrites _, fun member hmember => ?_⟩
    have hget := (Entries.ascending_ofWrites _).get?_eq_some hmember
    obtain ⟨mapping, hmapping, heq⟩ := List.mem_filterMap.mp (Entries.mem_of_get?_ofWrites hget)
    obtain ⟨value, hvalue, heq⟩ := Option.map_eq_some_iff.mp heq
    rw [← congrArg Prod.snd heq]
    exact h mapping (List.mem_of_mem_filter hmapping) value hvalue
  · rfl

theorem schema_isNormal {config : GenerationConfig} (h : config.IsNormal) {schema : Schema}
    (hschema : config.schema = .ok schema) : schema.IsNormal := by
  obtain ⟨fields, hfields, rfl⟩ := schema_eq_ok_iff.mp hschema
  refine ⟨?_, fun values hvalues => ?_⟩
  · simp only [List.forall_mem_append, List.forall_mem_singleton]
    refine ⟨fun node hnode => ?_, config.submitAction.buttonNode_isNormal⟩
    obtain ⟨mapping, -, hmapping⟩ := Outcome.exists_mem_of_mapM_eq_ok hfields hnode
    exact ColumnMapping.node_isNormal hmapping
  · cases hvalues
    exact defaults_isCanonical h

end GenerationConfig

end Forms
