import Forms.Proofs.Columns
import Forms.Proofs.Diagnosing
import Forms.Proofs.LengthRules
import Forms.Proofs.Seeding
import Forms.Proofs.Tree.Bare
import Mathlib.Data.List.Pairwise

/-!
# Generated forms

A form is generated unless a column that it keeps has a blank name.  It then has one field for each
of these columns, in their order, and the button behind them.  Everything else follows from the
columns: two fields have one identifier when their columns have one name, and the document starts
with the configured defaults and with empty values for the other fields.
-/

namespace Forms

theorem forall₂_mem {α β : Type} {R : α → β → Prop} {left : List α} {right : List β}
    (h : List.Forall₂ R left right) :
    List.Forall₂ (fun a b => a ∈ left ∧ b ∈ right ∧ R a b) left right := by
  rw [List.forall₂_iff_zip]
  refine ⟨h.length_eq, fun hpair => ?_⟩
  obtain ⟨hleft, hright⟩ := List.of_mem_zip hpair
  exact ⟨hleft, hright, List.forall₂_zip h hpair⟩

/-! ## Seeding by keys that do not clash -/

namespace Schema

variable {schema : Schema} {node : Node} {key : String}

/-- When keys do not clash, nodes that bind one key are one node. -/
theorem eq_of_bindingKey?_eq (hdistinct : schema.bindingKeys.Nodup) {other : Node}
    (hnode : node ∈ schema.walk) (hother : other ∈ schema.walk)
    (hkey : node.bindingKey? = some key) (hsame : other.bindingKey? = some key) : node = other := by
  by_contra hne
  have hapart := List.pairwise_filterMap.mp hdistinct
  have hsymm : Std.Symm fun first second : Node => ∀ key, first.bindingKey? = some key →
      ∀ other, second.bindingKey? = some other → key ≠ other :=
    ⟨fun _ _ hapart key hsecond other hfirst => (hapart other hfirst key hsecond).symm⟩
  exact hapart.forall hnode hother hne key hkey key hsame rfl

theorem find?_binds_of_nodup (hdistinct : schema.bindingKeys.Nodup) (hnode : node ∈ schema.walk)
    (hkey : node.bindingKey? = some key) : schema.walk.find? (·.binds key) = some node := by
  have hfound : (schema.walk.find? (·.binds key)).isSome = true :=
    List.find?_isSome.mpr ⟨node, hnode, beq_iff_eq.mpr hkey⟩
  obtain ⟨first, hfirst⟩ := Option.isSome_iff_exists.mp hfound
  have hbinds : first.binds key = true := List.find?_some hfirst
  rw [hfirst, eq_of_bindingKey?_eq hdistinct (List.mem_of_find?_eq_some hfirst) hnode
    (beq_iff_eq.mp hbinds) hkey]

/-- Then every field starts with its own value, unless one is declared for its key. -/
theorem get?_seedValues_of_nodup (hdistinct : schema.bindingKeys.Nodup) (hnode : node ∈ schema.walk)
    (hkey : node.bindingKey? = some key) :
    schema.seedValues.get? key = (schema.declaredValues.get? key).or node.startValue? := by
  rw [get?_seedValues, find?_binds_of_nodup hdistinct hnode hkey, Option.bind_some]

end Schema

/-! ## The field of a column -/

/-- The field that a column becomes: it is named for the column, binds the name of the column, and
declares no value. -/
structure Node.IsInputFor (node : Node) (mapping : ColumnMapping) : Prop where
  id : node.id.text = s!"field-{mapping.column.name}"
  bindingKey : node.bindingKey? = some mapping.column.name
  body : ∃ props, node.body = .field mapping.input props ∧ props.value = none

namespace Node.IsInputFor

variable {node : Node} {mapping : ColumnMapping}

theorem emptyValue? (h : node.IsInputFor mapping) :
    node.body.emptyValue? = some mapping.input.emptyValue := by
  obtain ⟨props, hbody, -⟩ := h.body
  rw [hbody]
  rfl

theorem startValue? (h : node.IsInputFor mapping) :
    node.startValue? = some mapping.input.emptyValue := by
  obtain ⟨props, hbody, hvalue⟩ := h.body
  rw [Node.startValue?, hbody, Body.field?, Option.bind_some, hvalue]
  rfl

end Node.IsInputFor

namespace ColumnMapping

variable {mapping : ColumnMapping} {includeValidation : Bool} {field : Node}

/-- The name is all that can be wrong with a column. -/
theorem exists_node_iff (includeValidation : Bool) :
    (∃ field, mapping.node includeValidation = .ok field) ↔
      Unicode.allBlank mapping.column.name = false := by
  constructor
  · rintro ⟨field, hfield⟩
    exact (node_eq_ok_iff.mp hfield).1
  · intro hname
    obtain ⟨rules, hrules⟩ : ∃ rules,
        (if includeValidation then mapping.rules else .ok []) = .ok rules := by
      cases includeValidation with
      | true =>
          obtain ⟨others, hrules, -⟩ := mapping.exists_rules
          exact ⟨_, hrules⟩
      | false => exact ⟨[], rfl⟩
    exact ⟨_, node_eq_ok_iff.mpr ⟨hname, rules, hrules, rfl⟩⟩

theorem isInputFor_of_node_eq_ok (hfield : mapping.node includeValidation = .ok field) :
    field.IsInputFor mapping := by
  obtain ⟨hname, rules, -, rfl⟩ := node_eq_ok_iff.mp hfield
  exact ⟨rfl, rfl, _, rfl, rfl⟩

end ColumnMapping

/-! ## The nodes of a form -/

namespace GenerationConfig

variable {config : GenerationConfig} {schema : Schema} {fields : List Node} {button : Node}

/-- The names of the columns that become fields. -/
def fieldNames (config : GenerationConfig) : List String :=
  config.keptColumns.map fun mapping => mapping.column.name

/-- The fields of the columns in their order, with the button behind them. -/
structure Lays (config : GenerationConfig) (schema : Schema) (fields : List Node) (button : Node) :
    Prop where
  nodes : schema.nodes = fields ++ [button]
  inputs : List.Forall₂ (fun mapping node => node.IsInputFor mapping) config.keptColumns fields
  submit : button.id.text = "submit-button" ∧ button.body = .display (.button
    s!"{config.submitAction.label} Record" (some "primary") none (some "submit") none none none)

theorem lays_of_schema_eq_ok (hschema : config.schema = .ok schema) :
    ∃ fields button, config.Lays schema fields button ∧ schema.declaredValues = config.defaults := by
  obtain ⟨fields, hfields, rfl⟩ := schema_eq_ok_iff.mp hschema
  have hinputs := (Outcome.mapM_eq_ok_iff.mp hfields).imp
    fun _ _ hfield => ColumnMapping.isInputFor_of_node_eq_ok hfield
  exact ⟨fields, _, ⟨rfl, hinputs, rfl, rfl⟩, rfl⟩

theorem exists_schema_iff : (∃ schema, config.schema = .ok schema) ↔
    ∀ mapping ∈ config.keptColumns, Unicode.allBlank mapping.column.name = false := by
  constructor
  · rintro ⟨schema, hschema⟩ mapping hmapping
    obtain ⟨fields, hfields, -⟩ := schema_eq_ok_iff.mp hschema
    have hnodes := Outcome.exists_mapM_eq_ok_iff.mp ⟨fields, hfields⟩
    exact (ColumnMapping.exists_node_iff _).mp (hnodes mapping hmapping)
  · intro hnames
    obtain ⟨fields, hfields⟩ := Outcome.exists_mapM_eq_ok_iff.mpr fun mapping hmapping =>
      (ColumnMapping.exists_node_iff config.includeValidation).mpr (hnames mapping hmapping)
    exact ⟨_, schema_eq_ok_iff.mpr ⟨fields, hfields, rfl⟩⟩

theorem exists_schema_eq_error_iff :
    (∃ failure, config.schema = .error failure) ↔
      ∃ mapping ∈ config.keptColumns, Unicode.allBlank mapping.column.name = true := by
  have hok : (∃ schema, config.schema = .ok schema) ↔ _ := exists_schema_iff
  cases hschema : config.schema with
  | ok schema =>
      rw [hschema] at hok
      refine iff_of_false nofun ?_
      rintro ⟨mapping, hmapping, hblank⟩
      exact Bool.false_ne_true ((hok.mp ⟨schema, rfl⟩ mapping hmapping).symm.trans hblank)
  | error failure =>
      rw [hschema] at hok
      refine iff_of_true ⟨failure, rfl⟩ ?_
      by_contra hnone
      simp only [not_exists, not_and, Bool.not_eq_true] at hnone
      obtain ⟨schema, hcontra⟩ := hok.mpr hnone
      cases hcontra

/-! ## What the columns tell -/

namespace Lays

/-- The nodes of a form are fields and the button. -/
theorem node_cases (h : config.Lays schema fields button) {node : Node} (hnode : node ∈ schema.nodes) :
    (∃ input props, node.body = .field input props) ∨ ∃ shown, node.body = .display shown := by
  rw [h.nodes, List.mem_append, List.mem_singleton] at hnode
  rcases hnode with hfield | rfl
  · obtain ⟨mapping, -, hinput⟩ := Outcome.exists_mem_of_forall₂ h.inputs hfield
    obtain ⟨props, hbody, -⟩ := hinput.body
    exact Or.inl ⟨_, props, hbody⟩
  · exact Or.inr ⟨_, h.submit.2⟩

/-- So none of them has children. -/
theorem walk (h : config.Lays schema fields button) : schema.walk = schema.nodes := by
  have hleaf (node : Node) (hnode : node ∈ schema.nodes) : node.walk = [node] := by
    rw [Node.walk_eq]
    rcases h.node_cases hnode with ⟨input, props, hbody⟩ | ⟨shown, hbody⟩ <;> rw [hbody] <;> rfl
  rw [Schema.walk, List.flatMap_congr hleaf, List.flatMap_singleton']

/-- What is told of a field by its column is told of all fields by the columns. -/
theorem map_fields {α : Type} {ofField : Node → α} {ofColumn : ColumnMapping → α}
    (h : config.Lays schema fields button)
    (heq : ∀ mapping node, node.IsInputFor mapping → ofField node = ofColumn mapping) :
    fields.map ofField = config.keptColumns.map ofColumn := by
  rw [← List.forall₂_eq_eq_eq, List.forall₂_map_left_iff, List.forall₂_map_right_iff]
  exact (h.inputs.imp heq).flip

theorem ids (h : config.Lays schema fields button) :
    schema.ids = config.fieldNames.map (fun name => s!"field-{name}") ++ ["submit-button"] := by
  rw [Schema.ids, h.walk, h.nodes, List.map_append, h.map_fields fun _ _ hinput => hinput.id,
    List.map_singleton, h.submit.1, fieldNames, List.map_map]
  rfl

/-- A field is never taken for the button. -/
theorem nodup_ids_iff (h : config.Lays schema fields button) :
    schema.ids.Nodup ↔ config.fieldNames.Nodup := by
  have hinjective : Function.Injective fun name : String => s!"field-{name}" :=
    fun _ _ heq => (String.append_right_inj _).mp heq
  rw [h.ids, ← List.concat_eq_append, List.nodup_concat, List.nodup_map_iff hinjective]
  refine and_iff_right fun hbutton => ?_
  obtain ⟨name, -, heq⟩ := List.mem_map.mp hbutton
  have hfirst : s!"field-{name}".toList.head? = some 'f' := by
    rw [String.toList_append]
    rfl
  rw [heq] at hfirst
  exact absurd hfirst (by decide)

theorem bindingKeys (h : config.Lays schema fields button) :
    schema.bindingKeys = config.fieldNames := by
  have hbutton : [button].filterMap Node.bindingKey? = [] := by
    rw [List.filterMap_cons, Node.bindingKey?, h.submit.2]
    rfl
  calc
    schema.bindingKeys = fields.filterMap Node.bindingKey? := by
      rw [Schema.bindingKeys, h.walk, h.nodes, List.filterMap_append, hbutton, List.append_nil]
    _ = (fields.map Node.bindingKey?).filterMap id := by rw [List.filterMap_map, Function.id_comp]
    _ = (config.fieldNames.map some).filterMap id := by
      rw [h.map_fields fun _ _ hinput => hinput.bindingKey, fieldNames, List.map_map]
      rfl
    _ = config.fieldNames := by rw [List.filterMap_map, Function.id_comp, List.filterMap_some]

end Lays

/-- The default of a column, when defaults are included and it has one. -/
def default? (config : GenerationConfig) (mapping : ColumnMapping) : Option Json :=
  if config.includeDefaultValues then mapping.defaultValue else none

theorem get?_defaults (hdistinct : config.fieldNames.Nodup) {mapping : ColumnMapping}
    (hmapping : mapping ∈ config.keptColumns) :
    config.defaults.get? mapping.column.name = config.default? mapping := by
  rw [defaults, default?]
  split
  · exact Entries.get?_ofWrites_filterMap hdistinct hmapping
  · rfl

theorem mem_fieldNames_of_mem_defaults {key : String}
    (hkey : key ∈ config.defaults.map Prod.fst) : key ∈ config.fieldNames := by
  rw [defaults] at hkey
  split at hkey
  · obtain ⟨⟨name, value⟩, hentry, rfl⟩ := List.mem_map.mp hkey
    have hget := (Entries.ascending_ofWrites _).get?_eq_some hentry
    obtain ⟨mapping, hmapping, hwrite⟩ := List.mem_filterMap.mp (Entries.mem_of_get?_ofWrites hget)
    obtain ⟨_, -, heq⟩ := Option.map_eq_some_iff.mp hwrite
    exact List.mem_map.mpr ⟨mapping, hmapping, congrArg Prod.fst heq⟩
  · cases hkey

/-- What is made of a configuration. -/
structure Makes (config : GenerationConfig) (schema : Schema) (fields : List Node) (button : Node) :
    Prop extends config.Lays schema fields button where
  known : ∀ node ∈ schema.walk, ∀ tag members, node.body ≠ .unknown tag members
  duplicates : (∃ id, .duplicateNodeId id ∈ schema.issues) ↔ ¬config.fieldNames.Nodup
  /-- Each field starts with the default of its column, or else with its empty value. -/
  values : config.fieldNames.Nodup → List.Forall₂ (fun mapping field =>
    ∃ empty, field.body.emptyValue? = some empty ∧
      schema.seedValues.get? mapping.column.name = some ((config.default? mapping).getD empty))
    config.keptColumns fields
  keys : ∀ key, key ∈ schema.seedValues.map Prod.fst ↔ key ∈ config.fieldNames

theorem Lays.makes (h : config.Lays schema fields button)
    (hdeclared : schema.declaredValues = config.defaults) :
    config.Makes schema fields button where
  toLays := h
  known node hnode tag members := by
    rw [h.walk] at hnode
    rcases h.node_cases hnode with ⟨input, props, hbody⟩ | ⟨shown, hbody⟩ <;> rw [hbody] <;> nofun
  duplicates := by
    rw [← h.nodup_ids_iff, schema.nodup_ids_iff]
    simp only [not_forall, not_not]
  values hdistinct := by
    refine (forall₂_mem h.inputs).imp fun mapping field => ?_
    rintro ⟨hmapping, hfield, hinput⟩
    have hwalk : field ∈ schema.walk := by
      rw [h.walk, h.nodes]
      exact List.mem_append_left _ hfield
    refine ⟨_, hinput.emptyValue?, ?_⟩
    rw [Schema.get?_seedValues_of_nodup (h.bindingKeys ▸ hdistinct) hwalk hinput.bindingKey,
      hdeclared, get?_defaults hdistinct hmapping, hinput.startValue?]
    cases config.default? mapping <;> rfl
  keys key := by
    have hbound : (∃ node ∈ schema.walk, node.bindingKey? = some key) ↔ key ∈ config.fieldNames := by
      rw [← h.bindingKeys, Schema.bindingKeys, List.mem_filterMap]
    rw [schema.mem_keys_seedValues_iff, hbound, hdeclared]
    exact or_iff_right_of_imp mem_fieldNames_of_mem_defaults

/-- A form is generated unless a column that it keeps has a blank name, and what it is follows from
the columns that it keeps. -/
theorem schema_makes (config : GenerationConfig) :
    ((∃ failure, config.schema = .error failure) ↔
      ∃ mapping ∈ config.keptColumns, Unicode.allBlank mapping.column.name = true) ∧
    ∀ schema, config.schema = .ok schema → ∃ fields button, config.Makes schema fields button := by
  refine ⟨exists_schema_eq_error_iff, fun schema hschema => ?_⟩
  obtain ⟨fields, button, hlays, hdeclared⟩ := lays_of_schema_eq_ok hschema
  exact ⟨fields, button, hlays.makes hdeclared⟩

/-- A form for a new account: its key is left out with its default, and of the other columns one has
a default. -/
def accountForm : GenerationConfig where
  title := "Account"
  description := ""
  submitAction := .create
  includeValidation := false
  includeDefaultValues := true
  columns :=
    [⟨⟨"id", "number", false, true, none⟩, "number", "Key", true, some (.string "new"), []⟩,
      ⟨⟨"country", "string", true, false, none⟩, "badge", "Country", false, some (.string "NZ"), []⟩,
      ⟨⟨"terms", "boolean", true, false, none⟩, "checkbox", "Terms", true, none, []⟩]

/-- The account starts with the default and an unchecked box, and without a key. -/
theorem schema_makes_account :
    ∃ schema, accountForm.schema = .ok schema ∧ (∀ id, .duplicateNodeId id ∉ schema.issues) ∧
      schema.seedValues.get? "country" = some (.string "NZ") ∧
      schema.seedValues.get? "terms" = some (.bool false) ∧
      "id" ∉ schema.seedValues.map Prod.fst := by
  obtain ⟨hfails, hmakes⟩ := schema_makes accountForm
  have hdistinct : accountForm.fieldNames.Nodup := by decide
  cases hschema : accountForm.schema with
  | error failure =>
      have hfilled : ¬∃ mapping ∈ accountForm.keptColumns,
          Unicode.allBlank mapping.column.name = true := by decide
      exact absurd (hfails.mp ⟨failure, hschema⟩) hfilled
  | ok schema =>
      obtain ⟨fields, button, h⟩ := hmakes schema hschema
      have hvalues := h.values hdistinct
      have hinputs := h.inputs
      have hkept : accountForm.keptColumns = accountForm.columns.tail := by decide
      rw [hkept] at hvalues hinputs
      rcases hvalues with _ | ⟨⟨_, -, hcountry⟩, _ | ⟨⟨empty, hempty, hterms⟩, -⟩⟩
      rcases hinputs with _ | ⟨-, _ | ⟨hinput, -⟩⟩
      obtain rfl := Option.some.inj (hempty.symm.trans hinput.emptyValue?)
      refine ⟨schema, rfl, fun id hid => h.duplicates.mp ⟨id, hid⟩ hdistinct, hcountry, hterms, ?_⟩
      rw [h.keys]
      decide

end GenerationConfig

end Forms
