import Forms.Generation
import Forms.Proofs.Outcome

/-!
# Fields of columns

A column becomes a field unless its name is blank or its rules cannot be built, and a form is built
when all its fields are.  These laws say which nodes they are.
-/

namespace Forms

theorem Unicode.allBlank_append (left right : String) :
    Unicode.allBlank (left ++ right) = (Unicode.allBlank left && Unicode.allBlank right) := by
  rw [Unicode.allBlank, String.toList_append, List.all_append]
  rfl

theorem Node.of?_eq_ok {id : String} (hid : Unicode.allBlank id = false) (body : Body Node) :
    Node.of? id body = .ok ⟨⟨id, hid⟩, none, none, none, none, body⟩ := by
  simp only [Node.of?, NonBlank.ofString?, hid]
  rfl

theorem Field.of?_eq_ok_iff {name : String} {field : Field} :
    Field.of? name = .ok field ↔ ∃ hname : Unicode.allBlank name = false,
      field = ⟨⟨name, hname⟩, none, none, none, none, none, none, []⟩ := by
  rw [of?, NonBlank.ofString?]
  by_cases hname : Unicode.allBlank name = false
  · rw [dif_pos hname, exists_prop_of_true hname, eq_comm (a := field)]
    exact iff_of_eq (Except.ok.injEq _ _)
  · rw [dif_neg hname]
    constructor
    · intro hfield
      cases hfield
    · rintro ⟨hfilled, -⟩
      exact absurd hfilled hname

namespace ColumnMapping

variable {mapping : ColumnMapping}

theorem id_notBlank (mapping : ColumnMapping) :
    Unicode.allBlank s!"field-{mapping.column.name}" = false := by
  simp only [Unicode.allBlank_append]
  rfl

/-- The field of a column whose name is not blank, with its rules. -/
def fieldNode (mapping : ColumnMapping) (hname : Unicode.allBlank mapping.column.name = false)
    (rules : List Rule) : Node :=
  ⟨⟨_, mapping.id_notBlank⟩, none, none, none, none, .field mapping.input
    ⟨⟨_, hname⟩, some mapping.label, none, none, none, some mapping.required, none, rules⟩⟩

theorem node_eq_ok_iff {includeValidation : Bool} {node : Node} :
    mapping.node includeValidation = .ok node ↔
      ∃ (hname : Unicode.allBlank mapping.column.name = false) (rules : List Rule),
        (if includeValidation then mapping.rules else .ok []) = .ok rules ∧
          node = mapping.fieldNode hname rules := by
  have hof (hname : Unicode.allBlank mapping.column.name = false) (rules : List Rule) :
      Node.of? s!"field-{mapping.column.name}" (.field mapping.input ⟨⟨_, hname⟩,
        some mapping.label, none, none, none, some mapping.required, none, rules⟩) =
          .ok (mapping.fieldNode hname rules) := Node.of?_eq_ok mapping.id_notBlank _
  rw [ColumnMapping.node, Outcome.bind_eq_ok_iff]
  simp only [Field.of?_eq_ok_iff]
  constructor
  · rintro ⟨_, ⟨hname, rfl⟩, hnode⟩
    refine ⟨hname, ?_⟩
    cases includeValidation with
    | true =>
        obtain ⟨rules, hrules, hnode⟩ := Outcome.bind_eq_ok_iff.mp hnode
        exact ⟨rules, hrules, Except.ok.inj (hnode.symm.trans (hof hname rules))⟩
    | false => exact ⟨[], rfl, Except.ok.inj (hnode.symm.trans (hof hname []))⟩
  · rintro ⟨hname, rules, hrules, rfl⟩
    refine ⟨_, ⟨hname, rfl⟩, ?_⟩
    cases includeValidation with
    | true => exact Outcome.bind_eq_ok_iff.mpr ⟨rules, hrules, hof hname rules⟩
    | false =>
        cases hrules
        exact hof hname []

end ColumnMapping

/-- The button of a form. -/
def SubmitAction.buttonNode (action : SubmitAction) : Node :=
  ⟨⟨"submit-button", by decide⟩, none, none, none, none, .display
    (.button s!"{action.label} Record" (some "primary") none (some "submit") none none none)⟩

theorem submitButton_eq_ok (action : SubmitAction) :
    submitButton action = .ok action.buttonNode :=
  Node.of?_eq_ok (by decide) _

theorem GenerationConfig.schema_eq_ok_iff {config : GenerationConfig} {schema : Schema} :
    config.schema = .ok schema ↔
      ∃ fields, (config.keptColumns.mapM fun mapping => mapping.node config.includeValidation) =
          .ok fields ∧
        schema = ⟨some config.title, some config.description,
          fields ++ [config.submitAction.buttonNode], some config.defaults⟩ := by
  rw [GenerationConfig.schema, Outcome.bind_eq_ok_iff]
  refine exists_congr fun fields => and_congr_right fun _ => ?_
  rw [submitButton_eq_ok, eq_comm (a := schema)]
  exact iff_of_eq (Except.ok.injEq _ _)

end Forms
