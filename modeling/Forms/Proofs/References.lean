import Forms.Proofs.Tree.Conditions
import Forms.Proofs.Visibility

/-!
# What a drawing reads

A tree refers to its document by binding keys and by the fields that its conditions name.  A drawing
reads the values of those and the errors of the binding keys, and nothing else of the document.  A
key that is missing cannot be told from one whose value is null.
-/

namespace Forms

/-! ## Conditions -/

namespace Condition

/-- No field that the condition names, at any depth, tells the two documents apart. -/
def AgreeOn (left right : Values) (condition : Condition) : Prop :=
  ∀ part ∈ condition.visits, left.valueOf part.field.text = right.valueOf part.field.text

/-- Each part of the condition, at any depth, compares alike in the two documents. -/
def ComparesAlike (left right : Values) (condition : Condition) : Prop :=
  ∀ part ∈ condition.visits, part.comparesAlone left = part.comparesAlone right

variable {left right : Values}

theorem AgreeOn.comparesAlike {condition : Condition} (h : AgreeOn left right condition) :
    ComparesAlike left right condition := by
  intro part hpart
  rw [comparesAlone, comparesAlone, h part hpart]

theorem ComparesAlike.rule {condition rule : Condition} (h : ComparesAlike left right condition)
    (hrule : rule ∈ condition.rules) : ComparesAlike left right rule :=
  fun part hpart => h part (mem_visits_of_rule hrule hpart)

theorem evaluate_alike (condition : Condition) (h : ComparesAlike left right condition) :
    condition.evaluate left = condition.evaluate right := by
  induction condition using induct with
  | condition condition ih =>
      have hbase := h condition condition.self_mem_visits
      have hrules : ∀ rule ∈ condition.rules,
          (rule.evaluate left = true ↔ rule.evaluate right = true) :=
        fun rule hrule => Bool.eq_iff_iff.mp (ih rule hrule (h.rule hrule))
      cases hlogic : condition.logic with
      | none => rw [evaluate_of_unjoined hlogic, evaluate_of_unjoined hlogic, hbase]
      | some logic =>
          cases logic with
          | all =>
              rw [evaluate_of_all hlogic, evaluate_of_all hlogic, hbase]
              apply congrArg
              rw [Bool.eq_iff_iff, List.all_eq_true, List.all_eq_true]
              exact forall₂_congr hrules
          | any =>
              rw [evaluate_of_any hlogic, evaluate_of_any hlogic, hbase]
              apply congrArg
              rw [Bool.eq_iff_iff, List.any_eq_true, List.any_eq_true]
              exact exists_congr fun rule => and_congr_right (hrules rule)

theorem evaluate_congr {condition : Condition} (h : AgreeOn left right condition) :
    condition.evaluate left = condition.evaluate right :=
  evaluate_alike condition h.comparesAlike

theorem isVisible_congr {condition : Option Condition}
    (h : ∀ held ∈ condition, AgreeOn left right held) :
    isVisible left condition = isVisible right condition := by
  cases condition with
  | none => rfl
  | some condition => exact evaluate_congr (h condition rfl)

end Condition

/-! ## Trees -/

/-- Nothing that the nodes refer to, shown or hidden, tells two documents apart. -/
structure AgreeOnReferences (values others : Values) (errors faults : Errors)
    (nodes : List Node) : Prop where
  bound : ∀ node ∈ nodes, ∀ key ∈ node.bindingKey?, values.valueOf key = others.valueOf key
  /-- A condition may stand on any node, and any condition inside it counts. -/
  named : ∀ node ∈ nodes, ∀ condition ∈ node.visibleIf, condition.AgreeOn values others
  faulty : ∀ node ∈ nodes, ∀ key ∈ node.bindingKey?, errors.get? key = faults.get? key

namespace AgreeOnReferences

variable {values others : Values} {errors faults : Errors} {nodes : List Node}

theorem mono (h : AgreeOnReferences values others errors faults nodes) {fewer : List Node}
    (hfewer : ∀ node ∈ fewer, node ∈ nodes) :
    AgreeOnReferences values others errors faults fewer where
  bound node hnode := h.bound node (hfewer node hnode)
  named node hnode := h.named node (hfewer node hnode)
  faulty node hnode := h.faulty node (hfewer node hnode)

/-- The binding state of a node is read under its binding key. -/
theorem field_render (h : AgreeOnReferences values others errors faults nodes) {node : Node}
    (hnode : node ∈ nodes) :
    node.body.field?.map (Field.render values errors) =
      node.body.field?.map (Field.render others faults) := by
  cases hfield : node.body.field? with
  | none => rfl
  | some field =>
      have hkey : field.name.text ∈ node.bindingKey? := by
        rw [Node.bindingKey?, hfield]
        rfl
      rw [Option.map_some, Option.map_some, Field.render, Field.render, h.bound node hnode _ hkey,
        h.faulty node hnode _ hkey]

theorem render? {node : Node} (h : AgreeOnReferences values others errors faults node.walk) :
    node.render? values errors = node.render? others faults := by
  induction node using Node.induct with
  | node node ih =>
      have hself : node ∈ node.walk := by
        rw [Node.walk_eq]
        exact List.mem_cons_self
      have hchild : ∀ child ∈ node.body.children,
          child.render? values errors = child.render? others faults := by
        intro child hchild
        apply ih child hchild
        apply h.mono
        intro below hbelow
        rw [Node.walk_eq]
        exact List.mem_cons_of_mem _ (List.mem_flatMap.mpr ⟨child, hchild, hbelow⟩)
      have hregions : node.body.regions.map (Region.filterMap (Node.render? values errors)) =
          node.body.regions.map (Region.filterMap (Node.render? others faults)) := by
        apply List.map_congr_left
        intro region hregion
        rw [Region.filterMap, Region.filterMap, List.filterMap_congr]
        intro child hinside
        exact hchild child (List.mem_flatMap.mpr ⟨region, hregion, hinside⟩)
      rw [Node.render?_eq, Node.render?_eq, Condition.isVisible_congr (h.named node hself),
        h.field_render hself, hregions]

end AgreeOnReferences

/-- Documents that agree on all that a sequence of nodes refers to are drawn alike. -/
theorem renderNodes_congr {values others : Values} {errors faults : Errors} {nodes : List Node}
    (h : AgreeOnReferences values others errors faults (nodes.flatMap Node.walk)) :
    renderNodes values errors nodes = renderNodes others faults nodes := by
  rw [renderNodes, renderNodes]
  apply List.filterMap_congr
  intro node hnode
  apply AgreeOnReferences.render?
  apply h.mono
  intro below hbelow
  exact List.mem_flatMap.mpr ⟨node, hnode, hbelow⟩

/-- A box to tick. -/
def consent : Node :=
  ⟨⟨"consent", by decide⟩, none, none, none, none,
    .field (.checkbox none (some true))
      ⟨⟨"news", by decide⟩, none, none, none, none, none, none, []⟩⟩

/-- The box in a card that asks for a plan and, inside its condition, for a country. -/
def newsletter : Node :=
  ⟨⟨"frame", by decide⟩,
    some (.mk ⟨"plan", by decide⟩ .equals (.string "pro") (some .all)
      [.mk ⟨"country", by decide⟩ .notEquals (.string "SE") none []]),
    none, none, none, .container (.card none [consent] none none)⟩

/-- Nobody asks for the age or for its error, and a box that is not ticked may be null. -/
theorem renderNodes_congr_newsletter :
    AgreeOnReferences [("age", .string "7"), ("plan", .string "pro")]
        [("country", .null), ("news", .null), ("plan", .string "pro")] [("age", "Too young.")] []
        ([newsletter].flatMap Node.walk) ∧
      renderNodes [("age", .string "7"), ("plan", .string "pro")] [("age", "Too young.")]
          [newsletter] =
        renderNodes [("country", .null), ("news", .null), ("plan", .string "pro")] []
          [newsletter] := by
  have hwalk : [newsletter].flatMap Node.walk = [newsletter, consent] := rfl
  have hagree : AgreeOnReferences [("age", .string "7"), ("plan", .string "pro")]
      [("country", .null), ("news", .null), ("plan", .string "pro")] [("age", "Too young.")] []
      ([newsletter].flatMap Node.walk) := by
    rw [hwalk]
    constructor
    · rw [List.forall_mem_cons, List.forall_mem_singleton]
      exact ⟨nofun, fun key hkey => by cases hkey; rfl⟩
    · rw [List.forall_mem_cons, List.forall_mem_singleton]
      refine ⟨fun condition hcondition => ?_, nofun⟩
      cases hcondition
      intro part hpart
      simp only [Condition.visits, Condition.visitsOf, List.append_nil, List.mem_cons,
        List.not_mem_nil, or_false] at hpart
      rcases hpart with rfl | rfl <;> rfl
    · rw [List.forall_mem_cons, List.forall_mem_singleton]
      exact ⟨nofun, fun key hkey => by cases hkey; rfl⟩
  exact ⟨hagree, renderNodes_congr hagree⟩

end Forms
