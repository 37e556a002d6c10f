import Forms.Condition.Evaluation
import Mathlib.Data.List.Basic

/-!
# Trees of conditions

A condition stands in front of its rules, and the rules of those, wherever the tree is visited.  How
it evaluates depends on its own comparison, its logic, and what each of its rules evaluates to.
-/

namespace Forms.Condition

/-! ## Conditions inside a condition -/

/-- Induction over all conditions inside a condition: what holds of its rules holds of it. -/
@[elab_as_elim]
theorem induct {motive : Condition → Prop}
    (condition : ∀ condition : Condition, (∀ rule ∈ condition.rules, motive rule) →
      motive condition) : ∀ tree, motive tree
  | mk field operator operand logic rules =>
      condition (mk field operator operand logic rules) fun rule _ => induct condition rule
termination_by tree => tree
decreasing_by
  rename_i hrule
  have hsize := List.sizeOf_lt_of_mem (show rule ∈ rules from hrule)
  simp only [mk.sizeOf_spec]
  omega

theorem visits_eq (condition : Condition) :
    condition.visits = condition :: condition.rules.flatMap visits := by
  have hrules : ∀ rules : List Condition, visitsOf rules = rules.flatMap visits := by
    intro rules
    induction rules with
    | nil => rw [visitsOf, List.flatMap_nil]
    | cons rule rules ih => rw [visitsOf, ih, List.flatMap_cons]
  cases condition with
  | mk field operator operand logic rules => rw [visits, hrules, Condition.rules]

theorem self_mem_visits (condition : Condition) : condition ∈ condition.visits := by
  rw [visits_eq]
  exact List.mem_cons_self

theorem mem_visits_of_rule {condition rule part : Condition} (hrule : rule ∈ condition.rules)
    (hpart : part ∈ rule.visits) : part ∈ condition.visits := by
  rw [visits_eq]
  exact List.mem_cons_of_mem _ (List.mem_flatMap.mpr ⟨rule, hrule, hpart⟩)

/-! ## Evaluation -/

variable {values : Values}

theorem allHold_eq_all (rules : List Condition) :
    allHold values rules = rules.all (·.evaluate values) := by
  induction rules with
  | nil => rw [allHold, List.all_nil]
  | cons rule rules ih => rw [allHold, ih, List.all_cons]

theorem someHolds_eq_any (rules : List Condition) :
    someHolds values rules = rules.any (·.evaluate values) := by
  induction rules with
  | nil => rw [someHolds, List.any_nil]
  | cons rule rules ih => rw [someHolds, ih, List.any_cons]

variable {condition : Condition}

theorem evaluate_of_leaf (hrules : condition.rules = []) :
    condition.evaluate values = condition.comparesAlone values := by
  cases condition with
  | mk field operator operand logic rules =>
      cases hrules
      simp only [evaluate, comparesAlone, Condition.field, Condition.operator, Condition.operand]

/-- Without a logic the comparison stands, whatever the rules are. -/
theorem evaluate_of_unjoined (hlogic : condition.logic = none) :
    condition.evaluate values = condition.comparesAlone values := by
  cases condition with
  | mk field operator operand logic rules =>
      cases hlogic
      cases rules with
      | nil => exact evaluate_of_leaf rfl
      | cons rule rules =>
          simp only [evaluate, comparesAlone, Condition.field, Condition.operator,
            Condition.operand]

/-- The rules of a leaf join nothing to its comparison, so leaves are no exception. -/
theorem evaluate_of_all (hlogic : condition.logic = some .all) :
    condition.evaluate values =
      (condition.comparesAlone values && condition.rules.all (·.evaluate values)) := by
  cases condition with
  | mk field operator operand logic rules =>
      cases hlogic
      cases rules with
      | nil => rw [evaluate_of_leaf rfl, Condition.rules, List.all_nil, Bool.and_true]
      | cons rule rules =>
          simp only [evaluate, allHold_eq_all, comparesAlone, Condition.field, Condition.operator,
            Condition.operand, Condition.rules]

theorem evaluate_of_any (hlogic : condition.logic = some .any) :
    condition.evaluate values =
      (condition.comparesAlone values || condition.rules.any (·.evaluate values)) := by
  cases condition with
  | mk field operator operand logic rules =>
      cases hlogic
      cases rules with
      | nil => rw [evaluate_of_leaf rfl, Condition.rules, List.any_nil, Bool.or_false]
      | cons rule rules =>
          simp only [evaluate, someHolds_eq_any, comparesAlone, Condition.field, Condition.operator,
            Condition.operand, Condition.rules]

/-- A condition holds by its own comparison, unless one of its rules is enough. -/
theorem comparesAlone_of_evaluate
    (hrules : condition.logic = some .any → ∀ rule ∈ condition.rules, rule.evaluate values = false)
    (hholds : condition.evaluate values = true) : condition.comparesAlone values = true := by
  cases hlogic : condition.logic with
  | none => rwa [evaluate_of_unjoined hlogic] at hholds
  | some logic =>
      cases logic with
      | all =>
          rw [evaluate_of_all hlogic, Bool.and_eq_true] at hholds
          exact hholds.1
      | any =>
          have hnone : condition.rules.any (·.evaluate values) = false := by
            rw [List.any_eq_false]
            exact fun rule hrule => Bool.not_eq_true _ ▸ hrules hlogic rule hrule
          rwa [evaluate_of_any hlogic, hnone, Bool.or_false] at hholds

end Forms.Condition
