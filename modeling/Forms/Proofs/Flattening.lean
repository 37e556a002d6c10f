import Forms.Proofs.Tree.Conditions
import Mathlib.Logic.Relation

/-!
# Trees of conditions with a single logic

A condition is visited before its rules, and its own comparison takes part wherever it stands.  So a
tree whose rules are all joined by `and` asks for the comparisons of all conditions in it, one whose
rules are all joined by `or` for that of some condition, however the tree is nested.  Rules that are
joined by nothing are never asked, and other rules may stand in their place.
-/

namespace Forms.Condition

variable {values : Values} {condition : Condition}

/-! ## One logic throughout -/

/-- Every condition in the tree that has rules joins them by this logic. -/
def JoinedBy (logic : Logic) (condition : Condition) : Prop :=
  ∀ part ∈ condition.visits, part.rules ≠ [] → part.logic = some logic

theorem JoinedBy.rule {logic : Logic} (h : condition.JoinedBy logic) {rule : Condition}
    (hrule : rule ∈ condition.rules) : rule.JoinedBy logic :=
  fun part hpart => h part (mem_visits_of_rule hrule hpart)

theorem JoinedBy.leaf_or_logic_eq {logic : Logic} (h : condition.JoinedBy logic) :
    condition.rules = [] ∨ condition.logic = some logic :=
  or_iff_not_imp_left.mpr (h condition condition.self_mem_visits)

theorem evaluate_all_iff (h : condition.JoinedBy .all) :
    condition.evaluate values = true ↔
      ∀ part ∈ condition.visits, part.comparesAlone values = true := by
  induction condition using induct with
  | condition condition ih =>
      rw [visits_eq, List.forall_mem_cons]
      rcases h.leaf_or_logic_eq with hleaf | hlogic
      · rw [evaluate_of_leaf hleaf, hleaf, List.flatMap_nil]
        exact (and_iff_left (List.forall_mem_nil _)).symm
      · rw [evaluate_of_all hlogic, Bool.and_eq_true, List.all_eq_true, List.forall_mem_flatMap]
        exact and_congr_right' (forall₂_congr fun rule hrule => ih rule hrule (h.rule hrule))

theorem evaluate_any_iff (h : condition.JoinedBy .any) :
    condition.evaluate values = true ↔
      ∃ part ∈ condition.visits, part.comparesAlone values = true := by
  induction condition using induct with
  | condition condition ih =>
      rw [visits_eq, List.exists_mem_cons_iff]
      rcases h.leaf_or_logic_eq with hleaf | hlogic
      · simp only [evaluate_of_leaf hleaf, hleaf, List.flatMap_nil, List.not_mem_nil, false_and,
          exists_false, or_false]
      · rw [evaluate_of_any hlogic, Bool.or_eq_true, List.any_eq_true]
        apply or_congr_right
        constructor
        · rintro ⟨rule, hrule, hholds⟩
          obtain ⟨part, hpart, hcompares⟩ := (ih rule hrule (h.rule hrule)).mp hholds
          exact ⟨part, List.mem_flatMap.mpr ⟨rule, hrule, hpart⟩, hcompares⟩
        · rintro ⟨part, hpart, hcompares⟩
          obtain ⟨rule, hrule, hinside⟩ := List.mem_flatMap.mp hpart
          exact ⟨rule, hrule, (ih rule hrule (h.rule hrule)).mpr ⟨part, hinside, hcompares⟩⟩

/-! ## Rules without a logic -/

/-- The second tree is the first one with other rules in one place, at any depth, where rules have no
logic. -/
inductive Reruled : Condition → Condition → Prop where
  | here {field : NonBlank} {operator : Operator} {operand : Json} {rules others : List Condition}
      (hrules : rules ≠ []) (hothers : others ≠ []) :
      Reruled (mk field operator operand none rules) (mk field operator operand none others)
  | inside {field : NonBlank} {operator : Operator} {operand : Json} {logic : Option Logic}
      {before after : List Condition} {rule other : Condition} (hrule : Reruled rule other) :
      Reruled (mk field operator operand logic (before ++ rule :: after))
        (mk field operator operand logic (before ++ other :: after))

theorem Reruled.evaluate_eq {tree other : Condition} (h : Reruled tree other) :
    other.evaluate values = tree.evaluate values := by
  induction h with
  | here _ _ =>
      rw [evaluate_of_unjoined rfl, evaluate_of_unjoined rfl]
      rfl
  | @inside field operator operand logic before after rule other _ ih =>
      cases logic with
      | none =>
          rw [evaluate_of_unjoined rfl, evaluate_of_unjoined rfl]
          rfl
      | some logic =>
          cases logic with
          | all =>
              rw [evaluate_of_all rfl, evaluate_of_all rfl]
              simp only [Condition.rules, List.all_append, List.all_cons, ih]
              rfl
          | any =>
              rw [evaluate_of_any rfl, evaluate_of_any rfl]
              simp only [Condition.rules, List.any_append, List.any_cons, ih]
              rfl

/-! ## The whole tree -/

/-- A tree that joins by `and` throughout holds when every condition in it compares as asked, and one
that joins by `or` throughout when some condition does.  Rules without a logic may be replaced
anywhere, any number of times, and the tree evaluates to the same. -/
theorem evaluate_flattens (values : Values) (condition : Condition) :
    (condition.JoinedBy .all →
      (condition.evaluate values = true ↔
        ∀ part ∈ condition.visits, part.comparesAlone values = true)) ∧
    (condition.JoinedBy .any →
      (condition.evaluate values = true ↔
        ∃ part ∈ condition.visits, part.comparesAlone values = true)) ∧
    ∀ {other : Condition}, Relation.ReflTransGen Reruled condition other →
      other.evaluate values = condition.evaluate values := by
  refine ⟨evaluate_all_iff, evaluate_any_iff, fun hreruled => ?_⟩
  induction hreruled with
  | refl => rfl
  | tail _ hlast ih => exact hlast.evaluate_eq.trans ih

/-- Asks for one text in one field. -/
def asks (field : NonBlank) (text : String) (logic : Option Logic) (rules : List Condition) :
    Condition :=
  .mk field .equals (.string text) logic rules

/-- Asks for a tier and a region, and below the region for a role; the role is a leaf, whose logic
joins nothing. -/
def asksForOffice (logic : Logic) (below : Option Logic) (role : String) : Condition :=
  asks ⟨"tier", by decide⟩ "team" (some logic)
    [asks ⟨"region", by decide⟩ "eu" below [asks ⟨"role", by decide⟩ role (some .any) []]]

/-- A team with an owner in the region. -/
def officeValues : Values :=
  [("tier", .string "team"), ("region", .string "eu"), ("role", .string "owner")]

theorem visits_asksForOffice (logic : Logic) (below : Option Logic) (role : String) :
    (asksForOffice logic below role).visits =
      [asksForOffice logic below role,
        asks ⟨"region", by decide⟩ "eu" below [asks ⟨"role", by decide⟩ role (some .any) []],
        asks ⟨"role", by decide⟩ role (some .any) []] := by
  simp [asksForOffice, asks, visits, visitsOf]

theorem joinedBy_asksForOffice (logic : Logic) (role : String) :
    (asksForOffice logic (some logic) role).JoinedBy logic := by
  rw [JoinedBy, visits_asksForOffice, List.forall_mem_cons, List.forall_mem_cons,
    List.forall_mem_singleton]
  exact ⟨fun _ => rfl, fun _ => rfl, fun hrules => absurd rfl hrules⟩

/-- An owner is asked for in three fields at once, a guest in one of three, and where the region has no
logic it does not matter which role stands below it. -/
theorem evaluate_flattens_office :
    (asksForOffice .all (some .all) "owner").evaluate officeValues = true ∧
      (asksForOffice .any (some .any) "guest").evaluate officeValues = true ∧
      (asksForOffice .all none "guest").evaluate officeValues =
        (asksForOffice .all none "owner").evaluate officeValues := by
  refine ⟨((evaluate_flattens _ _).1 (joinedBy_asksForOffice _ _)).mpr ?_,
    ((evaluate_flattens _ _).2.1 (joinedBy_asksForOffice _ _)).mpr ?_,
    (evaluate_flattens _ _).2.2 (.single ?_)⟩
  · rw [visits_asksForOffice, List.forall_mem_cons, List.forall_mem_cons,
      List.forall_mem_singleton]
    decide
  · exact ⟨_, self_mem_visits _, by decide⟩
  · exact @Reruled.inside _ _ _ _ [] [] _ _ (.here (List.cons_ne_nil _ _) (List.cons_ne_nil _ _))

end Forms.Condition
