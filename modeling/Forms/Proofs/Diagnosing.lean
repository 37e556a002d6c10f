import Forms.Proofs.Entries
import Forms.Schema.Diagnostics
import Mathlib.Data.List.Nodup

/-!
# What is reported of a schema

The scan of a walk carries two tallies.  They count the nodes behind the scan, so what is reported of
a node can be told from the nodes before it: the second node of an identifier, every node that binds
a key again, and what is wrong with the node by itself.  From that follows how often each issue is
reported, and when there is none.
-/

namespace Forms

/-! ## Counting along a walk -/

theorem Tally.times_add (tally : Tally) (text wanted : String) :
    (tally.add text).times wanted = tally.times wanted + if text = wanted then 1 else 0 := by
  rw [times, add, Entries.get?_insert]
  by_cases hwanted : wanted = text
  · rw [if_pos hwanted, if_pos hwanted.symm, hwanted, Option.getD_some]
  · rw [if_neg hwanted, if_neg (Ne.symm hwanted), Nat.add_zero, times]

namespace Census

/-- The tallies count the identifiers and the binding keys of the nodes. -/
structure Counts (census : Census) (nodes : List Node) : Prop where
  ids : ∀ id, census.ids.times id = (nodes.map fun node => node.id.text).count id
  keys : ∀ key, census.keys.times key = (nodes.filterMap Node.bindingKey?).count key

theorem counts_empty : Census.empty.Counts [] := ⟨fun _ => rfl, fun _ => rfl⟩

theorem Counts.add {census : Census} {earlier : List Node} (h : census.Counts earlier)
    (node : Node) : (census.add node).Counts (earlier ++ [node]) := by
  constructor
  · intro id
    rw [List.map_append, List.count_append, List.map_singleton, List.count_singleton, Census.add,
      Tally.times_add, h.ids]
    simp only [beq_iff_eq]
  · intro key
    rw [List.filterMap_append, List.count_append, List.filterMap_cons, List.filterMap_nil]
    cases hkey : node.bindingKey? with
    | none => simp only [Census.add, hkey, h.keys, List.count_nil, Nat.add_zero]
    | some bound =>
        simp only [Census.add, hkey, Tally.times_add, h.keys, List.count_singleton, beq_iff_eq]

end Census

/-! ## Issues of a node -/

namespace Node

/-- Reported of a node that is the second one of its identifier. -/
def secondOfId (earlier : List Node) (node : Node) : List Issue :=
  if (earlier.map fun other => other.id.text).count node.id.text = 1 then
    [.duplicateNodeId node.id.text]
  else []

/-- Reported of a node that binds a key which an earlier one binds. -/
def bindsAgain (earlier : List Node) (node : Node) : List Issue :=
  match node.bindingKey? with
  | some key =>
    if key ∈ earlier.filterMap bindingKey? then [.duplicateBindingKey key node.id.text] else []
  | none => []

/-- All that is reported of a node, told by the nodes before it. -/
def issuesAfter (earlier : List Node) (node : Node) : List Issue :=
  node.secondOfId earlier ++ node.bindsAgain earlier ++ node.tagIssues ++ node.conditionIssues
    ++ node.patternIssues

/-- The conditions of a node, each before its rules. -/
def conditions (node : Node) : List Condition := (node.visibleIf.map Condition.visits).getD []

theorem conditionIssues_eq (node : Node) :
    node.conditionIssues = node.conditions.flatMap (Condition.ownIssues node.id.text) := by
  rw [conditionIssues, conditions]
  cases node.visibleIf <;> rfl

/-- A census of the nodes before tells what the nodes before tell. -/
theorem issues_add {census : Census} {earlier : List Node} (h : census.Counts earlier)
    (node : Node) : node.issues (census.add node) = node.issuesAfter earlier := by
  have hids : node.idIssues (census.add node).ids = node.secondOfId earlier := by
    rw [idIssues, secondOfId, Census.add, Tally.times_add, if_pos rfl, h.ids]
    simp only [Nat.reduceEqDiff]
  have hkeys : node.bindingIssues (census.add node).keys = node.bindsAgain earlier := by
    rw [bindingIssues, bindsAgain]
    cases hkey : node.bindingKey? with
    | none => rfl
    | some key =>
        simp only [Census.add, hkey, Tally.times_add, h.keys, if_true, Nat.lt_add_left_iff_pos,
          List.count_pos_iff]
  rw [issues, issuesAfter, hids, hkeys]

end Node

/-- The scan reports of each node what the nodes before it tell. -/
theorem issuesAlong_eq {census : Census} {earlier : List Node} (h : census.Counts earlier)
    (nodes : List Node) :
    issuesAlong census nodes =
      nodes.zipIdx.flatMap fun (node, place) => node.issuesAfter (earlier ++ nodes.take place) := by
  induction nodes generalizing census earlier with
  | nil => rfl
  | cons node nodes ih =>
      rw [issuesAlong, Node.issues_add h, ih (h.add node), List.zipIdx_cons', List.flatMap_cons,
        List.flatMap_map]
      simp [Prod.map]

/-! ## Issues of one kind -/

namespace Issue

/-- The issues of a kind. -/
def ofKind (kind : String) (issues : List Issue) : List Issue :=
  issues.filter fun issue => issue.kind == kind

theorem ofKind_append (kind : String) (first second : List Issue) :
    ofKind kind (first ++ second) = ofKind kind first ++ ofKind kind second :=
  List.filter_append ..

theorem ofKind_flatMap {α : Type} (kind : String) (items : List α) (issues : α → List Issue) :
    ofKind kind (items.flatMap issues) = items.flatMap fun item => ofKind kind (issues item) :=
  List.filter_flatMap ..

/-- Among issues of one kind there are all or none of a kind. -/
theorem ofKind_of_forall {issues : List Issue} {own : String}
    (hown : ∀ issue ∈ issues, issue.kind = own) (kind : String) :
    ofKind kind issues = if own = kind then issues else [] := by
  split
  · rename_i hkind
    exact List.filter_eq_self.mpr fun issue hissue => beq_iff_eq.mpr ((hown issue hissue).trans hkind)
  · rename_i hkind
    refine List.filter_eq_nil_iff.mpr fun issue hissue => ?_
    rwa [hown issue hissue, beq_iff_eq]

theorem count_ofKind (issue : Issue) (issues : List Issue) :
    (ofKind issue.kind issues).count issue = issues.count issue :=
  List.count_filter (beq_self_eq_true _)

/-- Whether the issue says that the key is bound again. -/
def isClashOn (key : String) : Issue → Bool
  | .duplicateBindingKey bound _ => bound == key
  | _ => false

theorem countP_isClashOn_ofKind (key : String) (issues : List Issue) :
    (ofKind "DuplicateBindingKey" issues).countP (isClashOn key) = issues.countP (isClashOn key) := by
  rw [ofKind, List.countP_filter]
  congr 1
  funext issue
  cases issue <;> simp [isClashOn, kind]

end Issue

open Issue (ofKind)

namespace Node

variable (earlier : List Node) (node : Node) (kind : String)

theorem ofKind_secondOfId : ofKind kind (node.secondOfId earlier) =
    if "DuplicateNodeId" = kind then node.secondOfId earlier else [] := by
  refine Issue.ofKind_of_forall (fun issue hissue => ?_) kind
  rw [secondOfId] at hissue
  split at hissue
  · rw [List.mem_singleton.mp hissue, Issue.kind]
  · cases hissue

theorem ofKind_bindsAgain : ofKind kind (node.bindsAgain earlier) =
    if "DuplicateBindingKey" = kind then node.bindsAgain earlier else [] := by
  refine Issue.ofKind_of_forall (fun issue hissue => ?_) kind
  rw [bindsAgain] at hissue
  split at hissue
  · split at hissue
    · rw [List.mem_singleton.mp hissue, Issue.kind]
    · cases hissue
  · cases hissue

theorem ofKind_tagIssues :
    ofKind kind node.tagIssues = if "UnknownTag" = kind then node.tagIssues else [] := by
  refine Issue.ofKind_of_forall (fun issue hissue => ?_) kind
  rw [tagIssues] at hissue
  split at hissue
  · rw [List.mem_singleton.mp hissue, Issue.kind]
  · cases hissue

theorem ofKind_patternIssues :
    ofKind kind node.patternIssues = if "InvalidPattern" = kind then node.patternIssues else [] := by
  refine Issue.ofKind_of_forall (fun issue hissue => ?_) kind
  obtain ⟨rule, -, hrule⟩ := List.mem_filterMap.mp hissue
  obtain ⟨text, -, rfl⟩ := Option.map_eq_some_iff.mp hrule
  rw [Issue.kind]

theorem ofKind_conditionIssues : ofKind kind node.conditionIssues =
    node.conditions.flatMap fun condition =>
      (if "UnsupportedOperator" = kind ∧ condition.operator.isSupported = false then
        [.unsupportedOperator node.id.text condition.operator.name] else []) ++
      (if "RulesWithoutLogic" = kind ∧ condition.rules ≠ [] ∧ condition.logic = none then
        [.rulesWithoutLogic node.id.text condition.field.text] else []) := by
  rw [conditionIssues_eq, Issue.ofKind_flatMap]
  congr 1
  funext condition
  rw [Condition.ownIssues, Issue.ofKind_append]
  congr 1
  · cases condition.operator.isSupported <;> simp [ofKind, Issue.kind, List.filter_singleton]
  · cases condition.rules <;> cases condition.logic <;>
      simp [ofKind, Issue.kind, List.filter_singleton]

/-- One result for each item that passes the test. -/
theorem flatMap_singleton_ite {α β : Type} (items : List α) (test : α → Prop) [DecidablePred test]
    (result : α → β) :
    (items.flatMap fun item => if test item then [result item] else []) =
      (items.filter test).map result := by
  induction items with
  | nil => rfl
  | cons item items ih =>
      rw [List.flatMap_cons, ih, List.filter_cons]
      by_cases htest : test item <;> simp [htest]

theorem ofKind_conditionIssues_of_ne (hoperator : kind ≠ "UnsupportedOperator")
    (hrules : kind ≠ "RulesWithoutLogic") : ofKind kind node.conditionIssues = [] := by
  rw [ofKind_conditionIssues, List.flatMap_eq_nil_iff]
  intro condition _
  rw [if_neg (fun h => hoperator h.1.symm), if_neg (fun h => hrules h.1.symm), List.append_nil]

/-- The kinds follow each other. -/
theorem ofKind_issuesAfter : ofKind kind (node.issuesAfter earlier) =
    (if "DuplicateNodeId" = kind then node.secondOfId earlier else []) ++
      (if "DuplicateBindingKey" = kind then node.bindsAgain earlier else []) ++
      (if "UnknownTag" = kind then node.tagIssues else []) ++ ofKind kind node.conditionIssues ++
      (if "InvalidPattern" = kind then node.patternIssues else []) := by
  rw [issuesAfter, Issue.ofKind_append, Issue.ofKind_append, Issue.ofKind_append,
    Issue.ofKind_append, ofKind_secondOfId, ofKind_bindsAgain, ofKind_tagIssues,
    ofKind_patternIssues]

/-- The second node of the identifier is reported once, and no other node. -/
theorem count_duplicateNodeId (id : String) :
    (node.issuesAfter earlier).count (.duplicateNodeId id) =
      if node.id.text = id ∧ (earlier.map fun other => other.id.text).count id = 1 then 1 else 0 := by
  have hkind : ofKind "DuplicateNodeId" (node.issuesAfter earlier) = node.secondOfId earlier := by
    simp [ofKind_issuesAfter, ofKind_conditionIssues_of_ne]
  rw [← Issue.count_ofKind, Issue.kind, hkind, secondOfId]
  by_cases hid : node.id.text = id
  · subst hid
    split <;> simp_all
  · split <;> simp_all

/-- A node that binds the key again is reported once. -/
theorem countP_isClashOn (key : String) :
    (node.issuesAfter earlier).countP (Issue.isClashOn key) =
      if node.bindingKey? = some key ∧ key ∈ earlier.filterMap bindingKey? then 1 else 0 := by
  have hkind : ofKind "DuplicateBindingKey" (node.issuesAfter earlier) = node.bindsAgain earlier := by
    simp [ofKind_issuesAfter, ofKind_conditionIssues_of_ne]
  rw [← Issue.countP_isClashOn_ofKind, hkind, bindsAgain]
  cases node.bindingKey? with
  | none => simp
  | some bound =>
      by_cases hkey : bound = key
      · subst hkey
        simp only [true_and]
        split <;> simp_all [Issue.isClashOn]
      · simp only [Option.some.injEq, hkey, false_and, if_false]
        split <;> simp_all [Issue.isClashOn]

end Node

/-! ## How often an issue is reported -/

section

variable {census : Census} {earlier : List Node} (h : census.Counts earlier) (nodes : List Node)
include h

theorem count_duplicateNodeId_along (id : String) :
    (issuesAlong census nodes).count (.duplicateNodeId id) =
      if (earlier.map fun node => node.id.text).count id < 2 ∧
        2 ≤ ((earlier ++ nodes).map fun node => node.id.text).count id then 1 else 0 := by
  induction nodes generalizing census earlier with
  | nil =>
      rw [List.append_nil, if_neg (by omega)]
      rfl
  | cons node nodes ih =>
      rw [issuesAlong, Node.issues_add h, List.count_append, Node.count_duplicateNodeId,
        ih (h.add node), List.append_assoc, List.singleton_append]
      simp only [List.map_append, List.map_cons, List.map_nil, List.count_append, List.count_cons,
        List.count_nil, beq_iff_eq]
      grind

theorem countP_isClashOn_along (key : String) :
    (issuesAlong census nodes).countP (Issue.isClashOn key) =
      ((earlier ++ nodes).filterMap Node.bindingKey?).count key - 1 -
        ((earlier.filterMap Node.bindingKey?).count key - 1) := by
  induction nodes generalizing census earlier with
  | nil => simp [issuesAlong]
  | cons node nodes ih =>
      rw [issuesAlong, Node.issues_add h, List.countP_append, Node.countP_isClashOn,
        ih (h.add node)]
      simp only [← List.count_pos_iff, List.filterMap_append, List.filterMap_cons,
        List.filterMap_nil, List.count_append]
      cases node.bindingKey? with
      | none => simp
      | some bound =>
          simp only [Option.some.injEq, List.count_cons, List.count_nil, beq_iff_eq]
          by_cases hbound : bound = key
          · simp only [hbound, true_and, if_true]
            split <;> omega
          · simp [hbound]

end

/-! ## Schemas -/

/-- Nothing is wrong with the node by itself. -/
structure Node.IsClean (node : Node) : Prop where
  tag : ∀ tag fields, node.body ≠ .unknown tag fields
  operators : ∀ condition ∈ node.conditions, condition.operator.isSupported = true
  logics : ∀ condition ∈ node.conditions, condition.rules ≠ [] → condition.logic ≠ none
  patterns : ∀ rule ∈ node.rules, ∀ text ∈ rule.patternText, (Pattern.compile? text).isSome = true

namespace Schema

/-- The binding keys along the walk. -/
def bindingKeys (schema : Schema) : List String := schema.walk.filterMap Node.bindingKey?

variable (schema : Schema)

theorem issues_eq : schema.issues = schema.walk.zipIdx.flatMap fun (node, place) =>
    node.issuesAfter (schema.walk.take place) :=
  issuesAlong_eq Census.counts_empty schema.walk

theorem count_duplicateNodeId (id : String) :
    schema.issues.count (.duplicateNodeId id) = if 2 ≤ schema.ids.count id then 1 else 0 := by
  rw [issues, count_duplicateNodeId_along Census.counts_empty]
  exact if_congr (by simp [ids]) rfl rfl

theorem countP_isClashOn (key : String) :
    schema.issues.countP (Issue.isClashOn key) = schema.bindingKeys.count key - 1 := by
  rw [issues, countP_isClashOn_along Census.counts_empty]
  simp [bindingKeys]

/-- Issues of a kind that a node has whatever stands before it. -/
theorem ofKind_issues {kind : String} {own : Node → List Issue}
    (hown : ∀ earlier node, ofKind kind (node.issuesAfter earlier) = own node) :
    ofKind kind schema.issues = schema.walk.flatMap own := by
  rw [issues_eq, Issue.ofKind_flatMap]
  simp only [hown]
  rw [← List.flatMap_map Prod.fst own, List.zipIdx_map_fst]

theorem unknownTags : ofKind "UnknownTag" schema.issues =
    schema.walk.flatMap fun node =>
      match node.body with
      | .unknown tag _ => [.unknownTag node.id.text tag]
      | _ => [] := by
  apply ofKind_issues
  intro earlier node
  simp only [Node.ofKind_issuesAfter, String.reduceEq, if_false, if_true, List.nil_append,
    List.append_nil, Node.ofKind_conditionIssues_of_ne, ne_eq, not_false_eq_true]
  rfl

theorem invalidPatterns : ofKind "InvalidPattern" schema.issues =
    schema.walk.flatMap fun node =>
      ((node.rules.filterMap Rule.patternText).filter fun text => Pattern.compile? text = none).map
        (.invalidPattern node.id.text) := by
  apply ofKind_issues
  intro earlier node
  simp only [Node.ofKind_issuesAfter, String.reduceEq, if_false, if_true, List.nil_append,
    Node.ofKind_conditionIssues_of_ne, ne_eq, not_false_eq_true, Node.patternIssues]
  induction node.rules with
  | nil => rfl
  | cons rule rules ih =>
      rw [List.filterMap_cons, List.filterMap_cons, Rule.invalidPattern?]
      cases rule.patternText with
      | none => exact ih
      | some text =>
          cases hcompiled : Pattern.compile? text with
          | none => simp [hcompiled, ih]
          | some shape => simp [hcompiled, ih]

theorem unsupportedOperators : ofKind "UnsupportedOperator" schema.issues =
    schema.walk.flatMap fun node =>
      (node.conditions.filter fun condition => condition.operator.isSupported = false).map
        fun condition => .unsupportedOperator node.id.text condition.operator.name := by
  apply ofKind_issues
  intro earlier node
  rw [Node.ofKind_issuesAfter, Node.ofKind_conditionIssues, ← Node.flatMap_singleton_ite]
  simp

theorem rulesWithoutLogic : ofKind "RulesWithoutLogic" schema.issues =
    schema.walk.flatMap fun node =>
      (node.conditions.filter fun condition => condition.rules ≠ [] ∧ condition.logic = none).map
        fun condition => .rulesWithoutLogic node.id.text condition.field.text := by
  apply ofKind_issues
  intro earlier node
  rw [Node.ofKind_issuesAfter, Node.ofKind_conditionIssues, ← Node.flatMap_singleton_ite]
  simp

/-- What is reported of a schema, exactly. -/
structure Diagnosis (issues : List Issue) : Prop where
  /-- The issues stand in the order of the walk, those of a node told by the nodes before it. -/
  inOrder : issues = schema.walk.zipIdx.flatMap fun (node, place) =>
    node.issuesAfter (schema.walk.take place)
  ids : ∀ id, issues.count (.duplicateNodeId id) = if 2 ≤ schema.ids.count id then 1 else 0
  keys : ∀ key, issues.countP (Issue.isClashOn key) = schema.bindingKeys.count key - 1
  tags : ofKind "UnknownTag" issues = schema.walk.flatMap fun node =>
    match node.body with
    | .unknown tag _ => [.unknownTag node.id.text tag]
    | _ => []
  operators : ofKind "UnsupportedOperator" issues = schema.walk.flatMap fun node =>
    (node.conditions.filter fun condition => condition.operator.isSupported = false).map
      fun condition => .unsupportedOperator node.id.text condition.operator.name
  logics : ofKind "RulesWithoutLogic" issues = schema.walk.flatMap fun node =>
    (node.conditions.filter fun condition => condition.rules ≠ [] ∧ condition.logic = none).map
      fun condition => .rulesWithoutLogic node.id.text condition.field.text
  patterns : ofKind "InvalidPattern" issues = schema.walk.flatMap fun node =>
    ((node.rules.filterMap Rule.patternText).filter fun text => Pattern.compile? text = none).map
      (.invalidPattern node.id.text)
  eq_nil_iff : issues = [] ↔
    schema.ids.Nodup ∧ schema.bindingKeys.Nodup ∧ ∀ node ∈ schema.walk, node.IsClean

theorem duplicateNodeId_mem_issues_iff (id : String) :
    .duplicateNodeId id ∈ schema.issues ↔ 2 ≤ schema.ids.count id := by
  rw [← List.count_pos_iff, count_duplicateNodeId]
  split <;> omega

/-- Identifiers that are never reported come once. -/
theorem nodup_ids_iff :
    schema.ids.Nodup ↔ ∀ id, .duplicateNodeId id ∉ schema.issues := by
  rw [List.nodup_iff_count_le_one]
  refine forall_congr' fun id => ?_
  rw [duplicateNodeId_mem_issues_iff]
  omega

/-- Keys that are never reported are bound once. -/
theorem nodup_bindingKeys_of_notMem
    (hclash : ∀ key id, Issue.duplicateBindingKey key id ∉ schema.issues) :
    schema.bindingKeys.Nodup := by
  rw [List.nodup_iff_count_le_one]
  intro key
  have hnone : schema.issues.countP (Issue.isClashOn key) = 0 := by
    rw [List.countP_eq_zero]
    rintro (_ | ⟨bound, id⟩ | _ | _ | _ | _) hissue
    case duplicateBindingKey => exact absurd hissue (hclash bound id)
    all_goals exact Bool.false_ne_true
  have hcount := schema.countP_isClashOn key
  omega

variable {schema} in
theorem isClean_of_issues_eq_nil (hnil : schema.issues = []) {node : Node}
    (hnode : node ∈ schema.walk) : node.IsClean := by
  have hnone {kind : String} {own : Node → List Issue}
      (hkind : ofKind kind schema.issues = schema.walk.flatMap own) : own node = [] := by
    rw [hnil] at hkind
    exact List.flatMap_eq_nil_iff.mp hkind.symm node hnode
  constructor
  · intro tag fields hbody
    have htag := hnone schema.unknownTags
    rw [hbody] at htag
    cases htag
  · intro condition hcondition
    have hfilter := List.map_eq_nil_iff.mp (hnone schema.unsupportedOperators)
    simpa using List.filter_eq_nil_iff.mp hfilter condition hcondition
  · intro condition hcondition
    have hfilter := List.map_eq_nil_iff.mp (hnone schema.rulesWithoutLogic)
    simpa using List.filter_eq_nil_iff.mp hfilter condition hcondition
  · intro rule hrule text htext
    have hfilter := List.map_eq_nil_iff.mp (hnone schema.invalidPatterns)
    have hcompiled := List.filter_eq_nil_iff.mp hfilter text
      (List.mem_filterMap.mpr ⟨rule, hrule, htext⟩)
    simpa [Option.isSome_iff_ne_none] using hcompiled

/-- What is reported is wrong: an identifier or a binding key comes twice, or a node is not clean. -/
theorem sound_of_mem_issues {issue : Issue} (hissue : issue ∈ schema.issues) :
    (∃ id, 2 ≤ schema.ids.count id) ∨ (∃ key, 2 ≤ schema.bindingKeys.count key) ∨
      ∃ node ∈ schema.walk, ¬node.IsClean := by
  have hkind : issue ∈ ofKind issue.kind schema.issues :=
    List.mem_filter.mpr ⟨hissue, beq_self_eq_true _⟩
  cases issue with
  | duplicateNodeId id => exact Or.inl ⟨id, (schema.duplicateNodeId_mem_issues_iff id).mp hissue⟩
  | duplicateBindingKey key id =>
      refine Or.inr (Or.inl ⟨key, ?_⟩)
      have hcount : 0 < schema.issues.countP (Issue.isClashOn key) :=
        List.countP_pos_iff.mpr ⟨_, hissue, beq_self_eq_true key⟩
      rw [countP_isClashOn] at hcount
      omega
  | unknownTag id tag =>
      rw [Issue.kind, unknownTags, List.mem_flatMap] at hkind
      obtain ⟨node, hnode, htag⟩ := hkind
      refine Or.inr (Or.inr ⟨node, hnode, fun hclean => ?_⟩)
      split at htag
      · exact hclean.tag _ _ ‹_›
      · cases htag
  | unsupportedOperator id operator =>
      rw [Issue.kind, unsupportedOperators, List.mem_flatMap] at hkind
      obtain ⟨node, hnode, hin⟩ := hkind
      obtain ⟨condition, hcondition, -⟩ := List.mem_map.mp hin
      obtain ⟨hthere, hunsupported⟩ := List.mem_filter.mp hcondition
      refine Or.inr (Or.inr ⟨node, hnode, fun hclean => ?_⟩)
      simp [hclean.operators condition hthere] at hunsupported
  | rulesWithoutLogic id field =>
      rw [Issue.kind, rulesWithoutLogic, List.mem_flatMap] at hkind
      obtain ⟨node, hnode, hin⟩ := hkind
      obtain ⟨condition, hcondition, -⟩ := List.mem_map.mp hin
      obtain ⟨hthere, hidle⟩ := List.mem_filter.mp hcondition
      obtain ⟨hrules, hlogic⟩ := of_decide_eq_true hidle
      exact Or.inr (Or.inr ⟨node, hnode, fun hclean => hclean.logics condition hthere hrules hlogic⟩)
  | invalidPattern id pattern =>
      rw [Issue.kind, invalidPatterns, List.mem_flatMap] at hkind
      obtain ⟨node, hnode, hin⟩ := hkind
      obtain ⟨text, htext, -⟩ := List.mem_map.mp hin
      obtain ⟨hthere, hinvalid⟩ := List.mem_filter.mp htext
      obtain ⟨rule, hrule, hpattern⟩ := List.mem_filterMap.mp hthere
      refine Or.inr (Or.inr ⟨node, hnode, fun hclean => ?_⟩)
      have hcompiled := hclean.patterns rule hrule text hpattern
      rw [of_decide_eq_true hinvalid] at hcompiled
      cases hcompiled

theorem issues_eq_nil_iff : schema.issues = [] ↔
    schema.ids.Nodup ∧ schema.bindingKeys.Nodup ∧ ∀ node ∈ schema.walk, node.IsClean := by
  constructor
  · intro hnil
    refine ⟨schema.nodup_ids_iff.mpr ?_, schema.nodup_bindingKeys_of_notMem ?_,
      fun node hnode => isClean_of_issues_eq_nil hnil hnode⟩ <;> simp [hnil]
  · rintro ⟨hids, hkeys, hclean⟩
    rw [List.eq_nil_iff_forall_not_mem]
    intro issue hissue
    rcases schema.sound_of_mem_issues hissue with ⟨id, hid⟩ | ⟨key, hkey⟩ | ⟨node, hnode, hwrong⟩
    · exact absurd (List.nodup_iff_count_le_one.mp hids id) (by omega)
    · exact absurd (List.nodup_iff_count_le_one.mp hkeys key) (by omega)
    · exact hwrong (hclean node hnode)

/-- The issues of a schema are complete and sound, and stand in the order of the walk. -/
theorem diagnosis_issues : schema.Diagnosis schema.issues where
  inOrder := schema.issues_eq
  ids := schema.count_duplicateNodeId
  keys := schema.countP_isClashOn
  tags := schema.unknownTags
  operators := schema.unsupportedOperators
  logics := schema.rulesWithoutLogic
  patterns := schema.invalidPatterns
  eq_nil_iff := schema.issues_eq_nil_iff

end Schema

end Forms
