import Forms.Choice.Basic
import Mathlib.Data.List.Induction
import Mathlib.Data.List.Nodup

/-!
# Choices by group

Groups are built one choice at a time: a choice joins the group of its name, or opens that group
behind the others.  What the groups have to do with the choices seen so far is one invariant of this
loop, and at its end it says that the groups partition the choices stably.
-/

namespace Forms

namespace Choice

/-- Where a group name is used for the first time. -/
def firstUse (choices : List Choice) (name : String) : Nat :=
  (choices.map groupName).idxOf name

/-- The choices of one group, in their own order. -/
def ofGroup (choices : List Choice) (name : String) : List Choice :=
  choices.filter (·.groupName = name)

theorem mem_map_groupName_iff {choices : List Choice} {name : String} :
    name ∈ choices.map groupName ↔ ofGroup choices name ≠ [] := by
  simp [ofGroup, List.filter_eq_nil_iff]

section

variable {choices : List Choice} {choice : Choice} {name : String}

theorem ofGroup_concat_of_eq (hname : choice.groupName = name) :
    ofGroup (choices ++ [choice]) name = ofGroup choices name ++ [choice] := by
  simp [ofGroup, hname]

theorem ofGroup_concat_of_ne (hname : choice.groupName ≠ name) :
    ofGroup (choices ++ [choice]) name = ofGroup choices name := by
  simp [ofGroup, hname]

theorem firstUse_lt_length (hused : name ∈ choices.map groupName) :
    firstUse choices name < choices.length := by
  rw [← List.length_map (f := groupName)]
  exact List.idxOf_lt_length_of_mem hused

/-- A name that has been used keeps its first use when a choice is added. -/
theorem firstUse_concat_of_mem (hused : name ∈ choices.map groupName) :
    firstUse (choices ++ [choice]) name = firstUse choices name := by
  rw [firstUse, List.map_append, List.idxOf_append_of_mem hused, firstUse]

theorem firstUse_concat_of_not_mem (hnew : choice.groupName ∉ choices.map groupName) :
    firstUse (choices ++ [choice]) choice.groupName = choices.length := by
  simp [firstUse, List.idxOf_append_of_notMem hnew]

end

/-- The groups hold the choices, sorted by name: names are distinct and stand in the order of their
first use, a group holds exactly the choices of its name in their own order, no group is empty, and
together they hold every choice once. -/
structure PartitionsStably (groups : List (String × List Choice)) (choices : List Choice) :
    Prop where
  distinct : (groups.map Prod.fst).Nodup
  ordered : (groups.map Prod.fst).Pairwise (firstUse choices · < firstUse choices ·)
  members : ∀ group ∈ groups, group.2 = ofGroup choices group.1
  filled : ∀ group ∈ groups, group.2 ≠ []
  whole : (groups.flatMap Prod.snd).Perm choices

/-! ## One choice more -/

/-- A choice goes to the end of the first group of its name; without one it opens a group. -/
theorem addToGroups_cases (choice : Choice) (groups : List (String × List Choice)) :
    (∃ before members after, groups = before ++ (choice.groupName, members) :: after ∧
      choice.addToGroups groups
        = before ++ (choice.groupName, members ++ [choice]) :: after) ∨
    (choice.groupName ∉ groups.map Prod.fst ∧
      choice.addToGroups groups = groups ++ [(choice.groupName, [choice])]) := by
  induction groups with
  | nil => exact .inr ⟨List.not_mem_nil, rfl⟩
  | cons group groups ih =>
      obtain ⟨name, members⟩ := group
      rw [addToGroups]
      split
      · rename_i hname
        subst hname
        exact .inl ⟨[], members, groups, rfl, rfl⟩
      · rename_i hname
        obtain ⟨before, found, after, hgroups, hadded⟩ | ⟨hnew, hadded⟩ := ih
        · exact .inl ⟨(name, members) :: before, found, after, by rw [hgroups]; rfl,
            by rw [hadded]; rfl⟩
        · refine .inr ⟨?_, by rw [hadded]; rfl⟩
          rw [List.map_cons, List.mem_cons, not_or]
          exact ⟨fun h => hname h.symm, hnew⟩

namespace PartitionsStably

variable {groups : List (String × List Choice)} {choices : List Choice}

theorem used (hparts : PartitionsStably groups choices) {group : String × List Choice}
    (hgroup : group ∈ groups) : group.1 ∈ choices.map groupName := by
  rw [mem_map_groupName_iff, ← hparts.members group hgroup]
  exact hparts.filled group hgroup

/-- A name that a choice uses has a group. -/
theorem mem_names (hparts : PartitionsStably groups choices) {name : String}
    (hused : name ∈ choices.map groupName) : name ∈ groups.map Prod.fst := by
  obtain ⟨choice, hchoice, rfl⟩ := List.mem_map.mp hused
  obtain ⟨group, hgroup, hmember⟩ := List.mem_flatMap.mp (hparts.whole.mem_iff.mpr hchoice)
  rw [hparts.members group hgroup, ofGroup, List.mem_filter, decide_eq_true_iff] at hmember
  rw [hmember.2]
  exact List.mem_map_of_mem hgroup

theorem ordered_concat (hparts : PartitionsStably groups choices) (choice : Choice) :
    (groups.map Prod.fst).Pairwise
      (firstUse (choices ++ [choice]) · < firstUse (choices ++ [choice]) ·) := by
  refine hparts.ordered.imp_of_mem fun {name other} hname hother hlt => ?_
  obtain ⟨group, hgroup, rfl⟩ := List.mem_map.mp hname
  obtain ⟨next, hnext, rfl⟩ := List.mem_map.mp hother
  rwa [firstUse_concat_of_mem (hparts.used hgroup), firstUse_concat_of_mem (hparts.used hnext)]

/-- A choice that joins a group. -/
theorem join {before after : List (String × List Choice)} {choice : Choice}
    {members : List Choice}
    (hparts : PartitionsStably (before ++ (choice.groupName, members) :: after) choices) :
    PartitionsStably (before ++ (choice.groupName, members ++ [choice]) :: after)
      (choices ++ [choice]) := by
  have hnames : (before ++ (choice.groupName, members ++ [choice]) :: after).map Prod.fst
      = (before ++ (choice.groupName, members) :: after).map Prod.fst := by
    rw [List.map_append, List.map_append, List.map_cons, List.map_cons]
  have hothers : ∀ group ∈ before ++ after, choice.groupName ≠ group.1 := by
    have hnodup := hparts.distinct
    rw [List.map_append, List.map_cons, List.nodup_middle, ← List.map_append,
      List.nodup_cons] at hnodup
    exact fun group hgroup hname => hnodup.1 (List.mem_map.mpr ⟨group, hgroup, hname.symm⟩)
  have hmiddle : ∀ group : String × List Choice, group ∈ before ++ after →
      group ∈ before ++ (choice.groupName, members) :: after := fun group hgroup =>
    List.mem_append.mpr ((List.mem_append.mp hgroup).imp_right (List.mem_cons_of_mem _))
  have hcases : ∀ group ∈ before ++ (choice.groupName, members ++ [choice]) :: after,
      group = (choice.groupName, members ++ [choice]) ∨ group ∈ before ++ after := by
    intro group hgroup
    rwa [List.mem_append, List.mem_cons, or_left_comm, ← List.mem_append] at hgroup
  have hheld : members = ofGroup choices choice.groupName :=
    hparts.members (choice.groupName, members) (List.mem_append.mpr (.inr List.mem_cons_self))
  refine ⟨hnames ▸ hparts.distinct, hnames ▸ hparts.ordered_concat choice, ?_, ?_, ?_⟩
  · intro group hgroup
    obtain rfl | hgroup := hcases group hgroup
    · rw [ofGroup_concat_of_eq rfl, ← hheld]
    · rw [ofGroup_concat_of_ne (hothers group hgroup)]
      exact hparts.members group (hmiddle group hgroup)
  · intro group hgroup
    obtain rfl | hgroup := hcases group hgroup
    · exact List.append_ne_nil_of_right_ne_nil _ (List.cons_ne_nil _ _)
    · exact hparts.filled group (hmiddle group hgroup)
  · have hwhole := hparts.whole
    rw [List.flatMap_append, List.flatMap_cons] at hwhole ⊢
    have hmoved :
        (before.flatMap Prod.snd ++ ((members ++ [choice]) ++ after.flatMap Prod.snd)).Perm
          (choice :: (before.flatMap Prod.snd ++ (members ++ after.flatMap Prod.snd))) := by
      simp only [← List.append_assoc]
      rw [List.append_assoc _ [choice], List.singleton_append]
      exact List.perm_middle
    exact (hmoved.trans (hwhole.cons choice)).trans (List.perm_append_singleton choice choices).symm

/-- A choice that opens a group. -/
theorem concat {choice : Choice} (hnew : choice.groupName ∉ groups.map Prod.fst)
    (hparts : PartitionsStably groups choices) :
    PartitionsStably (groups ++ [(choice.groupName, [choice])]) (choices ++ [choice]) := by
  have hunused : choice.groupName ∉ choices.map groupName := fun h => hnew (hparts.mem_names h)
  have hcases : ∀ group ∈ groups ++ [(choice.groupName, [choice])],
      group ∈ groups ∨ group = (choice.groupName, [choice]) := by
    intro group hgroup
    rwa [List.mem_append, List.mem_singleton] at hgroup
  refine ⟨?_, ?_, ?_, ?_, ?_⟩
  · rw [List.map_append, List.map_singleton, List.nodup_append_comm]
    exact List.nodup_cons.mpr ⟨hnew, hparts.distinct⟩
  · rw [List.map_append, List.map_singleton, List.pairwise_append]
    refine ⟨hparts.ordered_concat choice, List.pairwise_singleton _ _, ?_⟩
    intro name hname last hlast
    obtain ⟨group, hgroup, rfl⟩ := List.mem_map.mp hname
    rw [List.mem_singleton.mp hlast, firstUse_concat_of_not_mem hunused,
      firstUse_concat_of_mem (hparts.used hgroup)]
    exact firstUse_lt_length (hparts.used hgroup)
  · intro group hgroup
    obtain hgroup | rfl := hcases group hgroup
    · have hother : choice.groupName ≠ group.1 := fun hname =>
        hnew (hname ▸ List.mem_map_of_mem hgroup)
      rw [ofGroup_concat_of_ne hother]
      exact hparts.members group hgroup
    · have hnone : ofGroup choices choice.groupName = [] := by
        by_contra hsome
        exact hunused (mem_map_groupName_iff.mpr hsome)
      rw [ofGroup_concat_of_eq rfl, hnone, List.nil_append]
  · intro group hgroup
    obtain hgroup | rfl := hcases group hgroup
    · exact hparts.filled group hgroup
    · exact List.cons_ne_nil _ _
  · rw [List.flatMap_append, List.flatMap_singleton]
    exact hparts.whole.append_right [choice]

/-- The step of the loop: one choice more on both sides. -/
theorem addToGroups (hparts : PartitionsStably groups choices) (choice : Choice) :
    PartitionsStably (choice.addToGroups groups) (choices ++ [choice]) := by
  obtain ⟨before, members, after, rfl, hadded⟩ | ⟨hnew, hadded⟩ :=
    choice.addToGroups_cases groups
  · rw [hadded]
    exact hparts.join
  · rw [hadded]
    exact hparts.concat hnew

end PartitionsStably

/-! ## All choices -/

theorem grouped_concat (choices : List Choice) (choice : Choice) :
    grouped (choices ++ [choice]) = choice.addToGroups (grouped choices) := by
  rw [grouped, grouped, List.foldl_concat]

/-- Grouping sorts choices by their names, first come first, and loses none. -/
theorem partitionsStably_grouped (choices : List Choice) :
    PartitionsStably (grouped choices) choices := by
  -- The loop has seen a prefix of the choices, so the induction takes them from the end.
  induction choices using List.reverseRecOn with
  | nil =>
      exact ⟨List.nodup_nil, List.Pairwise.nil, (fun _ h => nomatch h), (fun _ h => nomatch h),
        List.Perm.refl _⟩
  | append_singleton choices choice ih =>
      rw [grouped_concat]
      exact ih.addToGroups choice

/-- A group called by the default name takes the choices without a group as well. -/
example (a b c : ChoiceValue) :
    grouped [⟨a, "A", none, none⟩, ⟨b, "B", none, some "west"⟩, ⟨c, "C", none, some "default"⟩]
      = [("default", [⟨a, "A", none, none⟩, ⟨c, "C", none, some "default"⟩]),
        ("west", [⟨b, "B", none, some "west"⟩])] := by
  rfl

end Choice

end Forms
