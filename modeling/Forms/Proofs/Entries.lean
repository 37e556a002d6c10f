import Forms.Entries
import Mathlib.Data.List.Nodup
import Mathlib.Data.String.Basic

/-!
# Laws of entries by key

What a map holds is what `get?` finds.  A sequence of writes leaves the last value of each key, and
the list it leaves ascends, so two such lists that answer every key alike are one list.
-/

namespace Forms.Entries

variable {α β : Type}

/-- Every key stands before the greater ones, and only once. -/
def Ascending (entries : Entries α) : Prop := entries.Pairwise fun left right => left.1 < right.1

/-- The entries with every value replaced. -/
def mapValues (f : α → β) (entries : Entries α) : Entries β :=
  entries.map fun entry => (entry.1, f entry.2)

@[simp]
theorem get?_nil (key : String) : get? ([] : Entries α) key = none := rfl

theorem get?_cons (key wanted : String) (value : α) (entries : Entries α) :
    get? ((key, value) :: entries) wanted =
      if wanted = key then some value else get? entries wanted := by
  rw [get?, List.lookup_cons]
  by_cases hwanted : wanted = key
  · simp [hwanted]
  · rw [beq_eq_false_iff_ne.mpr hwanted, if_neg hwanted]
    rfl

theorem get?_insert (key wanted : String) (value : α) (entries : Entries α) :
    (insert key value entries).get? wanted =
      if wanted = key then some value else entries.get? wanted := by
  induction entries with
  | nil => simp [insert, get?_cons]
  | cons entry entries ih =>
      obtain ⟨other, held⟩ := entry
      rw [insert]
      split
      · simp [get?_cons]
      · split
        · rename_i hsame
          subst hsame
          simp only [get?_cons]
          split <;> rfl
        · rename_i hother
          simp only [get?_cons, ih]
          by_cases hwanted : wanted = other
          · subst hwanted
            simp [Ne.symm hother]
          · simp [hwanted]

theorem eq_or_mem_of_mem_insert {key : String} {value : α} {entries : Entries α}
    {entry : String × α} (hentry : entry ∈ insert key value entries) :
    entry = (key, value) ∨ entry ∈ entries := by
  induction entries with
  | nil => exact Or.inl (List.mem_singleton.mp hentry)
  | cons head tail ih =>
      rw [insert] at hentry
      split at hentry
      · exact List.mem_cons.mp hentry
      · split at hentry
        · rcases List.mem_cons.mp hentry with hnew | htail
          · exact Or.inl hnew
          · exact Or.inr (List.mem_cons_of_mem _ htail)
        · rcases List.mem_cons.mp hentry with rfl | htail
          · exact Or.inr List.mem_cons_self
          · exact (ih htail).imp_right (List.mem_cons_of_mem _)

theorem get?_merge (entries changes : Entries α) (key : String) :
    (entries.merge changes).get? key =
      ((ofWrites changes).get? key).or (entries.get? key) := by
  induction changes generalizing entries with
  | nil => simp [merge, ofWrites]
  | cons change changes ih =>
      have hfirst : (ofWrites (change :: changes)).get? key =
          ((ofWrites changes).get? key).or ((insert change.1 change.2 []).get? key) :=
        ih (insert change.1 change.2 [])
      -- A write hides what stood under its key, and nothing else.
      have hinsert : (insert change.1 change.2 entries).get? key =
          ((insert change.1 change.2 []).get? key).or (entries.get? key) := by
        rw [get?_insert, get?_insert]
        split <;> simp
      calc
        (entries.merge (change :: changes)).get? key =
            ((ofWrites changes).get? key).or ((insert change.1 change.2 entries).get? key) :=
          ih (insert change.1 change.2 entries)
        _ = (((ofWrites changes).get? key).or ((insert change.1 change.2 []).get? key)).or
            (entries.get? key) := by
          rw [hinsert, Option.or_assoc]
        _ = ((ofWrites (change :: changes)).get? key).or (entries.get? key) := by
          rw [hfirst]

@[simp]
theorem get?_ofWrites_nil (key : String) : (ofWrites ([] : List (String × α))).get? key = none := by
  rw [ofWrites, List.foldl_nil, get?, List.lookup_nil]

@[simp]
theorem get?_ofWrites_append (first second : List (String × α)) (key : String) :
    (ofWrites (first ++ second)).get? key =
      ((ofWrites second).get? key).or ((ofWrites first).get? key) := by
  have happend : ofWrites (first ++ second) = (ofWrites first).merge second := by
    simp [ofWrites, merge, List.foldl_append]
  rw [happend, get?_merge]

@[simp]
theorem get?_ofWrites_cons (key wanted : String) (value : α) (writes : List (String × α)) :
    (ofWrites ((key, value) :: writes)).get? wanted =
      ((ofWrites writes).get? wanted).or (if wanted = key then some value else none) := by
  have hsingle : ofWrites [(key, value)] = [(key, value)] := rfl
  rw [← List.singleton_append, get?_ofWrites_append, hsingle, get?_cons, get?_nil]

/-- A key that is written at most once has the value of its only write. -/
theorem get?_ofWrites_of_nodup {writes : List (String × α)}
    (hdistinct : (writes.map Prod.fst).Nodup) (key : String) :
    (ofWrites writes).get? key = get? writes key := by
  induction writes with
  | nil => rfl
  | cons entry writes ih =>
      obtain ⟨other, value⟩ := entry
      rw [List.map_cons, List.nodup_cons] at hdistinct
      rw [get?_ofWrites_cons, ih hdistinct.2, get?_cons]
      by_cases hkey : key = other
      · subst hkey
        have habsent : get? writes key = none := by
          rw [get?, List.lookup_eq_none_iff]
          intro held hheld
          have hne : key ≠ held.1 := by
            intro heq
            exact hdistinct.1 (List.mem_map.mpr ⟨held, hheld, heq.symm⟩)
          simpa using hne
        simp [habsent]
      · simp [hkey]

theorem mem_of_get?_eq_some {entries : Entries α} {key : String} {value : α}
    (hget : entries.get? key = some value) : (key, value) ∈ entries := by
  rw [get?, List.lookup_eq_some_iff] at hget
  obtain ⟨before, after, rfl, -⟩ := hget
  simp

/-- Writes are the only source of entries. -/
theorem mem_of_get?_ofWrites {writes : List (String × α)} {key : String} {value : α}
    (hget : (ofWrites writes).get? key = some value) : (key, value) ∈ writes := by
  induction writes with
  | nil => simp at hget
  | cons write writes ih =>
      obtain ⟨other, held⟩ := write
      rw [get?_ofWrites_cons, Option.or_eq_some_iff] at hget
      rcases hget with hlater | ⟨-, hfirst⟩
      · exact List.mem_cons_of_mem _ (ih hlater)
      · rw [Option.ite_none_right_eq_some, Option.some.injEq] at hfirst
        rw [hfirst.1, hfirst.2]
        exact List.mem_cons_self

/-- An entry is found under its key when no other entry has that key. -/
theorem get?_eq_some_of_mem {entries : Entries α} (hdistinct : (entries.map Prod.fst).Nodup)
    {entry : String × α} (hentry : entry ∈ entries) : entries.get? entry.1 = some entry.2 := by
  induction entries with
  | nil => simp at hentry
  | cons head tail ih =>
      obtain ⟨key, value⟩ := head
      rw [List.map_cons, List.nodup_cons] at hdistinct
      rw [get?_cons]
      rcases List.mem_cons.mp hentry with rfl | htail
      · simp
      · have hother : entry.1 ≠ key := by
          rintro rfl
          exact hdistinct.1 (List.mem_map.mpr ⟨entry, htail, rfl⟩)
        rw [if_neg hother]
        exact ih hdistinct.2 htail

theorem get?_eq_none_iff {entries : Entries α} {key : String} :
    entries.get? key = none ↔ key ∉ entries.map Prod.fst := by
  constructor
  · intro hget hkey
    obtain ⟨entry, hentry, rfl⟩ := List.mem_map.mp hkey
    have hfound := List.lookup_eq_none_iff.mp hget entry hentry
    simp at hfound
  · intro habsent
    rw [Option.eq_none_iff_forall_ne_some]
    intro value hget
    exact habsent (List.mem_map_of_mem (mem_of_get?_eq_some hget))

/-- Items that write under different keys, or not at all, do not get into each other's way. -/
theorem get?_ofWrites_filterMap {Item : Type} {items : List Item} {key : Item → String}
    {value? : Item → Option α} (hdistinct : (items.map key).Nodup) {item : Item}
    (hitem : item ∈ items) :
    (ofWrites (items.filterMap fun item => (value? item).map fun value => (key item, value))).get?
      (key item) = value? item := by
  have hwrites : ((items.filterMap fun item =>
      (value? item).map fun value => (key item, value)).map Prod.fst).Nodup := by
    rw [List.Nodup, List.pairwise_map] at hdistinct ⊢
    refine hdistinct.filterMap _ fun first second hne write hwrite other hother => ?_
    obtain ⟨_, -, rfl⟩ := Option.map_eq_some_iff.mp hwrite
    obtain ⟨_, -, rfl⟩ := Option.map_eq_some_iff.mp hother
    exact hne
  rw [get?_ofWrites_of_nodup hwrites]
  cases hvalue : value? item with
  | some value =>
      have hwrite : (value? item).map (fun value => (key item, value)) = some (key item, value) := by
        rw [hvalue, Option.map_some]
      exact get?_eq_some_of_mem hwrites (List.mem_filterMap.mpr ⟨item, hitem, hwrite⟩)
  | none =>
      rw [get?_eq_none_iff]
      intro hkey
      obtain ⟨write, hwrite, hsame⟩ := List.mem_map.mp hkey
      obtain ⟨other, hother, hwritten⟩ := List.mem_filterMap.mp hwrite
      obtain ⟨value, hheld, rfl⟩ := Option.map_eq_some_iff.mp hwritten
      obtain rfl := List.inj_on_of_nodup_map hdistinct hother hitem hsame
      rw [hvalue] at hheld
      cases hheld

/-! ## Order -/

theorem Ascending.nodup {entries : Entries α} (hascending : entries.Ascending) :
    entries.Nodup := by
  refine List.Pairwise.imp ?_ hascending
  rintro left right hlt rfl
  exact lt_irrefl _ hlt

theorem Ascending.nodup_keys {entries : Entries α} (hascending : entries.Ascending) :
    (entries.map Prod.fst).Nodup := by
  rw [List.Nodup, List.pairwise_map]
  exact hascending.imp fun hlt => ne_of_lt hlt

theorem Ascending.get?_eq_some {entries : Entries α} (hascending : entries.Ascending)
    {entry : String × α} (hentry : entry ∈ entries) : entries.get? entry.1 = some entry.2 :=
  get?_eq_some_of_mem hascending.nodup_keys hentry

theorem ascending_insert {entries : Entries α} (hascending : entries.Ascending)
    (key : String) (value : α) : (insert key value entries).Ascending := by
  induction entries with
  | nil => simp [insert, Ascending]
  | cons entry entries ih =>
      obtain ⟨other, held⟩ := entry
      rw [Ascending, List.pairwise_cons] at hascending
      rw [insert]
      split
      · rename_i hbefore
        rw [Ascending, List.pairwise_cons]
        refine ⟨?_, List.pairwise_cons.mpr hascending⟩
        intro later hlater
        rcases List.mem_cons.mp hlater with rfl | htail
        · exact hbefore
        · exact lt_trans hbefore (hascending.1 later htail)
      · split
        · rename_i hsame
          subst hsame
          exact List.pairwise_cons.mpr hascending
        · rename_i hnot hother
          have hafter : other < key := lt_of_le_of_ne (not_lt.mp hnot) (Ne.symm hother)
          refine List.pairwise_cons.mpr ⟨?_, ih hascending.2⟩
          intro later hlater
          rcases eq_or_mem_of_mem_insert hlater with rfl | hheld
          · exact hafter
          · exact hascending.1 later hheld

theorem ascending_merge {entries : Entries α} (hascending : entries.Ascending)
    (changes : Entries α) : (entries.merge changes).Ascending := by
  induction changes generalizing entries with
  | nil => exact hascending
  | cons change changes ih => exact ih (ascending_insert hascending change.1 change.2)

theorem ascending_ofWrites (writes : List (String × α)) : (ofWrites writes).Ascending :=
  ascending_merge List.Pairwise.nil writes

/-- An ascending list is told by what it answers. -/
theorem Ascending.ext {left right : Entries α} (hleft : left.Ascending) (hright : right.Ascending)
    (hget : ∀ key, left.get? key = right.get? key) : left = right := by
  have hsubset : ∀ {first second : Entries α}, first.Ascending →
      (∀ key, first.get? key = second.get? key) → ∀ entry ∈ first, entry ∈ second := by
    intro first second hfirst hsame entry hentry
    apply mem_of_get?_eq_some
    rw [← hsame, hfirst.get?_eq_some hentry]
  have hperm : left.Perm right := by
    rw [List.perm_ext_iff_of_nodup hleft.nodup hright.nodup]
    intro entry
    exact ⟨hsubset hleft hget entry, hsubset hright (fun key => (hget key).symm) entry⟩
  exact hperm.eq_of_pairwise (fun a b _ _ hab hba => absurd hab (lt_asymm hba)) hleft hright

/-- Writing the entries of an ascending list gives that list again. -/
theorem Ascending.ofWrites_eq {entries : Entries α} (hascending : entries.Ascending) :
    ofWrites entries = entries :=
  (ascending_ofWrites entries).ext hascending (get?_ofWrites_of_nodup hascending.nodup_keys)

/-! ## Replacing values -/

theorem mapValues_keys (f : α → β) (entries : Entries α) :
    (entries.mapValues f).map Prod.fst = entries.map Prod.fst := by
  rw [mapValues, List.map_map]
  rfl

@[simp]
theorem get?_mapValues (f : α → β) (entries : Entries α) (key : String) :
    (entries.mapValues f).get? key = (entries.get? key).map f := by
  induction entries with
  | nil => rfl
  | cons entry entries ih =>
      obtain ⟨other, value⟩ := entry
      rw [mapValues, List.map_cons, get?_cons, get?_cons]
      by_cases hkey : key = other
      · simp [hkey]
      · simpa [hkey, mapValues] using ih

theorem mapValues_insert (f : α → β) (key : String) (value : α) (entries : Entries α) :
    (insert key value entries).mapValues f = insert key (f value) (entries.mapValues f) := by
  induction entries with
  | nil => rfl
  | cons entry entries ih =>
      obtain ⟨other, held⟩ := entry
      simp only [mapValues, List.map_cons, insert] at ih ⊢
      split
      · rfl
      · split
        · rfl
        · rw [List.map_cons, ih]

theorem mapValues_ofWrites (f : α → β) (writes : List (String × α)) :
    (ofWrites writes).mapValues f = ofWrites (mapValues f writes) := by
  have hfold : ∀ entries : Entries α,
      (entries.merge writes).mapValues f = (entries.mapValues f).merge (mapValues f writes) := by
    induction writes with
    | nil => intro entries; rfl
    | cons write writes ih =>
        intro entries
        calc
          (entries.merge (write :: writes)).mapValues f =
              ((insert write.1 write.2 entries).mapValues f).merge (mapValues f writes) :=
            ih (insert write.1 write.2 entries)
          _ = (insert write.1 (f write.2) (entries.mapValues f)).merge (mapValues f writes) := by
            rw [mapValues_insert]
  exact hfold []

/-- Leaving out entries by their keys hides those keys and nothing else. -/
theorem get?_filter_key (keep : String → Bool) (entries : Entries α) (key : String) :
    get? (entries.filter fun entry => keep entry.1) key =
      if keep key then entries.get? key else none := by
  induction entries with
  | nil => simp
  | cons entry entries ih =>
      obtain ⟨other, value⟩ := entry
      by_cases hkeep : keep other = true
      · rw [List.filter_cons_of_pos (by simpa using hkeep), get?_cons, get?_cons, ih]
        by_cases hkey : key = other
        · subst hkey
          simp [hkeep]
        · simp [hkey]
      · rw [List.filter_cons_of_neg (by simpa using hkeep), get?_cons, ih]
        by_cases hkey : key = other
        · subst hkey
          simp [hkeep]
        · simp [hkey]

theorem get?_erase (key wanted : String) (entries : Entries α) :
    (entries.erase key).get? wanted = if wanted = key then none else entries.get? wanted := by
  rw [erase, get?_filter_key fun other => other != key]
  by_cases hwanted : wanted = key
  · simp [hwanted]
  · simp [hwanted]

theorem Ascending.filter {entries : Entries α} (hascending : entries.Ascending)
    (keep : String × α → Bool) : Ascending (entries.filter keep) :=
  List.Pairwise.filter keep hascending

end Forms.Entries
