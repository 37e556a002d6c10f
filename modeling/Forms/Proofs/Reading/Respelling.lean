import Forms.Proofs.Reading.Follows
import Mathlib.Logic.Equiv.Basic

/-!
# Members under another name

A member that may go by two names is moved from the one to the other by exchanging the names.  Two
forms of one value that are related in this way nest equally deep and stay related when their
objects are sorted, and so do the values around them.
-/

namespace Forms

variable {α : Type}

/-! ## Two names exchanged -/

namespace Entries

/-- The entries with two names exchanged. -/
def exchange (first second : String) (entries : List (String × α)) : List (String × α) :=
  entries.map fun entry => (Equiv.swap first second entry.1, entry.2)

/-- The entries as they are, or with the two names exchanged, one of which is not used. -/
def Respelled (first second : String) (before after : List (String × α)) : Prop :=
  after = before ∨
    (valuesAt before first = [] ∨ valuesAt before second = []) ∧
      after = exchange first second before

variable {first second : String}

theorem valuesAt_exchange (entries : List (String × α)) (key : String) :
    valuesAt (exchange first second entries) key =
      valuesAt entries (Equiv.swap first second key) := by
  induction entries with
  | nil => rfl
  | cons entry entries ih =>
      have hnames : key = Equiv.swap first second entry.1 ↔ Equiv.swap first second key = entry.1 :=
        ⟨fun h => by rw [h, Equiv.swap_apply_self], fun h => by rw [← h, Equiv.swap_apply_self]⟩
      rw [exchange, List.map_cons, ← exchange, valuesAt_cons, valuesAt_cons, ih]
      simp only [hnames]

theorem exchange_exchange (entries : List (String × α)) :
    exchange first second (exchange first second entries) = entries := by
  simp [exchange, Function.comp_def]

/-- Entries that leave out both names are not touched. -/
theorem filter_exchange (keep : String → Bool) (hfirst : keep first = false)
    (hsecond : keep second = false) (entries : List (String × α)) :
    (exchange first second entries).filter (fun entry => keep entry.1) =
      entries.filter fun entry => keep entry.1 := by
  induction entries with
  | nil => rfl
  | cons entry entries ih =>
      rw [exchange, List.map_cons, ← exchange, List.filter_cons, List.filter_cons, ih]
      by_cases hone : entry.1 = first
      · simp [hone, hfirst, hsecond]
      · by_cases htwo : entry.1 = second
        · simp [htwo, hfirst, hsecond]
        · simp [Equiv.swap_apply_of_ne_of_ne hone htwo]

end Entries

/-- A field is read from the exchanged entries as the field of the other name is read from the
entries. -/
theorem Fields.reads_exchange_iff {first second own : String} {decoder : Decoder α}
    {absent defaulted : Option α} {origin : Origin} {entries : List (String × Json)} {value : α} :
    (Fields.field [own] decoder absent defaulted).Reads origin
        (Entries.exchange first second entries) value ↔
      (Fields.field [Equiv.swap first second own] decoder absent defaulted).Reads origin entries
        value := by
  rw [reads_field_iff_valuesAt, reads_field_iff_valuesAt, Entries.valuesAt_exchange]

/-- A field of both names does not tell which one is used. -/
theorem Fields.reads_aliased_exchange_iff {first second : String} (hne : first ≠ second)
    {decoder : Decoder α} {absent defaulted : Option α} {origin : Origin}
    {entries : List (String × Json)} {value : α} :
    (Fields.field [first, second] decoder absent defaulted).Reads origin
        (Entries.exchange first second entries) value ↔
      (Fields.field [first, second] decoder absent defaulted).Reads origin entries value := by
  rw [reads_aliased_iff hne, reads_aliased_iff hne, Entries.valuesAt_exchange,
    Entries.valuesAt_exchange, Equiv.swap_apply_left, Equiv.swap_apply_right]
  exact readsFrom_iff_of_perm List.perm_append_comm

/-! ## Related values have one form -/

/-- Related values stay related when they are sorted, they nest equally deep, and both of them are
null or neither is. -/
structure Json.SameForm (related : Json → Json → Prop) : Prop where
  canonical : ∀ before after, related before after → related before.canonical after.canonical
  depth : ∀ before after, related before after → before.depth = after.depth
  null : ∀ before after, related before after → (before = .null ↔ after = .null)

theorem Json.SameForm.eq : Json.SameForm Eq where
  canonical _ _ := congrArg Json.canonical
  depth _ _ := congrArg Json.depth
  null _ _ heq := by rw [heq]

theorem Json.SameForm.items {related : Json → Json → Prop} (h : Json.SameForm related) :
    Json.SameForm (Json.ItemsRelated related) where
  canonical := by
    rintro before after (rfl | ⟨items, others, rfl, rfl, hitems⟩)
    · exact .inl rfl
    · refine .inr ⟨_, _, Json.canonical_array items, Json.canonical_array others, ?_⟩
      rw [List.forall₂_map_left_iff, List.forall₂_map_right_iff]
      exact hitems.imp h.canonical
  depth := by
    rintro before after (rfl | ⟨items, others, rfl, rfl, hitems⟩)
    · rfl
    · rw [Json.depth, Json.depth]
      congr 1
      induction hitems with
      | nil => rfl
      | cons hitem _ ih => rw [Json.depthItems, Json.depthItems, h.depth _ _ hitem, ih]
  null := by
    rintro before after (rfl | ⟨items, others, rfl, rfl, -⟩)
    · rfl
    · simp

namespace Entries

variable {related : String → Json → Json → Prop} {before after : List (String × Json)}

/-- A key of which the values have to be equal has the same values. -/
theorem Related.valuesAt_eq (h : Related related before after) {key : String}
    (hkey : related key = Eq) : valuesAt before key = valuesAt after key := by
  have hvalues := h key
  rwa [hkey, List.forall₂_eq_eq_eq] at hvalues

/-- A sorted object keeps what was written last under a key. -/
theorem valuesAt_canonicalMembers (members : List (String × Json)) (key : String) :
    valuesAt (Entries.ofWrites (Json.canonicalMembers members)) key =
      ((valuesAt members key).getLast?.map Json.canonical).toList := by
  rw [(ascending_ofWrites _).valuesAt_eq, Json.get?_ofWrites_canonicalMembers,
    get?_ofWrites_eq_getLast?]

theorem Related.canonical (hform : ∀ key, Json.SameForm (related key))
    (h : Related related before after) :
    Related related (Entries.ofWrites (Json.canonicalMembers before))
      (Entries.ofWrites (Json.canonicalMembers after)) := by
  intro key
  rw [valuesAt_canonicalMembers, valuesAt_canonicalMembers, List.getLast?_eq_head?_reverse,
    List.getLast?_eq_head?_reverse]
  have hvalues := List.rel_reverse (h key)
  generalize (valuesAt before key).reverse = values, (valuesAt after key).reverse = others
    at hvalues ⊢
  cases hvalues with
  | nil => exact .nil
  | cons hlast => exact .cons ((hform key).canonical _ _ hlast) .nil

/-- Leaving out members leaves the others related. -/
theorem Related.filter_key (h : Related related before after) (keep : String → Bool) :
    Related related (before.filter fun entry => keep entry.1)
      (after.filter fun entry => keep entry.1) := by
  intro key
  rw [valuesAt_filter_key, valuesAt_filter_key]
  split
  · exact h key
  · exact .nil

theorem Related.insert {key : String} (hkey : ∀ value, related key value value) (value : Json)
    {before after : Members} (hbefore : before.Ascending) (hafter : after.Ascending)
    (h : Related related before after) :
    Related related (before.insert key value) (after.insert key value) := by
  intro wanted
  have hwanted := h wanted
  rw [hbefore.valuesAt_eq, hafter.valuesAt_eq] at hwanted
  rw [(ascending_insert hbefore key value).valuesAt_eq,
    (ascending_insert hafter key value).valuesAt_eq, get?_insert, get?_insert]
  split
  · rename_i hsame
    rw [hsame]
    exact .cons (hkey value) .nil
  · exact hwanted

/-- Members that have to be equal are equal once they are sorted. -/
theorem Related.eq_of_ascending {before after : Members} (hbefore : before.Ascending)
    (hafter : after.Ascending) (h : Related (fun _ => Eq) before after) : before = after := by
  refine hbefore.ext hafter fun key => ?_
  have hvalues : valuesAt before key = valuesAt after key := h.valuesAt_eq rfl
  rw [hbefore.valuesAt_eq, hafter.valuesAt_eq] at hvalues
  simpa using congrArg List.head? hvalues

/-- Members that have counterparts of their depth nest no deeper than these. -/
theorem Related.depth_le
    (hdepth : ∀ key value other, related key value other → other.depth = value.depth)
    (h : Related related before after) : Json.depthMembers after ≤ Json.depthMembers before := by
  rw [Json.depthMembers_le_iff]
  rintro ⟨key, other⟩ hother
  obtain ⟨value, hvalue, hrelated⟩ :=
    Outcome.exists_mem_of_forall₂ (h key) (mem_valuesAt_iff.mpr hother)
  rw [hdepth key value other hrelated]
  exact Json.depthMembers_le_iff.mp le_rfl _ (mem_valuesAt_iff.mp hvalue)

theorem Related.depth_eq (hform : ∀ key, Json.SameForm (related key))
    (h : Related related before after) : Json.depthMembers before = Json.depthMembers after := by
  have hback : Related (fun key => flip (related key)) after before := fun key => (h key).flip
  exact le_antisymm (hback.depth_le fun key _ _ hrelated => (hform key).depth _ _ hrelated)
    (h.depth_le fun key _ _ hrelated => ((hform key).depth _ _ hrelated).symm)

theorem depthMembers_exchange (first second : String) (entries : List (String × Json)) :
    Json.depthMembers (exchange first second entries) = Json.depthMembers entries := by
  induction entries with
  | nil => rfl
  | cons entry entries ih =>
      rw [exchange, List.map_cons, ← exchange, Json.depthMembers, Json.depthMembers, ih]

namespace Respelled

variable {first second : String}

theorem depth_eq (h : Respelled first second before after) :
    Json.depthMembers after = Json.depthMembers before := by
  rcases h with rfl | ⟨-, rfl⟩
  · rfl
  · exact depthMembers_exchange first second before

/-- Sorting puts the member of another name elsewhere, but under each key it keeps the same. -/
theorem canonical (h : Respelled first second before after) :
    ∃ sorted, Respelled first second (Entries.ofWrites (Json.canonicalMembers before)) sorted ∧
      ∀ key, valuesAt sorted key =
        valuesAt (Entries.ofWrites (Json.canonicalMembers after)) key := by
  rcases h with rfl | ⟨hunused, rfl⟩
  · exact ⟨_, .inl rfl, fun _ => rfl⟩
  · refine ⟨_, .inr ⟨hunused.imp ?_ ?_, rfl⟩, fun key => ?_⟩
    · intro hnone
      rw [valuesAt_canonicalMembers, hnone]
      rfl
    · intro hnone
      rw [valuesAt_canonicalMembers, hnone]
      rfl
    · rw [valuesAt_exchange, valuesAt_canonicalMembers, valuesAt_canonicalMembers,
        valuesAt_exchange]

end Respelled

end Entries

end Forms
