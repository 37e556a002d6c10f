import Mathlib.Data.List.Induction

/-!
# What happened last

A history is a list of events, the latest one at its end.  What matters is often one event of the past
and that nothing undid it since.
-/

namespace Forms

variable {α : Type} {P Q : α → Prop}

/-- There was an event with `P`, and all events since have `Q`. -/
def Since (P Q : α → Prop) (events : List α) : Prop :=
  ∃ before event after, events = before ++ event :: after ∧ P event ∧ ∀ later ∈ after, Q later

namespace Since

theorem not_nil : ¬Since P Q [] := by
  rintro ⟨before, event, after, hevents, -⟩
  cases before <;> cases hevents

/-- One more event is the one itself, or it leaves the one before. -/
theorem append_singleton_iff {events : List α} {last : α} :
    Since P Q (events ++ [last]) ↔ P last ∨ Q last ∧ Since P Q events := by
  constructor
  · rintro ⟨before, event, after, hevents, hevent, hafter⟩
    rcases List.eq_nil_or_concat after with rfl | ⟨after, other, rfl⟩
    · obtain ⟨-, hlast⟩ := List.append_inj' hevents rfl
      rw [List.singleton_inj.mp hlast]
      exact Or.inl hevent
    · rw [List.concat_eq_append, ← List.cons_append, ← List.append_assoc] at hevents
      obtain ⟨rfl, hlast⟩ := List.append_inj' hevents rfl
      rw [List.concat_eq_append, List.forall_mem_append, List.forall_mem_singleton] at hafter
      rw [List.singleton_inj.mp hlast]
      exact Or.inr ⟨hafter.2, before, event, after, rfl, hevent, hafter.1⟩
  · rintro (hlast | ⟨hlast, before, event, after, rfl, hevent, hafter⟩)
    · exact ⟨events, last, [], rfl, hlast, List.forall_mem_nil _⟩
    · refine ⟨before, event, after ++ [last], ?_, hevent, ?_⟩
      · rw [List.append_assoc, List.cons_append]
      · exact List.forall_mem_append.mpr ⟨hafter, List.forall_mem_singleton.mpr hlast⟩

/-- Events that leave the one before may follow it. -/
theorem append {events recent : List α} (h : Since P Q events)
    (hrecent : ∀ event ∈ recent, Q event) : Since P Q (events ++ recent) := by
  obtain ⟨before, event, after, rfl, hevent, hafter⟩ := h
  refine ⟨before, event, after ++ recent, ?_, hevent, List.forall_mem_append.mpr ⟨hafter, hrecent⟩⟩
  rw [List.append_assoc, List.cons_append]

/-- When none of the latest events is the one, it was before them. -/
theorem of_append {events recent : List α} (h : Since P Q (events ++ recent))
    (hrecent : ∀ event ∈ recent, ¬P event) : Since P Q events := by
  induction recent using List.reverseRecOn with
  | nil => rwa [List.append_nil] at h
  | append_singleton recent last ih =>
      rw [← List.append_assoc, append_singleton_iff] at h
      rw [List.forall_mem_append, List.forall_mem_singleton] at hrecent
      exact ih (h.resolve_left hrecent.2).2 hrecent.1

end Since

end Forms
