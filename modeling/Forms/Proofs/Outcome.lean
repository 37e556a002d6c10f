import Forms.Failure
import Mathlib.Data.List.Forall2

/-!
# When a chain of steps succeeds

A chain of steps that may fail gives a result exactly when every step does.  These laws take such a
chain apart.
-/

namespace Forms.Outcome

variable {ε ε' α β : Type}

@[simp]
theorem bind_eq_ok_iff {first : Except ε α} {next : α → Except ε β} {result : β} :
    (first >>= next) = .ok result ↔ ∃ value, first = .ok value ∧ next value = .ok result := by
  cases first <;> simp [bind, Except.bind]

@[simp]
theorem map_eq_ok_iff {first : Except ε α} {f : α → β} {result : β} :
    first.map f = .ok result ↔ ∃ value, first = .ok value ∧ f value = result := by
  cases first <;> simp [Except.map]

@[simp]
theorem mapError_eq_ok_iff {first : Except ε α} {f : ε → ε'} {result : α} :
    first.mapError f = .ok result ↔ first = .ok result := by
  cases first <;> simp [Except.mapError]

/-- A list of steps succeeds when each of them does, item by item. -/
theorem mapM_eq_ok_iff {step : α → Except ε β} {items : List α} {results : List β} :
    items.mapM step = .ok results ↔
      List.Forall₂ (fun item result => step item = .ok result) items results := by
  induction items generalizing results with
  | nil => simp [pure, Except.pure, eq_comm]
  | cons item items ih =>
      simp only [List.mapM_cons, bind_eq_ok_iff, ih]
      constructor
      · rintro ⟨first, hfirst, rest, hrest, hresults⟩
        cases hresults
        exact .cons hfirst hrest
      · rintro (_ | ⟨hfirst, hrest⟩)
        exact ⟨_, hfirst, _, hrest, rfl⟩

/-- What is related item by item is related to some item. -/
theorem exists_mem_of_forall₂ {R : α → β → Prop} {items : List α} {results : List β}
    (hrelated : List.Forall₂ R items results) {result : β} (hresult : result ∈ results) :
    ∃ item ∈ items, R item result := by
  induction hrelated with
  | nil => simp at hresult
  | @cons item _ items _ hitem _ ih =>
      rcases List.mem_cons.mp hresult with rfl | hlater
      · exact ⟨item, List.mem_cons_self, hitem⟩
      · obtain ⟨found, hfound, hstep⟩ := ih hlater
        exact ⟨found, List.mem_cons_of_mem _ hfound, hstep⟩

/-- A relation may be replaced by one that follows from it for each of the results. -/
theorem forall₂_imp_of_mem {R S : α → β → Prop} {items : List α} {results : List β}
    (hrelated : List.Forall₂ R items results)
    (himp : ∀ result ∈ results, ∀ item, R item result → S item result) :
    List.Forall₂ S items results := by
  induction hrelated with
  | nil => exact .nil
  | cons hitem _ ih =>
      refine .cons (himp _ List.mem_cons_self _ hitem) (ih fun result hresult => ?_)
      exact himp result (List.mem_cons_of_mem _ hresult)

/-- Every result of a list of steps is the result of one of them. -/
theorem exists_mem_of_mapM_eq_ok {step : α → Except ε β} {items : List α} {results : List β}
    (hsteps : items.mapM step = .ok results) {result : β} (hresult : result ∈ results) :
    ∃ item ∈ items, step item = .ok result :=
  exists_mem_of_forall₂ (mapM_eq_ok_iff.mp hsteps) hresult

/-- Steps that always succeed give a list of results, one for each item. -/
theorem mapM_eq_ok {step : α → Except ε β} {result : α → β}
    (hstep : ∀ item, step item = .ok (result item)) (items : List α) :
    items.mapM step = .ok (items.map result) := by
  rw [funext hstep]
  exact List.mapM_pure

/-- A list of steps succeeds exactly when each of them can. -/
theorem exists_mapM_eq_ok_iff {step : α → Except ε β} {items : List α} :
    (∃ results, items.mapM step = .ok results) ↔
      ∀ item ∈ items, ∃ result, step item = .ok result := by
  simp only [mapM_eq_ok_iff]
  induction items with
  | nil => exact iff_of_true ⟨[], .nil⟩ (List.forall_mem_nil _)
  | cons item items ih =>
      rw [List.forall_mem_cons, ← ih]
      constructor
      · rintro ⟨_, _ | ⟨hfirst, hrest⟩⟩
        exact ⟨⟨_, hfirst⟩, _, hrest⟩
      · rintro ⟨⟨_, hfirst⟩, _, hrest⟩
        exact ⟨_, .cons hfirst hrest⟩

/-- Every item of a list of steps that succeed has its result. -/
theorem exists_mapM_eq_ok {step : α → Except ε β} {P : α → β → Prop} {items : List α}
    (hsteps : ∀ item ∈ items, ∃ result, step item = .ok result ∧ P item result) :
    ∃ results, items.mapM step = .ok results ∧
      ∀ item ∈ items, ∃ result ∈ results, P item result := by
  obtain ⟨results, hresults⟩ := exists_mapM_eq_ok_iff.mpr
    fun item hitem => (hsteps item hitem).imp fun _ => And.left
  refine ⟨results, hresults, fun item hitem => ?_⟩
  obtain ⟨found, hfound, hstep⟩ := exists_mem_of_forall₂ (mapM_eq_ok_iff.mp hresults).flip hitem
  obtain ⟨result, hresult, hholds⟩ := hsteps item hitem
  obtain rfl := Except.ok.inj (hresult.symm.trans hstep)
  exact ⟨result, hfound, hholds⟩

/-- Steps that undo what was done to each item give the items back. -/
theorem mapM_map_eq_ok {write : α → β} {read : β → Except ε α}
    (hread : ∀ item, read (write item) = .ok item) (items : List α) :
    (items.map write).mapM read = .ok items := by
  rw [mapM_eq_ok_iff, List.forall₂_map_left_iff, List.forall₂_same]
  exact fun item _ => hread item

/-! ## Kinds of failures -/

section Kinds

variable {kind : FailureKind}

/-- The outcome is a failure of the kind. -/
def FailsWith (kind : FailureKind) (outcome : Outcome α) : Prop :=
  ∃ failure, outcome = .error failure ∧ failure.kind = kind

@[simp]
theorem not_failsWith_ok (value : α) : ¬FailsWith kind (.ok value : Outcome α) :=
  fun ⟨_, heq, _⟩ => nomatch heq

@[simp]
theorem failsWith_error_iff {failure : Failure} :
    FailsWith kind (.error failure : Outcome α) ↔ failure.kind = kind := by
  refine ⟨?_, fun hkind => ⟨failure, rfl, hkind⟩⟩
  rintro ⟨_, heq, hkind⟩
  cases heq
  exact hkind

end Kinds

end Forms.Outcome
