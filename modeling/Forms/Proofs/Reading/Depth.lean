import Forms.Decode.Record
import Forms.Proofs.Canonical
import Forms.Proofs.Outcome

/-!
# Reading and depth

A recursive decoder is bounded by the depth of the value it reads.  Two decoders *agree within* a
depth when no value of that depth tells them apart.  Putting decoders together keeps agreement, and
an array or a record gains one level, so a bound that reaches down to the leaves can be forgotten.
-/

namespace Forms

variable {α β : Type}

/-- No value of at most this depth tells the decoders apart. -/
def Decoder.AgreeWithin (depth : Nat) (first second : Decoder α) : Prop :=
  ∀ origin value, value.depth ≤ depth → first origin value = second origin value

/-- No entries and no items of at most this depth tell the fields apart. -/
structure Fields.AgreeWithin (depth : Nat) (first second : Fields α) : Prop where
  count : first.count = second.count
  byName : ∀ origin (entries : List (String × Json)), (∀ entry ∈ entries, entry.2.depth ≤ depth) →
    first.byName origin entries = second.byName origin entries
  byPosition : ∀ origin position (items : List Json), (∀ item ∈ items, item.depth ≤ depth) →
    first.byPosition origin position items = second.byPosition origin position items
  /-- What is left of the items was among them. -/
  rest : ∀ origin position (items : List Json) value rest,
    first.byPosition origin position items = .ok (value, rest) → rest ⊆ items

namespace Decoder.AgreeWithin

variable {depth : Nat} {first second : Decoder α}

theorem refl (depth : Nat) (decoder : Decoder α) : AgreeWithin depth decoder decoder :=
  fun _ _ _ => rfl

theorem mono {smaller : Nat} (h : AgreeWithin depth first second) (hle : smaller ≤ depth) :
    AgreeWithin smaller first second :=
  fun origin value hvalue => h origin value (hvalue.trans hle)

theorem optional (h : AgreeWithin depth first second) :
    AgreeWithin depth (Decode.optional first) (Decode.optional second) := by
  intro origin value hvalue
  cases value <;> simp only [Decode.optional, h origin _ hvalue]

theorem list (h : AgreeWithin depth first second) :
    AgreeWithin depth (Decode.list first) (Decode.list second) := by
  intro origin value hvalue
  cases value with
  | array items =>
      have hitems : ∀ item ∈ items, first origin item = second origin item := fun item hitem =>
        h origin item ((Json.depth_lt_of_mem_array hitem).le.trans hvalue)
      simp only [Decode.list]
      clear hvalue
      induction items with
      | nil => rfl
      | cons item items ih =>
          rw [List.mapM_cons, List.mapM_cons, hitems item List.mem_cons_self,
            ih fun later hlater => hitems later (List.mem_cons_of_mem _ hlater)]
  | null | bool | number | string | object => rfl

/-- A decoder bounded by the depth of what it reads, each bound reading children within the bound
before it, is the decoder that reads its own children. -/
theorem eq_layer {within : Nat → Decoder α} {layer : Decoder α → Decoder α}
    (hzero : ∀ child, AgreeWithin 0 (within 0) (layer child))
    (hsucc : ∀ depth, within (depth + 1) = layer (within depth))
    (hlayer : ∀ depth first second, AgreeWithin depth first second →
      AgreeWithin (depth + 1) (layer first) (layer second)) :
    (fun origin value => within value.depth origin value) =
      layer fun origin value => within value.depth origin value := by
  have hmore : ∀ depth extra, AgreeWithin depth (within depth) (within (depth + extra)) := by
    intro depth extra
    induction depth with
    | zero =>
        cases extra with
        | zero => exact refl 0 _
        | succ extra =>
            rw [Nat.zero_add, hsucc]
            exact hzero _
    | succ depth ih =>
        rw [Nat.succ_add, hsucc, hsucc]
        exact hlayer depth _ _ ih
  have hunbounded (depth : Nat) :
      AgreeWithin depth (within depth) fun origin value => within value.depth origin value := by
    intro origin value hvalue
    obtain ⟨extra, rfl⟩ := Nat.exists_eq_add_of_le hvalue
    exact (hmore value.depth extra origin value le_rfl).symm
  funext origin value
  calc
    within value.depth origin value = within (value.depth + 1) origin value :=
      hmore value.depth 1 origin value le_rfl
    _ = layer (within value.depth) origin value := by rw [hsucc]
    _ = layer (fun origin value => within value.depth origin value) origin value :=
      hlayer _ _ _ (hunbounded value.depth) origin value value.depth.le_succ

end Decoder.AgreeWithin

namespace Fields.AgreeWithin

variable {depth : Nat}

theorem map {first second : Fields α} (h : AgreeWithin depth first second) (f : α → β) :
    AgreeWithin depth (f <$> first) (f <$> second) where
  count := h.count
  byName origin entries hentries := congrArg (Except.map f) (h.byName origin entries hentries)
  byPosition origin position items hitems := by
    change (first.byPosition origin position items).map _ =
      (second.byPosition origin position items).map _
    rw [h.byPosition origin position items hitems]
  rest origin position items value rest hresult := by
    obtain ⟨⟨read, left⟩, hread, heq⟩ := Outcome.map_eq_ok_iff.mp hresult
    cases heq
    exact h.rest origin position items read _ hread

theorem pair {first second : Fields α} {first' second' : Fields β}
    (h : AgreeWithin depth first second) (h' : AgreeWithin depth first' second') :
    AgreeWithin depth (first.pair first') (second.pair second') where
  count := by simp only [Fields.pair, h.count, h'.count]
  byName origin entries hentries := by
    simp only [Fields.pair, h.byName origin entries hentries, h'.byName origin entries hentries]
  byPosition origin position items hitems := by
    simp only [Fields.pair, ← h.byPosition origin position items hitems, ← h.count]
    cases hread : first.byPosition origin position items with
    | error fault => rfl
    | ok read =>
        have hrest := h.rest origin position items read.1 read.2 hread
        have hsame := h'.byPosition origin (position + first.count) read.2
          fun item hitem => hitems item (hrest hitem)
        simp only [bind, Except.bind, hsame]
  rest origin position items value rest hresult := by
    simp only [Fields.pair, Outcome.bind_eq_ok_iff] at hresult
    obtain ⟨⟨a, middle⟩, hfirst, ⟨b, left⟩, hsecond, heq⟩ := hresult
    cases heq
    exact List.Subset.trans (h'.rest _ _ _ _ _ hsecond) (h.rest _ _ _ _ _ hfirst)

theorem seq {first second : Fields (α → β)} {first' second' : Fields α}
    (h : AgreeWithin depth first second) (h' : AgreeWithin depth first' second') :
    AgreeWithin depth (first <*> first') (second <*> second') :=
  (h.pair h').map _

theorem field {first second : Decoder α} (h : first.AgreeWithin depth second)
    (keys : List String) (absent defaulted : Option α) :
    AgreeWithin depth (Fields.field keys first absent defaulted)
      (Fields.field keys second absent defaulted) where
  count := rfl
  byName origin entries hentries := by
    simp only [Fields.field]
    split
    · rfl
    · rename_i place value others hoccurrences
      have hinside : ∃ entry ∈ entries, entry.2 = value := by
        have hmem : (place, value) ∈ occurrences keys entries := by simp [hoccurrences]
        rw [occurrences, List.mem_map] at hmem
        obtain ⟨⟨entry, index⟩, hentry, heq⟩ := hmem
        cases heq
        exact ⟨entry, List.fst_mem_of_mem_zipIdx (List.mem_of_mem_filter hentry), rfl⟩
      obtain ⟨entry, hentry, rfl⟩ := hinside
      rw [h origin entry.2 (hentries entry hentry)]
  byPosition origin position items hitems := by
    cases items with
    | nil => rfl
    | cons item items => simp only [Fields.field, h origin item (hitems item List.mem_cons_self)]
  rest origin position items value rest hresult := by
    cases items with
    | nil =>
        simp only [Fields.field] at hresult
        split at hresult <;> simp_all
    | cons item items =>
        simp only [Fields.field] at hresult
        split at hresult
        · simp at hresult
        · cases hresult
          exact List.subset_cons_self item _

theorem refl (depth : Nat) (decoder : Decoder α) (keys : List String)
    (absent defaulted : Option α) :
    AgreeWithin depth (Fields.field keys decoder absent defaulted)
      (Fields.field keys decoder absent defaulted) :=
  field (.refl depth decoder) keys absent defaulted

end Fields.AgreeWithin

/-- A record looks one level further down than its fields. -/
theorem Decode.record_agreeWithin {depth : Nat} {first second : Fields α}
    (h : Fields.AgreeWithin depth first second) (name : String) :
    Decoder.AgreeWithin (depth + 1) (Decode.record name first) (Decode.record name second) := by
  intro origin value hvalue
  cases value with
  | object entries =>
      simp only [Decode.record]
      rw [h.byName origin entries fun entry hentry =>
        Nat.lt_succ_iff.mp ((Json.depth_lt_of_mem_object hentry).trans_le hvalue)]
  | array items =>
      simp only [Decode.record, h.count]
      rw [h.byPosition origin 0 items fun item hitem =>
        Nat.lt_succ_iff.mp ((Json.depth_lt_of_mem_array hitem).trans_le hvalue)]
  | null | bool | number | string => rfl

end Forms
