import Forms.Proofs.Agreement.Behaviour

/-!
# Equal values replace each other

Equality of values is reflexive, symmetric and transitive at every depth, integers and doubles mixed.
An operator that compares whole values cannot tell equal ones apart on either side, so in a tree of
conditions values and operands can be replaced by equal ones wherever such an operator stands.
-/

namespace Forms

namespace Json

variable {value other operand restated : Json}

/-! ## An equivalence -/

theorem agrees_refl (hdistinct : value.DistinctKeys) : agrees value value = true := by
  induction hdistinct with
  | null => exact null_agrees_iff.mpr rfl
  | bool flag => exact bool_agrees_iff.mpr rfl
  | string content => exact string_agrees_iff.mpr rfl
  | number number => exact number_agrees_iff.mpr ⟨number, rfl, rfl⟩
  | @array items _ ih => exact array_agrees_iff.mpr ⟨items, rfl, List.forall₂_same.mpr ih⟩
  | @object members hdistinct _ ih =>
      refine object_agrees_iff.mpr ⟨members, rfl, rfl, fun member hmember => ?_⟩
      exact ⟨member.2, Entries.get?_eq_some_of_mem hdistinct hmember, ih member hmember⟩

/-- Equality of the values that no object inside makes ambiguous. -/
theorem agrees_isEquivalence :
    Equivalence fun left right : {value : Json // value.DistinctKeys} =>
      left.1.agrees right.1 = true where
  refl value := agrees_refl value.2
  symm {left _} hagrees := agrees_symm left.2 hagrees
  trans hfirst hsecond := agrees_trans hfirst hsecond

/-! ## Equal operands -/

theorem isAmong_of_not_isArray (hoperand : ¬operand.IsArray) (value : Json) (expected : Bool) :
    value.isAmong operand expected = false := by
  cases operand with
  | array items => exact absurd trivial hoperand
  | _ => rfl

section

variable (hdistinct : operand.DistinctKeys) (hagrees : operand.agrees restated = true)
include hdistinct hagrees

theorem isAmong_congr_operand (value : Json) (expected : Bool) :
    value.isAmong operand expected = value.isAmong restated expected := by
  by_cases harray : operand.IsArray
  · cases operand with
    | array items =>
        obtain ⟨others, rfl, hitems⟩ := array_agrees_iff.mp hagrees
        cases hdistinct with
        | array hinside => rw [isAmong, isAmong, any_agrees_congr hinside hitems]
    | _ => cases harray
  · have hother := mt (isArray_congr hagrees).mpr harray
    rw [isAmong_of_not_isArray harray, isAmong_of_not_isArray hother]

theorem holds_congr_operand (harray : value.IsArray) :
    value.holds operand = value.holds restated := by
  cases value with
  | array items =>
      rw [holds, holds]
      simp only [agrees_congr_right hdistinct hagrees]
  | _ => cases harray

end

end Json

/-! ## Equal values under an operator -/

namespace Operator

/-- Whether the operator compares the value, or its items, as a whole; texts and quantities it does
not look at. -/
def ComparesWhole (value : Json) : Operator → Prop
  | .equals | .notEquals | .isIn | .notIn => True
  | .contains | .notContains => value.IsArray
  | .greaterThan | .lessThan | .unsupported _ => False

variable {operator : Operator} {value other operand restated : Json}

theorem ComparesWhole.isArray (h : operator.ComparesWhole value)
    (hlooks : operator.LooksIntoText) : value.IsArray := by
  cases operator with
  | contains | notContains => exact h
  | _ => cases hlooks

theorem ComparesWhole.congr (h : operator.ComparesWhole value)
    (hagrees : value.agrees other = true) : operator.ComparesWhole other := by
  cases operator with
  | contains | notContains => exact (Json.isArray_congr hagrees).mp h
  | _ => exact h

theorem compares_congr_operand (hwhole : operator.ComparesWhole value)
    (hdistinct : operand.DistinctKeys) (hagrees : operand.agrees restated = true) :
    operator.compares value operand = operator.compares value restated := by
  cases operator with
  | equals | notEquals => rw [compares, compares, Json.agrees_congr_right hdistinct hagrees]
  | contains | notContains =>
      rw [compares, compares, Json.holds_congr_operand hdistinct hagrees hwhole]
  | isIn | notIn => rw [compares, compares, Json.isAmong_congr_operand hdistinct hagrees]
  | greaterThan | lessThan | unsupported => cases hwhole

/-- A comparison of the value with the operand, before and after both may have been replaced by equal
ones; only what is compared as a whole is replaced. -/
inductive Replaces (operator : Operator) : (value operand other restated : Json) → Prop where
  | same (value operand : Json) : Replaces operator value operand value operand
  | equal {value operand other restated : Json} (hwhole : operator.ComparesWhole value)
      (hvalue : value.DistinctKeys) (hoperand : operand.DistinctKeys)
      (hother : value.agrees other = true) (hrestated : operand.agrees restated = true) :
      Replaces operator value operand other restated

theorem Replaces.compares_eq (h : operator.Replaces value operand other restated) :
    operator.compares value operand = operator.compares other restated := by
  cases h with
  | same => rfl
  | equal hwhole hvalue hoperand hother hrestated =>
      calc
        operator.compares value operand = operator.compares other operand :=
          operator.compares_congr hvalue hother (fun hlooks => Or.inl (hwhole.isArray hlooks)) operand
        _ = operator.compares other restated :=
          compares_congr_operand (hwhole.congr hother) hoperand hrestated

end Operator

/-! ## Equal values in a tree of conditions -/

namespace Condition

/-- The second condition in the second document is the first one in the first document, but for
values and operands that were replaced by equal ones, at any depth. -/
inductive Replaced (values others : Values) : Condition → Condition → Prop where
  | mk {field : NonBlank} {operator : Operator} {operand restated : Json} {logic : Option Logic}
      {rules restatedRules : List Condition}
      (hcompared : operator.Replaces (values.valueOf field.text) operand
        (others.valueOf field.text) restated)
      (hlength : rules.length = restatedRules.length)
      (hrules : ∀ pair ∈ rules.zip restatedRules, Replaced values others pair.1 pair.2) :
      Replaced values others (.mk field operator operand logic rules)
        (.mk field operator restated logic restatedRules)

variable {values others : Values}

/-- Rules that evaluate alike, one by one, are joined to the same by either logic. -/
theorem joined_congr {rules restated : List Condition} (hlength : rules.length = restated.length)
    (hrules : ∀ pair ∈ rules.zip restated, pair.1.evaluate values = pair.2.evaluate others) :
    allHold values rules = allHold others restated ∧
      someHolds values rules = someHolds others restated := by
  induction rules generalizing restated with
  | nil =>
      rw [List.eq_nil_of_length_eq_zero hlength.symm]
      exact ⟨rfl, rfl⟩
  | cons rule rules ih =>
      obtain ⟨first, restated, rfl⟩ := List.exists_cons_of_length_eq_add_one hlength.symm
      rw [List.zip_cons_cons, List.forall_mem_cons] at hrules
      obtain ⟨hall, hany⟩ := ih (Nat.succ.inj hlength) hrules.2
      rw [allHold, allHold, someHolds, someHolds, hrules.1, hall, hany]
      exact ⟨rfl, rfl⟩

theorem Replaced.evaluate_eq {condition restated : Condition}
    (h : Replaced values others condition restated) :
    condition.evaluate values = restated.evaluate others := by
  induction h with
  | @mk field operator operand restated logic rules restatedRules hcompared hlength _ ih =>
      have hbase := hcompared.compares_eq
      obtain ⟨hall, hany⟩ := joined_congr hlength ih
      cases rules with
      | nil =>
          rw [List.eq_nil_of_length_eq_zero hlength.symm]
          simp only [evaluate, hbase]
      | cons rule rules =>
          obtain ⟨first, others, rfl⟩ := List.exists_cons_of_length_eq_add_one hlength.symm
          cases logic with
          | none => simp only [evaluate, hbase]
          | some logic => cases logic <;> simp only [evaluate, hbase, hall, hany]

end Condition

/-- Equality of values is an equivalence.  An operator that compares whole values gives the same
answer when the value and the operand are replaced by equal ones, and a condition evaluates to the
same when that is done anywhere in its tree. -/
theorem equalValues_replaceEachOther :
    (Equivalence fun left right : {value : Json // value.DistinctKeys} =>
      left.1.agrees right.1 = true) ∧
    (∀ (operator : Operator) {value other operand restated : Json}, value.DistinctKeys →
      operand.DistinctKeys → operator.ComparesWhole value → value.agrees other = true →
      operand.agrees restated = true →
      operator.compares value operand = operator.compares other restated) ∧
    ∀ {values others : Values} {condition restated : Condition},
      condition.Replaced values others restated →
      condition.evaluate values = restated.evaluate others := by
  refine ⟨Json.agrees_isEquivalence, ?_, Condition.Replaced.evaluate_eq⟩
  intro operator value other operand restated hvalue hoperand hwhole hother hrestated
  exact (Operator.Replaces.equal hwhole hvalue hoperand hother hrestated).compares_eq

/-- Asks whether the array holds the number, and whether the object is among the given ones. -/
def asksForPlaces (number : Number) : Condition :=
  .mk ((NonBlank.ofString? "listed").get rfl) .contains (.number number) (some .all)
    [.mk ((NonBlank.ofString? "nested").get rfl) .isIn
      (.array [.null, .object [("n", .number number)]]) none []]

theorem replaced_asksForPlaces :
    (asksForPlaces oneDouble).Replaced (places oneInteger) (places oneDouble)
      (asksForPlaces oneInteger) := by
  have hobject (number : Number) : (Json.object [("n", .number number)]).DistinctKeys :=
    .object (List.pairwise_singleton _ _) (List.forall_mem_singleton.mpr (.number number))
  refine .mk (.equal trivial (distinctKeys_places _ _) (.number _) (places_agrees _) ?_) rfl ?_
  · decide +kernel
  · refine List.forall_mem_singleton.mpr (.mk (.equal trivial (distinctKeys_places _ _) ?_
      (places_agrees _) ?_) rfl (List.forall_mem_nil _))
    · exact .array (List.forall_mem_cons.mpr ⟨.null, List.forall_mem_singleton.mpr (hobject _)⟩)
    · decide +kernel

/-- A document of integers asked for doubles is answered like one of doubles asked for integers. -/
theorem equalValues_replaceEachOther_places :
    Json.agrees (.number oneDouble) (.number oneInteger) = true ∧
      Operator.compares .notIn (.number oneInteger) (.array [.number oneDouble]) =
        Operator.compares .notIn (.number oneDouble) (.array [.number oneInteger]) ∧
      (asksForPlaces oneDouble).evaluate (places oneInteger) =
        (asksForPlaces oneInteger).evaluate (places oneDouble) := by
  obtain ⟨hequivalence, hcompares, hevaluates⟩ := equalValues_replaceEachOther
  have hforth : Json.agrees (.number oneInteger) (.number oneDouble) = true := by decide +kernel
  have hback : Json.agrees (.number oneDouble) (.number oneInteger) = true :=
    hequivalence.symm (x := ⟨.number oneInteger, .number _⟩) (y := ⟨.number oneDouble, .number _⟩)
      hforth
  have hlisted : Json.agrees (.array [.number oneDouble]) (.array [.number oneInteger]) = true :=
    Json.array_agrees_iff.mpr ⟨_, rfl, .cons hback .nil⟩
  refine ⟨hback, hcompares .notIn (.number _) ?_ trivial hforth hlisted,
    hevaluates replaced_asksForPlaces⟩
  exact .array (List.forall_mem_singleton.mpr (.number _))

end Forms
