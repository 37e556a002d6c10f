import Forms.Proofs.Agreement.Readings
import Forms.Proofs.References
import Forms.Rule.Validation

/-!
# Equal documents behave alike

A condition or a rule that compares values does not tell equal documents apart.  One that looks into
the text of a value does, unless the two values are read as the same text.
-/

namespace Forms

namespace Json

/-! ## Looking for a value -/

/-- Whether the value is an array, in which items are looked for and not texts. -/
def IsArray : Json → Prop
  | .array _ => True
  | _ => False

theorem holds_of_not_isArray {value : Json} (hvalue : ¬value.IsArray) (operand : Json) :
    value.holds operand = occursIn operand.readingChars value.readingChars := by
  cases value with
  | array items => exact absurd trivial hvalue
  | _ => rfl

theorem any_agrees_congr {items others : List Json} (hdistinct : ∀ item ∈ items, item.DistinctKeys)
    (hitems : List.Forall₂ (fun item other => agrees item other = true) items others)
    (operand : Json) : items.any (·.agrees operand) = others.any (·.agrees operand) := by
  induction hitems with
  | nil => rfl
  | cons hhead _ ih =>
      rw [List.forall_mem_cons] at hdistinct
      rw [List.any_cons, List.any_cons, agrees_congr_left hdistinct.1 hhead, ih hdistinct.2]

section

variable {left right : Json} (hagrees : left.agrees right = true)
include hagrees

theorem isArray_congr : left.IsArray ↔ right.IsArray := by
  rcases agrees_cases hagrees with rfl | ⟨value, other, rfl, rfl, -⟩ |
    ⟨items, others, rfl, rfl, -⟩ | ⟨members, others, rfl, rfl⟩ <;> exact Iff.rfl

variable (hdistinct : left.DistinctKeys)
include hdistinct

theorem isAmong_congr (operand : Json) (expected : Bool) :
    left.isAmong operand expected = right.isAmong operand expected := by
  cases operand with
  | array items =>
      rw [isAmong, isAmong]
      simp only [agrees_congr_right hdistinct hagrees]
  | _ => rfl

theorem holds_congr (htext : left.IsArray ∨ ReadsAlike left right) (operand : Json) :
    left.holds operand = right.holds operand := by
  by_cases harray : left.IsArray
  · cases left with
    | array items =>
        obtain ⟨others, rfl, hitems⟩ := array_agrees_iff.mp hagrees
        cases hdistinct with
        | array hinside => exact any_agrees_congr hinside hitems operand
    | _ => cases harray
  · have hother := mt (isArray_congr hagrees).mpr harray
    rw [holds_of_not_isArray harray, holds_of_not_isArray hother,
      (htext.resolve_left harray).readingChars_eq]

end

end Json

open Json (ReadsAlike)

/-! ## Conditions -/

/-- Whether the operator looks for a text in a text. -/
def Operator.LooksIntoText : Operator → Prop
  | .contains | .notContains => True
  | _ => False

/-- Equal values compare alike with any operand. -/
theorem Operator.compares_congr {left right : Json} (hdistinct : left.DistinctKeys)
    (hagrees : left.agrees right = true) (operator : Operator)
    (htext : operator.LooksIntoText → left.IsArray ∨ ReadsAlike left right) (operand : Json) :
    operator.compares left operand = operator.compares right operand := by
  cases operator with
  | equals | notEquals =>
      rw [compares, compares, Json.agrees_congr_left hdistinct hagrees]
  | contains | notContains =>
      rw [compares, compares, Json.holds_congr hagrees hdistinct (htext trivial)]
  | greaterThan =>
      rw [compares, compares]
      exact (Json.quantity_like hagrees operand.quantity).2
  | lessThan =>
      rw [compares, compares]
      exact (Json.quantity_like hagrees operand.quantity).1
  | isIn | notIn =>
      rw [compares, compares, Json.isAmong_congr hagrees hdistinct]
  | unsupported name => rfl

/-! ## Rules -/

/-- Whether the rule looks into the text of a value. -/
def RuleKind.LooksIntoText : RuleKind → Prop
  | .email | .pattern => True
  | _ => False

/-- What bounds apply to is the same for equal values. -/
theorem Json.measure?_like {left right : Json} (hagrees : left.agrees right = true) :
    (left.measure? = none ∧ right.measure? = none) ∨
      ∃ measure other, left.measure? = some measure ∧ right.measure? = some other ∧
        measure.Like other := by
  rcases agrees_cases hagrees with rfl | ⟨value, other, rfl, rfl, hunits⟩ |
    ⟨items, others, rfl, rfl, -⟩ | ⟨members, others, rfl, rfl⟩
  · cases left.measure? with
    | none => exact Or.inl ⟨rfl, rfl⟩
    | some measure => exact Or.inr ⟨measure, measure, rfl, rfl, .refl measure⟩
  · exact Or.inr ⟨_, _, rfl, rfl, Quantity.like_finite hunits⟩
  · exact Or.inl ⟨rfl, rfl⟩
  · exact Or.inl ⟨rfl, rfl⟩

/-- Equal values pass the same rules. -/
theorem Rule.accepts_congr {left right : Json} (hagrees : left.agrees right = true) (rule : Rule)
    (hkind : rule.kind ≠ .custom)
    (htext : rule.kind.LooksIntoText → left.isPresent = true → ReadsAlike left right) :
    rule.accepts left = rule.accepts right := by
  have hread (test : String → Bool) (hlooks : rule.kind.LooksIntoText) :
      (!left.isPresent || test left.readingText) =
        (!right.isPresent || test right.readingText) := by
    rw [← Json.isPresent_congr hagrees]
    cases hfilled : left.isPresent with
    | false => rfl
    | true => rw [(htext hlooks hfilled).readingText_eq]
  have hmeasure := Json.measure?_like hagrees
  unfold accepts
  cases hrule : rule.kind with
  | required =>
      rcases Json.agrees_cases hagrees with rfl | ⟨value, other, rfl, rfl, -⟩ |
        ⟨items, others, rfl, rfl, -⟩ | ⟨members, others, rfl, rfl⟩ <;> rfl
  | email =>
      rw [hrule] at hread
      generalize emailPattern = shape
      cases shape with
      | none => exact hread (fun _ => true) trivial
      | some shape => exact hread shape.isMatch trivial
  | pattern =>
      rw [hrule] at hread
      exact hread rule.acceptsText trivial
  | min =>
      rcases hmeasure with ⟨hleft, hright⟩ | ⟨measure, other, hleft, hright, hlike⟩
      · simp only [hleft, hright]
      · simp only [hleft, hright, (hlike rule.bound).1]
  | max =>
      rcases hmeasure with ⟨hleft, hright⟩ | ⟨measure, other, hleft, hright, hlike⟩
      · simp only [hleft, hright]
      · simp only [hleft, hright, (hlike rule.bound).2]
  | custom => exact absurd hrule hkind

theorem validateValue_congr {left right : Json} (hagrees : left.agrees right = true)
    {rules : List Rule} (hkinds : ∀ rule ∈ rules, rule.kind ≠ .custom)
    (htext : ∀ rule ∈ rules, rule.kind.LooksIntoText → left.isPresent = true →
      ReadsAlike left right) :
    validateValue left rules = validateValue right rules := by
  rw [validateValue, validateValue]
  congr 1
  induction rules with
  | nil => rfl
  | cons rule rules ih =>
      rw [List.forall_mem_cons] at hkinds htext
      rw [List.find?_cons, List.find?_cons, rule.accepts_congr hagrees hkinds.1 htext.1,
        ih hkinds.2 htext.2]

/-! ## Documents -/

/-- Documents with the same keys in the same order and with related values are related at every key,
present or not. -/
theorem Members.forall_valueOf {R : Json → Json → Prop} (hnull : R .null .null)
    {left right : Values}
    (hentries : List.Forall₂ (fun entry other => entry.1 = other.1 ∧ R entry.2 other.2) left right)
    (key : String) : R (left.valueOf key) (right.valueOf key) := by
  induction hentries with
  | nil => exact hnull
  | @cons entry other _ _ hhead _ ih =>
      obtain ⟨name, value⟩ := entry
      obtain ⟨name', value'⟩ := other
      obtain ⟨rfl, hvalues⟩ := hhead
      rw [valueOf, valueOf, Entries.get?_cons, Entries.get?_cons]
      split
      · exact hvalues
      · exact ih

/-- Two documents whose values are equal, key by key, are not told apart by a condition that looks
into no texts but those of values that read alike, nor are their values by such rules. -/
theorem equalDocuments_behaveAlike {left right : Values}
    (hdistinct : ∀ key, (left.valueOf key).DistinctKeys)
    (hagrees : ∀ key, (left.valueOf key).agrees (right.valueOf key) = true) :
    (∀ condition : Condition,
      (∀ part ∈ condition.visits, part.operator.LooksIntoText →
        (left.valueOf part.field.text).IsArray ∨
          ReadsAlike (left.valueOf part.field.text) (right.valueOf part.field.text)) →
      condition.evaluate left = condition.evaluate right) ∧
    ∀ (key : String) (rules : List Rule), (∀ rule ∈ rules, rule.kind ≠ .custom) →
      (∀ rule ∈ rules, rule.kind.LooksIntoText → (left.valueOf key).isPresent = true →
        ReadsAlike (left.valueOf key) (right.valueOf key)) →
      validateValue (left.valueOf key) rules = validateValue (right.valueOf key) rules := by
  refine ⟨fun condition htext => ?_, fun key rules => validateValue_congr (hagrees key)⟩
  apply Condition.evaluate_alike
  intro part hpart
  exact part.operator.compares_congr (hdistinct _) (hagrees _) (htext part hpart) part.operand

/-- The number one as an integer. -/
def oneInteger : Number := .integer 1 (by decide)

theorem canonical_one : Double.Canonical (Nat.pow 2 52) 1022 := by decide

/-- The number one as a double. -/
def oneDouble : Number := .double ⟨false, Nat.pow 2 52, 1022, canonical_one⟩

theorem units_oneInteger : oneInteger.toDouble.units = oneDouble.toDouble.units := by
  decide +kernel

/-- A document that holds a number by itself, in an array and in an object. -/
def places (number : Number) : Values :=
  [("alone", .number number), ("listed", .array [.number number]),
    ("nested", .object [("n", .number number)])]

theorem distinctKeys_places (number : Number) (key : String) :
    ((places number).valueOf key).DistinctKeys := by
  have hnested : (Json.object [("n", .number number)]).DistinctKeys :=
    .object (List.pairwise_singleton _ _) (List.forall_mem_singleton.mpr (.number number))
  have hlisted : (Json.array [.number number]).DistinctKeys :=
    .array (List.forall_mem_singleton.mpr (.number number))
  have hentries : List.Forall₂ (fun entry other => entry.1 = other.1 ∧ entry.2.DistinctKeys)
      (places number) (places number) :=
    .cons ⟨rfl, .number number⟩ (.cons ⟨rfl, hlisted⟩ (.cons ⟨rfl, hnested⟩ .nil))
  exact Members.forall_valueOf (R := fun value _ => value.DistinctKeys) .null hentries key

theorem places_agrees (key : String) :
    ((places oneInteger).valueOf key).agrees ((places oneDouble).valueOf key) = true := by
  apply Members.forall_valueOf (R := fun value other => value.agrees other = true) rfl
  refine .cons ⟨rfl, ?_⟩ (.cons ⟨rfl, ?_⟩ (.cons ⟨rfl, ?_⟩ .nil)) <;> decide +kernel

/-- Asks for the digit in the number alone and for the number in the array. -/
def asksForOne : Condition :=
  .mk ⟨"alone", by decide⟩ .contains (.string "1") (some .all)
    [.mk ⟨"listed", by decide⟩ .contains (.number oneInteger) none [],
      .mk ⟨"listed", by decide⟩ .greaterThan (.string "0.5") none []]

/-- A number between one and nine, written with a single digit. -/
def digitRules : List Rule :=
  [⟨.required, none, ⟨"Missing.", by decide⟩, none⟩,
    ⟨.max, some (.string "9"), ⟨"Too large.", by decide⟩, none⟩,
    ⟨.pattern, some (.string "^[1-9]$"), ⟨"One digit only.", by decide⟩, none⟩]

theorem readsAlike_one : ReadsAlike (.number oneInteger) (.number oneDouble) :=
  .number (show 1 < 10 ^ 15 by decide) ⟨by decide +kernel, rfl⟩ units_oneInteger

/-- One is found in `1` and in `1.0` and in arrays of them, and both are one digit. -/
theorem equalDocuments_behaveAlike_one :
    asksForOne.evaluate (places oneInteger) = asksForOne.evaluate (places oneDouble) ∧
      validateValue ((places oneInteger).valueOf "alone") digitRules =
        validateValue ((places oneDouble).valueOf "alone") digitRules := by
  obtain ⟨hconditions, hrules⟩ :=
    equalDocuments_behaveAlike (distinctKeys_places oneInteger) places_agrees
  refine ⟨hconditions asksForOne ?_, hrules "alone" digitRules (by decide) ?_⟩
  · intro part hpart _
    simp only [asksForOne, Condition.visits, Condition.visitsOf, List.append_nil, List.mem_cons,
      List.cons_append, List.nil_append, List.not_mem_nil, or_false] at hpart
    rcases hpart with rfl | rfl | rfl
    · exact Or.inr readsAlike_one
    · exact Or.inl trivial
    · exact Or.inl trivial
  · intro _ _ _ _
    exact readsAlike_one

/-- Asks for a fraction in the text of the object. -/
def asksForFraction : Condition := .mk ⟨"nested", by decide⟩ .contains (.string ".0") none []

/-- An object is read as it is written, and a fraction of zero is written. -/
theorem not_equalDocuments_behaveAlike :
    ¬ ∀ left right : Values, (∀ key, (left.valueOf key).DistinctKeys) →
      (∀ key, (left.valueOf key).agrees (right.valueOf key) = true) →
      (∀ condition : Condition, condition.evaluate left = condition.evaluate right) ∧
        ∀ (key : String) (rules : List Rule), (∀ rule ∈ rules, rule.kind ≠ .custom) →
          validateValue (left.valueOf key) rules = validateValue (right.valueOf key) rules := by
  intro halike
  have hequal := (halike _ _ (distinctKeys_places oneInteger) places_agrees).1 asksForFraction
  have hinteger : asksForFraction.evaluate (places oneInteger) = false := by decide +kernel
  have hdouble : asksForFraction.evaluate (places oneDouble) = true := by decide +kernel
  rw [hinteger, hdouble] at hequal
  cases hequal

end Forms
