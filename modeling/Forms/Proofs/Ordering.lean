import Forms.Proofs.Numbers.Spelling
import Forms.Proofs.Tree.Conditions

/-!
# Texts that are compared by order

A condition that asks for more, or for less, than a number takes a text for the quantity it spells.
So the text has to be empty, a decimal number or a word for infinity, blanks around it apart, and a
text that spells nothing is neither more nor less than any number.
-/

namespace Forms

namespace Operator

/-- The operators that compare by order. -/
def IsOrdering (operator : Operator) : Prop :=
  operator = .greaterThan ∨ operator = .lessThan

/-- Whether a quantity lies where an operator wants it, above or below the bound. -/
def orders (operator : Operator) (bound : Number) (quantity : Quantity) : Prop :=
  (operator = .greaterThan ∧ (Quantity.finite bound.toDouble).lt quantity = true) ∨
    (operator = .lessThan ∧ quantity.lt (.finite bound.toDouble) = true)

variable {operator : Operator} {bound : Number} {quantity : Quantity}

theorem compares_text_iff (hordering : operator.IsOrdering) (text : String) :
    operator.compares (.string text) (.number bound) = true ↔
      operator.orders bound (.ofText text) := by
  rcases hordering with rfl | rfl <;> simp [compares, orders, Json.quantity]

/-- What has no quantity lies nowhere. -/
theorem orders.ne_undefined (h : operator.orders bound quantity) : quantity ≠ .undefined := by
  rintro rfl
  rcases h with ⟨-, hlt⟩ | ⟨-, hlt⟩ <;> cases hlt

/-- Infinity is above every number and its negative is below every number. -/
theorem orders_infinite_iff (hordering : operator.IsOrdering) (negative : Bool) :
    operator.orders bound (.infinite negative) ↔
      operator = if negative then .lessThan else .greaterThan := by
  rcases hordering with rfl | rfl <;> cases negative <;> simp [orders, Quantity.lt]

end Operator

namespace Condition

open Token Quantity

variable {condition : Condition} {values : Values} {bound : Number} {text : String}

/-- The comparison of a text by order, its quantity read off its spelling. -/
theorem comparesAlone_text_iff (hordering : condition.operator.IsOrdering)
    (hoperand : condition.operand = .number bound)
    (hvalue : values.valueOf condition.field.text = .string text) :
    condition.comparesAlone values = true ↔
      ∃ quantity, Spells (Unicode.trimChars text.toList) quantity ∧
        condition.operator.orders bound quantity := by
  rw [comparesAlone, hvalue, hoperand, Operator.compares_text_iff hordering]
  constructor
  · intro horders
    exact ⟨ofText text, (ofText_eq_iff horders.ne_undefined text).mp rfl, horders⟩
  · rintro ⟨quantity, hspells, horders⟩
    rwa [(ofText_eq_iff horders.ne_undefined text).mpr hspells]

/-- Only a text that spells a quantity takes part in an ordering.  The comparison holds when what it
spells lies above the bound, or below it, as the operator asks.  So unless a rule is enough, a
condition that holds of a text was given a blank one, a decimal number, or a word for infinity, the
last without a minus sign when more was asked for and with one when less was. -/
theorem evaluate_orders_text (hordering : condition.operator.IsOrdering)
    (hoperand : condition.operand = .number bound)
    (hvalue : values.valueOf condition.field.text = .string text) :
    (condition.comparesAlone values = true ↔
      ∃ quantity, Spells (Unicode.trimChars text.toList) quantity ∧
        condition.operator.orders bound quantity) ∧
    ((condition.logic = some .any → ∀ rule ∈ condition.rules, rule.evaluate values = false) →
      condition.evaluate values = true →
      Unicode.trimChars text.toList = [] ∨
      (∃ (sign : Sign) (number : DecimalText),
        Unicode.trimChars text.toList = sign.chars ++ number.chars) ∨
      ∃ (sign : Sign) (word : List Char), IsInfinity word ∧
        Unicode.trimChars text.toList = sign.chars ++ word ∧
        condition.operator = if sign.isMinus then .lessThan else .greaterThan) := by
  have hcompares := comparesAlone_text_iff hordering hoperand hvalue
  refine ⟨hcompares, fun hrules hholds => ?_⟩
  obtain ⟨quantity, hspells, horders⟩ :=
    hcompares.mp (comparesAlone_of_evaluate hrules hholds)
  generalize Unicode.trimChars text.toList = chars at hspells
  cases hspells with
  | blank => exact .inl rfl
  | decimal sign number => exact .inr (.inl ⟨sign, number, rfl⟩)
  | @infinity sign word hword =>
      exact .inr (.inr ⟨sign, word, hword, rfl,
        (Operator.orders_infinite_iff hordering sign.isMinus).mp horders⟩)

/-- Asks for an age above eighteen. -/
def asksForAdults : Condition :=
  .mk ⟨"age", by decide⟩ .greaterThan (.number (.integer 18 (by decide))) none []

theorem isOrdering_asksForAdults : asksForAdults.operator.IsOrdering := .inl rfl

theorem asksForAdults_infinity : asksForAdults.evaluate [("age", .string "infinity")] = true := by
  rw [evaluate_of_leaf rfl]
  rfl

/-- An age that is written as infinity is above eighteen, blanks and sign included, and an age that
is no number is not. -/
theorem evaluate_orders_text_age :
    asksForAdults.evaluate [("age", .string " +Infinity ")] = true ∧
      asksForAdults.evaluate [("age", .string "19 years")] = false := by
  rw [evaluate_of_leaf rfl, evaluate_of_leaf rfl, Bool.eq_false_iff]
  constructor
  · refine (evaluate_orders_text isOrdering_asksForAdults rfl rfl).1.mpr
      ⟨.infinite false, ?_, .inl ⟨rfl, rfl⟩⟩
    have hword : IsInfinity "Infinity".toList := by decide
    exact .infinity .plus hword
  · intro hholds
    obtain ⟨quantity, hspells, horders⟩ :=
      (evaluate_orders_text isOrdering_asksForAdults rfl rfl).1.mp hholds
    have hmeasured := (ofText_eq_iff horders.ne_undefined "19 years").mpr hspells
    have hnothing : ofText "19 years" = .undefined := by decide
    exact horders.ne_undefined (hmeasured.symm.trans hnothing)

/-- Decimal numbers and blank texts are not the only ones that take part: the word for infinity lies
above eighteen. -/
theorem not_evaluate_orders_decimals :
    ¬∀ (condition : Condition) (values : Values) (bound : Number) (text : String),
      condition.operator.IsOrdering → condition.operand = .number bound →
      values.valueOf condition.field.text = .string text → condition.evaluate values = true →
      Unicode.trimChars text.toList = [] ∨
      ∃ (sign : Sign) (number : DecimalText),
        Unicode.trimChars text.toList = sign.chars ++ number.chars := by
  intro h
  have htrimmed : Unicode.trimChars "infinity".toList = "infinity".toList := by decide
  rcases h asksForAdults [("age", .string "infinity")] (.integer 18 (by decide)) "infinity"
    isOrdering_asksForAdults rfl rfl asksForAdults_infinity with hblank | ⟨sign, number, hchars⟩
  · rw [htrimmed] at hblank
    cases hblank
  · rw [htrimmed] at hchars
    obtain ⟨c, rest, hnumber, hhead⟩ := number.exists_chars_eq_cons
    rw [hnumber] at hchars
    cases sign with
    | plus | minus => cases hchars
    | absent =>
        cases hchars
        exact absurd hhead (by decide)

end Condition

end Forms
