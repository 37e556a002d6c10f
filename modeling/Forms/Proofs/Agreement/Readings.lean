import Forms.Proofs.Agreement.Equality
import Forms.Proofs.Numbers.Whole

/-!
# What equal values are read as

Equal values are filled in alike and measure the same, also where an array is measured through its
text.  Their texts need not be the same: a text shows how a long number is held, which zero it is,
and an object shows all its numbers as they are written.  Values of short numbers read the same.
-/

namespace Forms

namespace Quantity

/-- No comparison tells the two quantities apart. -/
def Like (left right : Quantity) : Prop :=
  ∀ third : Quantity, left.lt third = right.lt third ∧ third.lt left = third.lt right

theorem Like.refl (quantity : Quantity) : quantity.Like quantity := fun _ => ⟨rfl, rfl⟩

theorem like_finite {left right : Double} (hunits : left.units = right.units) :
    (finite left).Like (finite right) := by
  intro third
  cases third with
  | finite third => simp only [lt, Double.lt, hunits, and_self]
  | infinite negative => exact ⟨rfl, rfl⟩
  | undefined => exact ⟨rfl, rfl⟩

end Quantity

namespace Json

variable {left right : Json}

/-! ## Measures -/

theorem isPresent_congr (hagrees : left.agrees right = true) :
    left.isPresent = right.isPresent := by
  rcases agrees_cases hagrees with rfl | ⟨value, other, rfl, rfl, hunits⟩ |
    ⟨items, others, rfl, rfl, -⟩ | ⟨members, others, rfl, rfl⟩
  · rfl
  · have hzero : value.isZero = other.isZero := by
      rw [Bool.eq_iff_iff, Number.isZero, Number.isZero, Double.isZero, Double.isZero,
        beq_iff_eq, beq_iff_eq, Double.mantissa_eq_zero_iff, Double.mantissa_eq_zero_iff, hunits]
    rw [isPresent, isPresent, hzero]
  · rfl
  · rfl

theorem comma_mem_readingChars (first second : Json) (items : List Json) :
    ',' ∈ (array (first :: second :: items)).readingChars := by
  rw [readingChars, readingItems]
  exact List.mem_append_right _ List.mem_cons_self

theorem brace_mem_readingChars (members : List (String × Json)) :
    '\x7b' ∈ (object members).readingChars := by
  rw [readingChars]
  cases members with
  | nil => exact List.mem_cons_self
  | cons member members => exact List.mem_cons_self

theorem ofText_readingText_eq_undefined {value : Json} {c : Char} (hc : c ∈ value.readingChars)
    (hstranger : c ∈ Quantity.strangers) : Quantity.ofText value.readingText = .undefined :=
  Quantity.ofText_of_mem hstranger hc String.toList_ofList

/-- The text of an array of one item is the text of the item. -/
theorem readingText_singleton (item : Json) : (array [item]).readingText = item.readingText := by
  rw [readingText, readingText, readingChars, readingItems, List.append_nil]

/-- The texts of equal values measure the same, whatever they are. -/
theorem ofText_readingText_like (hagrees : left.agrees right = true) :
    (Quantity.ofText left.readingText).Like (Quantity.ofText right.readingText) := by
  induction left using induct generalizing right with
  | null =>
      rw [null_agrees_iff.mp hagrees]
      exact .refl _
  | bool flag =>
      rw [bool_agrees_iff.mp hagrees]
      exact .refl _
  | string content =>
      rw [string_agrees_iff.mp hagrees]
      exact .refl _
  | number value =>
      obtain ⟨other, rfl, hunits⟩ := number_agrees_iff.mp hagrees
      obtain ⟨d, hd, hleft⟩ := value.exists_ofText_readingText
      obtain ⟨e, he, hright⟩ := other.exists_ofText_readingText
      rw [readingText, readingText, readingChars, readingChars, hd, he]
      apply Quantity.like_finite
      rw [hleft, hright, hunits]
  | array items ih =>
      obtain ⟨others, rfl, hitems⟩ := array_agrees_iff.mp hagrees
      cases hitems with
      | nil => exact .refl _
      | @cons item other _ _ hhead htail =>
          cases htail with
          | nil =>
              rw [readingText_singleton, readingText_singleton]
              exact ih item List.mem_cons_self hhead
          | cons _ _ =>
              -- A second item is joined with a comma, and no number has one.
              have hcomma : ',' ∈ Quantity.strangers := by decide
              rw [ofText_readingText_eq_undefined (comma_mem_readingChars _ _ _) hcomma,
                ofText_readingText_eq_undefined (comma_mem_readingChars _ _ _) hcomma]
              exact .refl _
  | object members _ =>
      obtain ⟨others, rfl, -⟩ := object_agrees_iff.mp hagrees
      have hbrace : '\x7b' ∈ Quantity.strangers := by decide
      rw [ofText_readingText_eq_undefined (brace_mem_readingChars members) hbrace,
        ofText_readingText_eq_undefined (brace_mem_readingChars others) hbrace]
      exact .refl _

theorem quantity_like (hagrees : left.agrees right = true) :
    left.quantity.Like right.quantity := by
  rcases agrees_cases hagrees with rfl | ⟨value, other, rfl, rfl, hunits⟩ |
    ⟨items, others, rfl, rfl, -⟩ | ⟨members, others, rfl, rfl⟩
  · exact .refl _
  · exact Quantity.like_finite hunits
  · exact ofText_readingText_like hagrees
  · exact .refl _

/-! ## Texts -/

/-- The two values are read as the same text: they are the same value, equal numbers that are
short, or arrays whose items read alike. -/
inductive ReadsAlike : Json → Json → Prop where
  | same (value : Json) : ReadsAlike value value
  | number {value other : Number} (hleft : value.IsShort) (hright : other.IsShort)
      (hunits : value.toDouble.units = other.toDouble.units) :
      ReadsAlike (.number value) (.number other)
  | array {items others : List Json} (hlength : items.length = others.length)
      (hitems : ∀ pair ∈ items.zip others, ReadsAlike pair.1 pair.2) :
      ReadsAlike (.array items) (.array others)

theorem readingItems_congr {items others : List Json} (hlength : items.length = others.length)
    (hitems : ∀ pair ∈ items.zip others, pair.1.readingChars = pair.2.readingChars) :
    readingItems items = readingItems others := by
  induction items generalizing others with
  | nil =>
      rw [List.eq_nil_of_length_eq_zero hlength.symm]
  | cons item items ih =>
      obtain ⟨other, others, rfl⟩ := List.exists_cons_of_length_eq_add_one hlength.symm
      rw [List.zip_cons_cons, List.forall_mem_cons] at hitems
      rw [readingItems, readingItems, hitems.1, ih (Nat.succ.inj hlength) hitems.2]

/-- Behind the first comma an array reads as its items do. -/
theorem readingItems_eq (item : Json) (items : List Json) :
    readingItems (item :: items) = ',' :: (array (item :: items)).readingChars := by
  rw [readingItems, readingChars]

theorem ReadsAlike.readingChars_eq (halike : ReadsAlike left right) :
    left.readingChars = right.readingChars := by
  induction halike with
  | same value => rfl
  | number hleft hright hunits =>
      rw [readingChars, readingChars, Number.readingText_congr hleft hright hunits]
  | @array items others hlength _ ih =>
      have hjoined := readingItems_congr hlength ih
      cases items with
      | nil => rw [List.eq_nil_of_length_eq_zero hlength.symm]
      | cons item items =>
          obtain ⟨other, others, rfl⟩ := List.exists_cons_of_length_eq_add_one hlength.symm
          rw [readingItems_eq, readingItems_eq] at hjoined
          exact (List.cons.inj hjoined).2

theorem ReadsAlike.readingText_eq (halike : ReadsAlike left right) :
    left.readingText = right.readingText := by
  rw [readingText, readingText, halike.readingChars_eq]

end Json

end Forms
