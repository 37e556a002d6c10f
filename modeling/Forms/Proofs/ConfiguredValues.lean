import Forms.Choice.Source
import Forms.Proofs.Entries
import Forms.Proofs.Numbers.Integers

/-!
# Configured values of choices

A source names the member of a row that holds the value of its choice.  A text or a number in that
member is the value, whatever else the row has, unless it counts as not filled in: the empty text and
zero do.  They are passed over as if the row did not have the member.
-/

namespace Forms

namespace Json

/-- The members are tried in order. -/
theorem firstPresent?_cons (row : Json) (key : String) (keys : List String) :
    row.firstPresent? (key :: keys) =
      ((row.member? key).filter isPresent).or (row.firstPresent? keys) := by
  rw [firstPresent?, firstPresent?, List.filterMap_cons]
  cases row.member? key with
  | none => rfl
  | some value =>
      rw [List.find?_cons]
      cases hpresent : value.isPresent with
      | true => rw [Option.filter_some_pos hpresent, Option.some_or]
      | false => rw [Option.filter_some_neg (by simp [hpresent]), Option.none_or]

/-- A member that is not filled in may as well be missing. -/
theorem firstPresent?_erase {members : Members} {key : String}
    (hvacant : ((object members).member? key).filter isPresent = none) (keys : List String) :
    (object (members.erase key)).firstPresent? keys = (object members).firstPresent? keys := by
  induction keys with
  | nil => rfl
  | cons first keys ih =>
      have hfirst : ((object (members.erase key)).member? first).filter isPresent =
          ((object members).member? first).filter isPresent := by
        rw [member?, Entries.get?_erase]
        by_cases hsame : first = key
        · rw [if_pos hsame, hsame, hvacant, Option.filter_none]
        · rw [if_neg hsame]
          rfl
      rw [firstPresent?_cons, firstPresent?_cons, hfirst, ih]

end Json

/-- An integer of a document is zero as a double only when it is zero. -/
theorem Number.isZero_integer_iff {value : Int} (inRange : InRange value) :
    (integer value inRange).isZero = true ↔ value = 0 := by
  have hzero : (integer 0 (by decide)).toDouble.units = 0 := by
    rw [units_integer (by decide), Int.zero_mul]
  rw [isZero, Double.isZero, beq_iff_eq, Double.mantissa_eq_zero_iff]
  constructor
  · intro hunits
    rw [← hzero, units_integer_eq_iff] at hunits
    exact (eq_of_nearest_eq_of_lt (by decide) hunits.symm).symm
  · rintro rfl
    exact hzero

namespace ChoiceValue

/-- The values that count as not filled in: the empty text, and zero of either kind and sign. -/
def IsVacant : ChoiceValue → Prop
  | .text content => content = ""
  | .number (.integer value _) => value = 0
  | .number (.double value) => value.mantissa = 0

theorem isPresent_toJson_iff (value : ChoiceValue) :
    value.toJson.isPresent = true ↔ ¬value.IsVacant := by
  rcases value with content | ⟨value, inRange⟩ | value
  · simp [toJson, Json.isPresent, IsVacant]
  · rw [toJson, Json.isPresent, Bool.not_eq_true', ← Bool.not_eq_true, IsVacant,
      Number.isZero_integer_iff]
  · simp [toJson, Json.isPresent, IsVacant, Number.isZero, Number.toDouble, Double.isZero]

end ChoiceValue

namespace ChoiceSource

/-- The member that holds the values of the choices. -/
def valueKey (source : ChoiceSource) : String := source.valueField.getD "value"

theorem choiceValue_toJson (value : ChoiceValue) : choiceValue value.toJson = value := by
  cases value <;> rfl

variable {source : ChoiceSource} {members : Members} {value : ChoiceValue}

/-- A value that is filled in is taken. -/
theorem value_choiceOfRow (hmember : members.get? source.valueKey = some value.toJson)
    (hfilled : ¬value.IsVacant) : (source.choiceOfRow (.object members)).value = value := by
  have hfirst : (Json.object members).firstPresent? [source.valueKey, "id", "value"] =
      some value.toJson := by
    rw [Json.firstPresent?_cons, Json.member?, hmember,
      Option.filter_some_pos (value.isPresent_toJson_iff.mpr hfilled), Option.some_or]
  rw [valueKey] at hfirst
  rw [choiceOfRow, hfirst, Option.map_some, Option.getD_some, choiceValue_toJson]

/-- A value that is not filled in is passed over. -/
theorem value_choiceOfRow_erase (hmember : members.get? source.valueKey = some value.toJson)
    (hvacant : value.IsVacant) :
    (source.choiceOfRow (.object members)).value =
      (source.choiceOfRow (.object (members.erase source.valueKey))).value := by
  have hnone : ((Json.object members).member? source.valueKey).filter Json.isPresent = none := by
    rw [Json.member?, hmember, Option.filter_some_neg]
    rwa [Bool.eq_false_iff, ne_eq, value.isPresent_toJson_iff, not_not]
  rw [choiceOfRow, choiceOfRow, Json.firstPresent?_erase hnone]

/-- A text or a number in the configured member of a row is the value of the choice at its place,
unless it is the empty text or zero: then the value is the one of the row without that member.  So
rows that are configured with different values never give one value. -/
theorem choicesOfRows_configured (source : ChoiceSource) (rows : List Json) :
    (∀ (place : Nat) (members : Members) (value : ChoiceValue),
      rows[place]? = some (.object members) → members.get? source.valueKey = some value.toJson →
      ∃ choice, (source.choicesOfRows (.array rows))[place]? = some choice ∧
        (¬value.IsVacant → choice.value = value) ∧
        (value.IsVacant → choice.value =
          (source.choiceOfRow (.object (members.erase source.valueKey))).value)) ∧
    ∀ (place other : Nat) (members others : Members) (value different : ChoiceValue)
      (first second : Choice),
      rows[place]? = some (.object members) → rows[other]? = some (.object others) →
      members.get? source.valueKey = some value.toJson →
      others.get? source.valueKey = some different.toJson →
      ¬value.IsVacant → ¬different.IsVacant → value ≠ different →
      (source.choicesOfRows (.array rows))[place]? = some first →
      (source.choicesOfRows (.array rows))[other]? = some second → first.value ≠ second.value := by
  have hchoice (place : Nat) (members : Members) (hrow : rows[place]? = some (.object members)) :
      (source.choicesOfRows (.array rows))[place]? =
        some (source.choiceOfRow (.object members)) := by
    rw [choicesOfRows, List.getElem?_map, hrow, Option.map_some]
  constructor
  · intro place members value hrow hmember
    exact ⟨_, hchoice place members hrow, value_choiceOfRow hmember,
      value_choiceOfRow_erase hmember⟩
  · intro place other members others value different first second hrow hother hmember hothers
      hfilled hfilled' hdifferent hfirst hsecond
    rw [hchoice place members hrow, Option.some.injEq] at hfirst
    rw [hchoice other others hother, Option.some.injEq] at hsecond
    rwa [← hfirst, ← hsecond, value_choiceOfRow hmember hfilled,
      value_choiceOfRow hothers hfilled']

/-- A source of users that takes their values from the given member. -/
def usersBy (valueField : Option String) : ChoiceSource :=
  ⟨⟨"users", by decide⟩, none, none, none, valueField, none⟩

/-- Three users, the last of which has the number zero for a key. -/
def userRows : List Json :=
  [.object [("id", .number (.integer 5 (by decide))), ("key", .string "u-1")],
    .object [("id", .string "u-1"), ("key", .number (.integer 7 (by decide)))],
    .object [("id", .number (.integer 9 (by decide))), ("key", .number (.integer 0 (by decide)))]]

/-- The first two users keep their keys, and the last one is known by its identifier. -/
theorem choicesOfRows_configured_users :
    (∃ choice, ((usersBy (some "key")).choicesOfRows (.array userRows))[0]? = some choice ∧
      choice.value = .text "u-1") ∧
    (∃ choice, ((usersBy (some "key")).choicesOfRows (.array userRows))[2]? = some choice ∧
      choice.value = .number (.integer 9 (by decide))) ∧
    ∀ first second,
      ((usersBy (some "key")).choicesOfRows (.array userRows))[0]? = some first →
      ((usersBy (some "key")).choicesOfRows (.array userRows))[1]? = some second →
      first.value ≠ second.value := by
  obtain ⟨hvalues, hapart⟩ := choicesOfRows_configured (usersBy (some "key")) userRows
  have htext : ¬(ChoiceValue.text "u-1").IsVacant := by simp [ChoiceValue.IsVacant]
  have hnumber : ¬(ChoiceValue.number (.integer 7 (by decide))).IsVacant := by
    simp [ChoiceValue.IsVacant]
  obtain ⟨first, hfirst, hkept, -⟩ := hvalues 0 _ (.text "u-1") rfl rfl
  obtain ⟨last, hlast, -, hpassed⟩ := hvalues 2 _ (.number (.integer 0 (by decide))) rfl rfl
  have hdifferent : ChoiceValue.text "u-1" ≠ .number (.integer 7 (by decide)) := by
    intro hsame
    cases hsame
  refine ⟨⟨first, hfirst, hkept htext⟩, ⟨last, hlast, (hpassed rfl).trans (by decide +kernel)⟩, ?_⟩
  exact fun first second =>
    hapart 0 1 _ _ (.text "u-1") _ first second rfl rfl rfl rfl htext hnumber hdifferent

/-- The number zero gives way to the identifier of the row. -/
theorem not_choicesOfRows_configured :
    ¬∀ (source : ChoiceSource) (rows : List Json) (place : Nat) (members : Members)
      (value : ChoiceValue), rows[place]? = some (.object members) →
      members.get? source.valueKey = some value.toJson →
      ∃ choice, (source.choicesOfRows (.array rows))[place]? = some choice ∧
        choice.value = value := by
  intro hconfigured
  let members : Members :=
    [("id", .number (.integer 7 (by decide))), ("value", .number (.integer 0 (by decide)))]
  obtain ⟨choice, hchoice, hvalue⟩ := hconfigured (usersBy none) [.object members] 0 members
    (.number (.integer 0 (by decide))) rfl rfl
  obtain rfl := Option.some.inj hchoice
  revert hvalue
  decide +kernel

end ChoiceSource

end Forms
