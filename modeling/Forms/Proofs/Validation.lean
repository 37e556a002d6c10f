import Forms.Proofs.Entries
import Forms.Session

/-!
# Validation as a whole and key by key

A document is validated as a whole, which replaces all errors, or one key after another, where each
call sets or clears the error of its key.  Values decide what is found and validation does not
change them, so the order of the calls makes no difference: when every key that has rules has been
validated, its error is the one that validating the whole finds.  All other errors are left alone.
-/

namespace Forms

/-! ## The errors of a document -/

theorem mem_validateDocument_iff {values : Values} {rules : FieldRules} {key message : String} :
    (key, message) ∈ validateDocument values rules ↔
      ∃ held, (key, held) ∈ rules ∧ validateValue (values.valueOf key) held = some message := by
  simp only [validateDocument, List.mem_filterMap, Option.map_eq_some_iff, Prod.exists,
    Prod.mk.injEq]
  constructor
  · rintro ⟨_, held, hmem, _, hmessage, rfl, rfl⟩
    exact ⟨held, hmem, hmessage⟩
  · rintro ⟨held, hmem, hmessage⟩
    exact ⟨key, held, hmem, message, hmessage, rfl, rfl⟩

/-- The errors of a document ascend like the rules that they come from. -/
theorem ascending_validateDocument {rules : FieldRules} (hrules : rules.Ascending)
    (values : Values) : (validateDocument values rules).Ascending := by
  rw [validateDocument, Entries.Ascending, List.pairwise_filterMap]
  refine List.Pairwise.imp ?_ hrules
  rintro ⟨left, held⟩ ⟨right, other⟩ hlt first hfirst second hsecond
  obtain ⟨_, -, rfl⟩ := Option.map_eq_some_iff.mp hfirst
  obtain ⟨_, -, rfl⟩ := Option.map_eq_some_iff.mp hsecond
  exact hlt

/-- Under each key the document has the error that the rules of the key find. -/
theorem get?_validateDocument {rules : FieldRules} (hrules : rules.Ascending) (values : Values)
    (key : String) :
    (validateDocument values rules).get? key =
      (rules.get? key).bind fun held => validateValue (values.valueOf key) held := by
  have hascending := ascending_validateDocument hrules values
  ext message
  rw [Option.bind_eq_some_iff]
  constructor
  · intro hget
    obtain ⟨held, hheld, hmessage⟩ :=
      mem_validateDocument_iff.mp (Entries.mem_of_get?_eq_some hget)
    exact ⟨held, hrules.get?_eq_some hheld, hmessage⟩
  · rintro ⟨held, hheld, hmessage⟩
    exact hascending.get?_eq_some
      (mem_validateDocument_iff.mpr ⟨held, Entries.mem_of_get?_eq_some hheld, hmessage⟩)

namespace Session

/-! ## One key -/

variable {session : Session} {rules : FieldRules}

theorem values_validateField (session : Session) (rules : FieldRules) (key : String) :
    (session.validateField rules key).values = session.values := by
  rw [validateField]
  split <;> rfl

/-- The error of the key becomes what is found for it. -/
theorem get?_errors_validateField (session : Session) (rules : FieldRules) (key wanted : String) :
    (session.validateField rules key).errors.get? wanted =
      if wanted = key then session.check rules key else session.errors.get? wanted := by
  rw [validateField]
  cases hcheck : session.check rules key with
  | some message => exact Entries.get?_insert key wanted message session.errors
  | none => exact Entries.get?_erase key wanted session.errors

theorem ascending_errors_validateField (herrors : session.errors.Ascending) (rules : FieldRules)
    (key : String) : (session.validateField rules key).errors.Ascending := by
  rw [validateField]
  split
  · exact Entries.ascending_insert herrors _ _
  · exact herrors.filter _

/-! ## Many keys -/

/-- The session after some keys have been validated in turn. -/
def validateFields (session : Session) (rules : FieldRules) (keys : List String) : Session :=
  keys.foldl (fun session key => session.validateField rules key) session

theorem values_validateFields (session : Session) (rules : FieldRules) (keys : List String) :
    (session.validateFields rules keys).values = session.values := by
  induction keys generalizing session with
  | nil => rfl
  | cons key keys ih => exact (ih _).trans (session.values_validateField rules key)

/-- What is found for a key is the same at any time. -/
theorem check_validateFields (session : Session) (rules : FieldRules) (keys : List String)
    (key : String) :
    (session.validateFields rules keys).check rules key = session.check rules key := by
  rw [check, check, value, value, values_validateFields]

theorem ascending_errors_validateFields (herrors : session.errors.Ascending) (rules : FieldRules)
    (keys : List String) : (session.validateFields rules keys).errors.Ascending := by
  induction keys generalizing session with
  | nil => exact herrors
  | cons key keys ih => exact ih (ascending_errors_validateField herrors rules key)

/-- Keys that were validated have the error that is found for them, and others the one they had. -/
theorem get?_errors_validateFields (session : Session) (rules : FieldRules) (keys : List String)
    (wanted : String) :
    (session.validateFields rules keys).errors.get? wanted =
      if wanted ∈ keys then session.check rules wanted else session.errors.get? wanted := by
  induction keys generalizing session with
  | nil => rfl
  | cons key keys ih =>
      have hcheck : (session.validateField rules key).check rules wanted =
          session.check rules wanted := session.check_validateFields rules [key] wanted
      calc
        (session.validateFields rules (key :: keys)).errors.get? wanted =
            if wanted ∈ keys then (session.validateField rules key).check rules wanted
            else (session.validateField rules key).errors.get? wanted := ih _
        _ = if wanted ∈ key :: keys then session.check rules wanted
            else session.errors.get? wanted := by
          rw [hcheck, get?_errors_validateField]
          by_cases hkey : wanted = key
          · simp [hkey]
          · simp [hkey]

theorem get?_errors_validateAll (hrules : rules.Ascending) (session : Session) (key : String) :
    (session.validateAll rules).errors.get? key = session.check rules key :=
  get?_validateDocument hrules session.values key

/-- A document is valid when nothing is found for any key. -/
theorem isValid_validateAll_iff (hrules : rules.Ascending) (session : Session) :
    (session.validateAll rules).isValid = true ↔ ∀ key, session.check rules key = none := by
  rw [isValid, List.isEmpty_iff]
  constructor
  · intro hnil key
    rw [← get?_errors_validateAll hrules, hnil]
    rfl
  · intro hnone
    rw [List.eq_nil_iff_forall_not_mem]
    rintro ⟨key, message⟩ hmem
    have hfound : (session.validateAll rules).errors.get? key = some message :=
      (ascending_validateDocument hrules session.values).get?_eq_some hmem
    rw [get?_errors_validateAll hrules, hnone] at hfound
    cases hfound

/-! ## Both ways agree -/

/-- Errors of the keys that have rules. -/
def errorsUnder (session : Session) (rules : FieldRules) : Errors :=
  session.errors.filter fun entry => (rules.get? entry.1).isSome

/-- Errors of all other keys. -/
def errorsOutside (session : Session) (rules : FieldRules) : Errors :=
  session.errors.filter fun entry => (rules.get? entry.1).isNone

theorem get?_errorsUnder (session : Session) (rules : FieldRules) (key : String) :
    (session.errorsUnder rules).get? key =
      if (rules.get? key).isSome then session.errors.get? key else none :=
  Entries.get?_filter_key (fun key => (rules.get? key).isSome) session.errors key

theorem get?_errorsOutside (session : Session) (rules : FieldRules) (key : String) :
    (session.errorsOutside rules).get? key =
      if (rules.get? key).isNone then session.errors.get? key else none :=
  Entries.get?_filter_key (fun key => (rules.get? key).isNone) session.errors key

/-- How validating some keys in turn compares with validating everything. -/
structure AgreesWithAll (session : Session) (rules : FieldRules) (keys : List String) : Prop where
  under : (session.validateFields rules keys).errorsUnder rules =
    (session.validateAll rules).errors
  outside : (session.validateFields rules keys).errorsOutside rules = session.errorsOutside rules
  /-- The answer of each call is what then stands under its key. -/
  answered : ∀ before key after, keys = before ++ key :: after →
    (session.validateFields rules before).check rules key =
      ((session.validateFields rules before).validateField rules key).errors.get? key
  /-- Everything is valid exactly when no call finds an error. -/
  valid : (session.validateAll rules).isValid = true ↔
    ∀ before key after, keys = before ++ key :: after →
      (session.validateFields rules before).check rules key = none

/-- Keys without rules have no error to be found. -/
theorem check_eq_none {key : String} (hkey : rules.get? key = none) :
    session.check rules key = none := by
  rw [check, hkey]
  rfl

/-- However the keys that have rules are visited, if each one is, the result is the same. -/
theorem validateFields_agreesWithAll (hrules : rules.Ascending)
    (herrors : session.errors.Ascending) {keys : List String}
    (hkeys : ∀ key, key ∈ keys ↔ key ∈ rules.map Prod.fst) :
    session.AgreesWithAll rules keys := by
  have hvisited : ∀ key, key ∈ keys ↔ (rules.get? key).isSome = true := by
    intro key
    rw [hkeys, Option.isSome_iff_ne_none, Ne, Entries.get?_eq_none_iff, not_not]
  have hafter := ascending_errors_validateFields herrors rules keys
  constructor
  · apply (hafter.filter _).ext (ascending_validateDocument hrules session.values)
    intro key
    change ((session.validateFields rules keys).errorsUnder rules).get? key =
      (session.validateAll rules).errors.get? key
    rw [get?_errorsUnder, get?_errors_validateFields, get?_errors_validateAll hrules]
    by_cases hkey : key ∈ keys
    · rw [if_pos ((hvisited key).mp hkey), if_pos hkey]
    · have hnone : rules.get? key = none := by simpa [hvisited] using hkey
      rw [if_neg (fun hruled => hkey ((hvisited key).mpr hruled)), check_eq_none hnone]
  · apply (hafter.filter _).ext (herrors.filter _)
    intro key
    change ((session.validateFields rules keys).errorsOutside rules).get? key =
      (session.errorsOutside rules).get? key
    rw [get?_errorsOutside, get?_errorsOutside, get?_errors_validateFields]
    split
    · rename_i hnone
      have hkey : key ∉ keys := by simpa [hvisited] using hnone
      rw [if_neg hkey]
    · rfl
  · intro before key after _
    rw [get?_errors_validateField, if_pos rfl]
  · rw [isValid_validateAll_iff hrules]
    constructor
    · intro hnone before key after _
      rw [check_validateFields, hnone]
    · intro hnone key
      by_cases hkey : key ∈ keys
      · obtain ⟨before, after, hsplit⟩ := List.append_of_mem hkey
        rw [← hnone before key after hsplit, check_validateFields]
      · exact check_eq_none (by simpa [hvisited] using hkey)

/-- Two keys that ask for a value; only one of them has it. -/
def bothRequired : FieldRules :=
  [("age", [⟨.required, none, ⟨"How old?", by decide⟩, none⟩]),
    ("name", [⟨.required, none, ⟨"Who?", by decide⟩, none⟩])]

/-- A session in which the wrong key has an error, and another key that no rules know. -/
def stale : Session :=
  ⟨[("name", .string "Ada")], [("mail", "No answer."), ("name", "Who?")], false, 7⟩

theorem validateFields_agreesWithAll_stale :
    bothRequired.Ascending ∧ stale.errors.Ascending ∧
      (∀ key, key ∈ ["name", "age", "name"] ↔ key ∈ bothRequired.map Prod.fst) ∧
      stale.AgreesWithAll bothRequired ["name", "age", "name"] := by
  have hrules : bothRequired.Ascending := by
    rw [Entries.Ascending]
    decide
  have herrors : stale.errors.Ascending := by
    rw [Entries.Ascending]
    decide
  have hkeys : ∀ key, key ∈ ["name", "age", "name"] ↔ key ∈ bothRequired.map Prod.fst := by
    intro key
    simp only [bothRequired, List.map_cons, List.map_nil, List.mem_cons, List.not_mem_nil]
    tauto
  exact ⟨hrules, herrors, hkeys, validateFields_agreesWithAll hrules herrors hkeys⟩

end Session

end Forms
