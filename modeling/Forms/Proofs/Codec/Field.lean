import Forms.Node.Field
import Forms.Proofs.Reading.Restores

/-!
# Fields in JSON

Rules, choices, sources of choices and the members of fields.  Each of them is restored from its
written form once it is normal, and reading gives nothing that is not normal.
-/

namespace Forms

/-! ## Rules -/

namespace Rule

/-- What reading gives: a rule without a predicate. -/
structure IsNormal (rule : Rule) : Prop where
  operand : Json.Settled rule.operand
  predicate : rule.predicate = none

theorem decode_ensures : Decoder.Ensures decode IsNormal := by
  apply Decode.record_ensures
  refine (Fields.Ensures.trivial _).map ?_ |>.seq (.omissible_any _) |>.seq (.trivial _)
  intro _ _ operand hoperand _ _
  exact ⟨hoperand, rfl⟩

theorem kind_restores (kind : RuleKind) :
    Decoder.Restores RuleKind.decode (fun kind => .string (RuleKind.name kind)) kind :=
  .variant (by cases kind <;> rfl)

theorem IsNormal.restores {rule : Rule} (h : rule.IsNormal) :
    Decoder.Restores decode toJson rule := by
  obtain ⟨kind, operand, message, predicate⟩ := rule
  obtain ⟨hoperand, rfl⟩ := h
  apply Decode.record_restores (by rfl)
  intro origin entries hcarries
  refine (Fields.Reads.required hcarries ?_ (kind_restores kind)).map _
    |>.seq (.optional_any hcarries ?_ hoperand) |>.seq (.required hcarries ?_ (.nonBlank message))
  all_goals simp

end Rule

/-! ## Choices -/

theorem ChoiceValue.restores (value : ChoiceValue) :
    Decoder.Restores ChoiceValue.decode ChoiceValue.toJson value := by
  intro origin found hfound
  cases value with
  | text content =>
      rw [hfound.eq_string]
      rfl
  | number value =>
      rw [hfound.eq_number]
      rfl

theorem Choice.restores (choice : Choice) :
    Decoder.Restores Choice.decode Choice.toJson choice := by
  apply Decode.record_restores (by rfl)
  intro origin entries hcarries
  refine (Fields.Reads.required hcarries ?_ choice.value.restores).map Choice.mk
    |>.seq (.required hcarries ?_ (.string choice.label))
    |>.seq (.omissible hcarries ?_ fun flag _ => ⟨.boolean flag, nofun⟩)
    |>.seq (.omissible_string hcarries ?_)
  all_goals simp

theorem choices_restores (choices : List Choice) :
    Decoder.Restores (Decode.list Choice.decode) choicesJson choices :=
  .list fun choice _ => choice.restores

namespace ChoiceSource

/-- What reading gives: headers and parameters are sorted. -/
structure IsNormal (source : ChoiceSource) : Prop where
  headers : ∀ headers ∈ source.headers, headers.Ascending
  params : ∀ params ∈ source.params, (Json.object params).IsCanonical

theorem decode_ensures : Decoder.Ensures decode IsNormal := by
  have hheaders := Fields.Ensures.omissible (Decode.map_ensures Decode.string).optional "headers"
    (by simp)
  have hparams := Fields.Ensures.omissible Decode.members_ensures.optional "params" (by simp)
  apply Decode.record_ensures
  refine (Fields.Ensures.trivial _).map ?_ |>.seq (.trivial _) |>.seq hheaders |>.seq hparams
    |>.seq (.trivial _) |>.seq (.trivial _)
  intro _ _ _ _ headers hheaders params hparams _ _ _ _
  exact ⟨hheaders, hparams⟩

theorem method_restores (method : Method) :
    Decoder.Restores Method.decode (fun method => .string (Method.name method)) method :=
  .variant (by cases method <;> rfl)

theorem headers_restores {headers : Entries String} (hheaders : headers.Ascending) :
    Decoder.Restores (Decode.map Decode.string) headersJson headers :=
  .texts hheaders

theorem IsNormal.restores {source : ChoiceSource} (h : source.IsNormal) :
    Decoder.Restores decode toJson source := by
  apply Decode.record_restores (by rfl)
  intro origin entries hcarries
  refine (Fields.Reads.required hcarries ?_ (.nonBlank source.url)).map ChoiceSource.mk
    |>.seq (.omissible hcarries ?_ fun method _ => ⟨method_restores method, nofun⟩)
    |>.seq (.omissible hcarries ?_ fun headers hheaders =>
      ⟨headers_restores (h.headers headers hheaders), nofun⟩)
    |>.seq (.omissible hcarries ?_ fun params hparams =>
      ⟨.members (h.params params hparams), nofun⟩)
    |>.seq (.omissible_string hcarries ?_)
    |>.seq (.omissible_string hcarries ?_)
  all_goals simp

end ChoiceSource

theorem count32_restores (count : UInt32) : Decoder.Restores Decode.count32 count32Json count :=
  .count32 count

theorem count64_restores (count : UInt64) : Decoder.Restores Decode.count64 count64Json count :=
  .count64 count

namespace Fields.Reads

variable {origin : Origin} {entries written : List (String × Json)} {key : String}

theorem optional_count32 {held : Option UInt32} (hcarries : Json.Carries entries written)
    (hwritten : (Entries.ofWrites written).get? key = held.map count32Json) :
    (Fields.optional key Decode.count32).Reads origin entries held :=
  optional hcarries hwritten fun count _ => ⟨count32_restores count, nofun⟩

theorem optional_count64 {held : Option UInt64} (hcarries : Json.Carries entries written)
    (hwritten : (Entries.ofWrites written).get? key = held.map count64Json) :
    (Fields.optional key Decode.count64).Reads origin entries held :=
  optional hcarries hwritten fun count _ => ⟨count64_restores count, nofun⟩

end Fields.Reads

/-! ## Members of all fields -/

namespace Field

/-- The names of the members that all fields share. -/
def keys : List String :=
  ["name", "label", "placeholder", "value", "disabled", "required", "readOnly", "validation"]

structure IsNormal (field : Field) : Prop where
  value : Json.Settled field.value
  validation : ∀ rule ∈ field.validation, rule.IsNormal

theorem fields_ensures : fields.Ensures IsNormal := by
  have hvalidation := Fields.Ensures.listed Rule.decode_ensures "validation"
  refine (Fields.Ensures.trivial _).map ?_ |>.seq (.trivial _) |>.seq (.trivial _)
    |>.seq (.optional_any _) |>.seq (.trivial _) |>.seq (.trivial _) |>.seq (.trivial _)
    |>.seq hvalidation
  intro _ _ _ _ _ _ value hvalue _ _ _ _ _ _ rules hrules
  exact ⟨hvalue, hrules⟩

/-- The rules are left out when there are none. -/
theorem get?_validationEntry (rules : List Rule) (key : String) :
    (Entries.ofWrites (if rules = [] then []
      else [("validation", Json.array (rules.map Rule.toJson))])).get? key =
      if key = "validation" ∧ rules ≠ [] then some (.array (rules.map Rule.toJson))
      else none := by
  cases rules <;> simp

theorem get?_entries_of_notMem (field : Field) {key : String} (hkey : key ∉ keys) :
    (Entries.ofWrites field.entries).get? key = none := by
  simp only [keys, List.mem_cons, not_or, List.not_mem_nil] at hkey
  simp [entries, get?_validationEntry, hkey]

/-- The members of a field are read from entries that carry them beside others. -/
theorem IsNormal.reads {field : Field} (h : field.IsNormal) (origin : Origin)
    {entries written : List (String × Json)} (hcarries : Json.Carries entries written)
    (hwritten : ∀ key ∈ keys, (Entries.ofWrites written).get? key =
      (Entries.ofWrites field.entries).get? key) :
    fields.Reads origin entries field := by
  have hvalidation : (Fields.defaulting "validation" (Decode.list Rule.decode) []).Reads origin
      entries field.validation := by
    have hentry := hwritten "validation" (by simp [keys])
    by_cases hrules : field.validation = []
    · rw [hrules]
      refine .defaulting_absent hcarries (hentry.trans ?_)
      simp [Field.entries, hrules]
    · refine .defaulting hcarries (hentry.trans ?_)
        (.list fun rule hrule => (h.validation rule hrule).restores) []
      simp [Field.entries, hrules]
  refine (Fields.Reads.required hcarries ?_ (.nonBlank field.name)).map Field.mk
    |>.seq (.optional_string hcarries ?_)
    |>.seq (.optional_string hcarries ?_)
    |>.seq (.optional_any hcarries ?_ h.value)
    |>.seq (.optional_boolean hcarries ?_)
    |>.seq (.optional_boolean hcarries ?_)
    |>.seq (.optional_boolean hcarries ?_)
    |>.seq hvalidation
  all_goals
    rw [hwritten _ (by simp [keys])]
    simp [Field.entries, get?_validationEntry]

end Field

/-! ## Members of one kind of input -/

namespace Input

/-- What reading gives: members of any shape are sorted, and so is the source of choices. -/
def IsNormal : Input → Prop
  | .text _ min max step _ _ _ => Json.Settled min ∧ Json.Settled max ∧ Json.Settled step
  | .select _ _ source => ∀ held ∈ source, held.IsNormal
  | _ => True

theorem textFields_ensures (kind : TextKind) : (textFields kind).Ensures IsNormal := by
  refine (Fields.Ensures.optional_any "min").map ?_ |>.seq (.optional_any "max")
    |>.seq (.optional_any "step") |>.seq (.trivial _) |>.seq (.trivial _) |>.seq (.trivial _)
  intro min hmin max hmax step hstep _ _ _ _ _ _
  exact ⟨hmin, hmax, hstep⟩

theorem fields?_ensures {tag : String} {fields : Fields Input}
    (hfields : fields? tag = some fields) : fields.Ensures IsNormal := by
  unfold fields? at hfields
  split at hfields
  · cases hfields
    exact textFields_ensures _
  -- The tags that are not of the text family, in the order in which `fields?` has them.
  · split at hfields <;> cases hfields
    case h_1 =>
      exact (Fields.Ensures.trivial _).map (fun _ _ _ _ _ _ _ _ _ _ => True.intro)
        |>.seq (.trivial _) |>.seq (.trivial _) |>.seq (.trivial _) |>.seq (.trivial _)
    case h_2 =>
      have hsource := Fields.Ensures.optional ChoiceSource.decode_ensures.optional "dataSource"
        (by simp)
      exact (Fields.Ensures.trivial _).map (fun _ _ _ _ _ hsource => hsource)
        |>.seq (.trivial _) |>.seq hsource
    case h_3 => exact (Fields.Ensures.trivial _).map fun _ _ => True.intro
    case h_4 =>
      exact (Fields.Ensures.trivial _).map (fun _ _ _ _ => True.intro) |>.seq (.trivial _)
    case h_5 =>
      exact (Fields.Ensures.trivial _).map (fun _ _ _ _ _ _ _ _ => True.intro)
        |>.seq (.trivial _) |>.seq (.trivial _) |>.seq (.trivial _)

/-- The members of an input are none of those that all fields share. -/
theorem get?_entries_of_mem (input : Input) {key : String} (hkey : key ∈ Field.keys) :
    (Entries.ofWrites input.entries).get? key = none := by
  simp only [Field.keys, List.mem_cons, List.not_mem_nil, or_false] at hkey
  rcases hkey with rfl | rfl | rfl | rfl | rfl | rfl | rfl | rfl <;> cases input <;> simp [entries]

/-- The members of an input are read beside those that all fields share. -/
theorem IsNormal.reads {input : Input} (h : input.IsNormal) :
    ∃ fields, fields? input.tag = some fields ∧
      fields.ReadsBeside Field.keys input.entries input := by
  cases input with
  | text kind min max step minLength maxLength pattern =>
      obtain ⟨hmin, hmax, hstep⟩ := h
      refine ⟨textFields kind, by cases kind <;> rfl, fun _ => get?_entries_of_mem _, ?_⟩
      intro origin entries written hcarries hwritten
      refine (Fields.Reads.optional_any hcarries ?_ hmin).map (Input.text kind)
        |>.seq (.optional_any hcarries ?_ hmax) |>.seq (.optional_any hcarries ?_ hstep)
        |>.seq (.optional_count32 hcarries ?_)
        |>.seq (.optional_count32 hcarries ?_)
        |>.seq (.optional_string hcarries ?_)
      all_goals
        rw [hwritten _ (by simp [Field.keys])]
        simp [Input.entries]
  | textarea rows cols minLength maxLength resize =>
      refine ⟨_, rfl, fun _ => get?_entries_of_mem _, ?_⟩
      intro origin entries written hcarries hwritten
      refine (Fields.Reads.optional_count32 hcarries ?_).map Input.textarea
        |>.seq (.optional_count32 hcarries ?_)
        |>.seq (.optional_count32 hcarries ?_)
        |>.seq (.optional_count32 hcarries ?_)
        |>.seq (.optional_string hcarries ?_)
      all_goals
        rw [hwritten _ (by simp [Field.keys])]
        simp [Input.entries]
  | select choices multiple source =>
      refine ⟨_, rfl, fun _ => get?_entries_of_mem _, ?_⟩
      intro origin entries written hcarries hwritten
      refine (Fields.Reads.defaulting hcarries ?_ (choices_restores choices) []).map Input.select
        |>.seq (.optional_boolean hcarries ?_)
        |>.seq (.optional hcarries ?_ fun source hsource =>
          ⟨(h source hsource).restores, nofun⟩)
      all_goals
        rw [hwritten _ (by simp [Field.keys])]
        simp [Input.entries]
  | radio choices =>
      refine ⟨_, rfl, fun _ => get?_entries_of_mem _, ?_⟩
      intro origin entries written hcarries hwritten
      refine (Fields.Reads.defaulting hcarries ?_ (choices_restores choices) []).map Input.radio
      rw [hwritten _ (by simp [Field.keys])]
      simp [Input.entries]
  | checkbox choices single =>
      refine ⟨_, rfl, fun _ => get?_entries_of_mem _, ?_⟩
      intro origin entries written hcarries hwritten
      refine (Fields.Reads.optional hcarries ?_ fun choices _ =>
          ⟨choices_restores choices, nofun⟩).map Input.checkbox
        |>.seq (.optional_boolean hcarries ?_)
      all_goals
        rw [hwritten _ (by simp [Field.keys])]
        simp [Input.entries]
  | file accept multiple maxSize maxFiles =>
      refine ⟨_, rfl, fun _ => get?_entries_of_mem _, ?_⟩
      intro origin entries written hcarries hwritten
      refine (Fields.Reads.optional_string hcarries ?_).map Input.file
        |>.seq (.optional_boolean hcarries ?_)
        |>.seq (.optional_count64 hcarries ?_)
        |>.seq (.optional_count32 hcarries ?_)
      all_goals
        rw [hwritten _ (by simp [Field.keys])]
        simp [Input.entries]

end Input

end Forms
