import Forms.Proofs.Agreement.Readings
import Forms.Proofs.Updating
import Forms.Rule.Validation

/-!
# The rules of an updated field

An updated node is read again from its written form, and its rules with it.  A predicate lives in
the running program and is not written, so a custom rule accepts everything afterwards.  Every other
rule that the patch leaves alone decides as before, because it measures by its operand, and sorting
the operand does not change what that measures.
-/

namespace Forms

namespace Json

/-- The order of members does not show in what a text measures: the text of an object measures
nothing. -/
theorem ofText_readingText_canonical (value : Json) :
    Quantity.ofText value.canonical.readingText = Quantity.ofText value.readingText := by
  induction value using induct with
  | null | bool | number | string => rfl
  | array items ih =>
      rw [canonical_array]
      match items, ih with
      | [], _ => rfl
      | [item], ih =>
          rw [List.map_singleton, readingText_singleton, readingText_singleton]
          exact ih item List.mem_cons_self
      | first :: second :: items, _ =>
          have hcomma : ',' ∈ Quantity.strangers := by decide
          rw [List.map_cons, List.map_cons,
            ofText_readingText_eq_undefined (comma_mem_readingChars _ _ _) hcomma,
            ofText_readingText_eq_undefined (comma_mem_readingChars _ _ _) hcomma]
  | object members _ =>
      have hbrace : '\x7b' ∈ Quantity.strangers := by decide
      rw [canonical_object, ofText_readingText_eq_undefined (brace_mem_readingChars _) hbrace,
        ofText_readingText_eq_undefined (brace_mem_readingChars _) hbrace]

theorem quantity_canonical (value : Json) : value.canonical.quantity = value.quantity := by
  cases value with
  | null | bool | number | string => rfl
  | array items =>
      have hmeasured := ofText_readingText_canonical (.array items)
      rw [canonical_array] at hmeasured ⊢
      exact hmeasured
  | object members =>
      rw [canonical_object]
      rfl

end Json

/-! ## One rule -/

namespace Rule

/-- An operand as it is read back; null is read as none. -/
def rereadOperand : Option Json → Option Json
  | none | some .null => none
  | some operand => some operand.canonical

/-- The rule as it is read back from its written form. -/
def reread (rule : Rule) : Rule := ⟨rule.kind, rereadOperand rule.operand, rule.message, none⟩

/-- Whether the rule decides by its predicate. -/
def isCustom (rule : Rule) : Bool := rule.kind == .custom

theorem rereadOperand_of_ne_null {operand : Json} (hnull : operand ≠ .null) :
    rereadOperand (some operand) = some operand.canonical := by
  cases operand with
  | null => exact absurd rfl hnull
  | bool | number | string | array | object => rfl

theorem rereadOperand_restores (operand : Json) :
    Decoder.Restores (Decode.optional Decode.any) (fun _ => operand)
      (rereadOperand (some operand)) := by
  intro origin found hfound
  by_cases hnull : operand = .null
  · subst hnull
    rw [(Json.canonical_eq_null_iff found).mp hfound.2]
    rfl
  · rw [Decode.optional_of_ne_null (hfound.ne_null hnull), rereadOperand_of_ne_null hnull,
      ← hfound.2]
    rfl

theorem decode_toJson_canonical (origin : Origin) (rule : Rule) :
    decode origin rule.toJson.canonical = .ok rule.reread := by
  obtain ⟨kind, operand, message, predicate⟩ := rule
  obtain ⟨entries, hentries, hcarries⟩ :=
    (Json.rearranges_canonical (toJson ⟨kind, operand, message, predicate⟩)).object
  have hoperand : (Fields.omissible "value" Decode.any).Reads origin entries
      (rereadOperand operand) := by
    cases operand with
    | none => exact .field_absent hcarries (by simp)
    | some operand =>
        exact .field hcarries List.mem_cons_self (by simp) (by simp)
          (rereadOperand_restores operand)
  suffices hread : Fields.Reads
      ((fun kind operand message => Rule.mk kind operand message none)
        <$> Fields.required "type" RuleKind.decode <*> Fields.omissible "value" Decode.any
        <*> Fields.required "message" Decode.nonBlank)
      origin entries (reread ⟨kind, operand, message, predicate⟩) by
    rw [hentries, decode, Decode.record, hread]
    rfl
  refine (Fields.Reads.required hcarries ?_ (kind_restores kind)).map _ |>.seq hoperand
    |>.seq (.required hcarries ?_ (.nonBlank message))
  all_goals simp

theorem decode_rules (origin : Origin) (rules : List Rule) :
    Decode.list decode origin (Json.array (rules.map toJson)).canonical =
      .ok (rules.map reread) := by
  rw [Json.canonical_array, Decode.list, List.map_map]
  induction rules with
  | nil => rfl
  | cons rule rules ih =>
      rw [List.map_cons, List.mapM_cons, ih, Function.comp_apply, decode_toJson_canonical]
      rfl

/-- An operand other than null bounds the same once it is read back. -/
theorem bound_reread {rule : Rule} (hoperand : rule.operand ≠ some .null) :
    rule.reread.bound = rule.bound := by
  rw [bound, bound, reread]
  cases hheld : rule.operand with
  | none => rfl
  | some operand =>
      rw [hheld] at hoperand
      rw [rereadOperand_of_ne_null fun hnull => hoperand (congrArg some hnull)]
      exact operand.quantity_canonical

theorem patternText_reread (rule : Rule) : rule.reread.patternText = rule.patternText := by
  obtain ⟨kind, operand, message, predicate⟩ := rule
  cases kind with
  | pattern =>
      cases operand with
      | none => rfl
      | some operand => cases operand <;> rfl
  | required | email | min | max | custom => rfl

/-- A rule that is read back decides as before, unless it is a custom one, which then accepts
everything.  A bound has to be other than null. -/
theorem accepts_reread {rule : Rule}
    (hbound : rule.kind = .min ∨ rule.kind = .max → rule.operand ≠ some .null) (value : Json) :
    rule.reread.accepts value = (rule.isCustom || rule.accepts value) := by
  have hkind : rule.reread.kind = rule.kind := rfl
  cases hcase : rule.kind with
  | required | email => simp [accepts, isCustom, hkind, hcase]
  | min => simp [accepts, isCustom, hkind, hcase, bound_reread (hbound (.inl hcase))]
  | max => simp [accepts, isCustom, hkind, hcase, bound_reread (hbound (.inr hcase))]
  | pattern => simp [accepts, isCustom, hkind, hcase, acceptsText, patternText_reread]
  | custom => simp [accepts, isCustom, hcase, reread]

end Rule

/-! ## The rules of a field -/

section

variable {rules : List Rule}

theorem validateValue_cons (value : Json) (rule : Rule) (rules : List Rule) :
    validateValue value (rule :: rules) =
      if rule.accepts value then validateValue value rules else some rule.message.text := by
  rw [validateValue, List.find?_cons]
  cases rule.accepts value <;> rfl

/-- Rules that are read back find what the rules other than the custom ones find. -/
theorem validateValue_map_reread
    (hbounds : ∀ rule ∈ rules, rule.kind = .min ∨ rule.kind = .max → rule.operand ≠ some .null)
    (value : Json) :
    validateValue value (rules.map Rule.reread) =
      validateValue value (rules.filter fun rule => !rule.isCustom) := by
  induction rules with
  | nil => rfl
  | cons rule rules ih =>
      rw [List.forall_mem_cons] at hbounds
      rw [List.map_cons, validateValue_cons, ih hbounds.2, Rule.accepts_reread hbounds.1,
        List.filter_cons]
      cases rule.isCustom with
      | true => rfl
      | false =>
          rw [Bool.false_or, Bool.not_false, if_pos rfl, validateValue_cons]
          rfl

/-- Custom rules that accept the value make no difference. -/
theorem validateValue_filter_isCustom {value : Json}
    (hcustom : ∀ rule ∈ rules, rule.isCustom = true → rule.accepts value = true) :
    validateValue value (rules.filter fun rule => !rule.isCustom) = validateValue value rules := by
  induction rules with
  | nil => rfl
  | cons rule rules ih =>
      rw [List.forall_mem_cons] at hcustom
      rw [List.filter_cons, validateValue_cons]
      cases hkind : rule.isCustom with
      | true =>
          rw [Bool.not_true, if_neg Bool.false_ne_true, ih hcustom.2, hcustom.1 hkind, if_pos rfl]
      | false =>
          rw [Bool.not_false, if_pos rfl, validateValue_cons, ih hcustom.2]

end

/-! ## Updated fields -/

/-- The rules of a field are read from their own member. -/
theorem Field.validation_read {origin : Origin} {found : Members} {field : Field}
    (hfield : Field.fields.Reads origin found field) :
    (Fields.defaulting "validation" (Decode.list Rule.decode) []).Reads origin found
      field.validation := by
  rw [Field.fields, Fields.reads_seq_iff] at hfield
  obtain ⟨make, hmake, rules, hrules, rfl⟩ := hfield
  simp only [Fields.reads_seq_iff, Fields.reads_map_iff] at hmake
  obtain ⟨_, ⟨_, ⟨_, ⟨_, ⟨_, ⟨_, ⟨_, -, rfl⟩, _, -, rfl⟩, _, -, rfl⟩, _, -, rfl⟩, _, -, rfl⟩,
    _, -, rfl⟩, _, -, rfl⟩ := hmake
  exact hrules

theorem Input.exists_fields? (input : Input) : ∃ fields, Input.fields? input.tag = some fields := by
  cases input with
  | text kind => cases kind <;> exact ⟨_, rfl⟩
  | textarea | select | radio | checkbox | file => exact ⟨_, rfl⟩

namespace Node

variable {node updated : Node} {patch : Members} {input : Input} {props : Field}

theorem apart_of_field (hbody : node.body = .field input props) : Body.Apart node.tagMembers := by
  rw [tagMembers, hbody]
  exact Body.apart_members (by simp [Body.map])

/-- The rules of a field are written when there are any. -/
theorem get?_members_validation (hbody : node.body = .field input props) :
    node.members.get? "validation" =
      if props.validation = [] then none
      else some (Json.array (props.validation.map Rule.toJson)).canonical := by
  have hkind : ∀ tag fields, (Body.field input props : Body Json) ≠ .unknown tag fields := nofun
  have hsorted := ((Json.isCanonical_object_iff _).mp (apart_of_field hbody).sorted).1
  have hown : node.tagMembers.get? "validation" =
      if props.validation = [] then none
      else some (Json.array (props.validation.map Rule.toJson)).canonical := by
    rw [tagMembers, hbody, Body.map, Body.members_eq hkind, Json.get?_ofWrites_canonicalMembers,
      Body.entries, Entries.get?_ofWrites_append, input.get?_entries_of_mem (by simp [Field.keys]),
      Option.or_none]
    by_cases hrules : props.validation = [] <;> simp [Field.entries, hrules]
  rw [get?_members, get?_entries node hsorted,
    get?_frameEntries_of_notMem node (by simp [frameKeys]), hown]
  by_cases hrules : props.validation = [] <;> simp [hrules, Json.canonical_canonical]

/-- A field that is read again with its tag and its rules is a field whose rules are the ones that
are read back. -/
theorem field_of_read {found : Members} (hbody : node.body = .field input props)
    (hfound : found.Ascending) (hread : decode .value (.object found) = .ok updated)
    (htag : found.get? "tag" = node.members.get? "tag")
    (hvalidation : found.get? "validation" = node.members.get? "validation") :
    ∃ own shared, updated.body = .field own shared ∧
      shared.validation = props.validation.map Rule.reread := by
  have hnamed : found.get? "tag" = some (.string node.tag) :=
    htag.trans (get?_members_name (apart_of_field hbody) (.inr rfl))
  have htags := Json.string.inj (eq_tag_of_read hread hfound.nodup_keys hnamed nofun)
  obtain ⟨frame, tag, members, hframe, hmembers, hofMembers, -⟩ := decode_eq_ok hread
  obtain ⟨-, hsorted, hget⟩ := get?_of_tagAndMembers hfound.nodup_keys hmembers
  have hinput : tag = input.tag := calc
    tag = updated.tag := (Body.tag_of_ofMembers hofMembers).symm
    _ = node.tag := htags.symm
    _ = input.tag := congrArg Body.tag hbody
  obtain ⟨fields, hfields⟩ := input.exists_fields?
  rw [← hinput] at hfields
  rcases Body.ofMembers_eq_ok hofMembers with hknown | ⟨hunknown, -⟩
  · obtain ⟨own, shared, -, hshared, hupdated⟩ := hknown.of_input hfields
    refine ⟨own, shared, hupdated, ?_⟩
    have hrules := Field.validation_read hshared
    rw [Fields.defaulting, Fields.reads_field_iff hsorted.nodup_keys, hget,
      if_neg (by decide), if_neg (by simp [frameKeys]), hvalidation,
      get?_members_validation hbody] at hrules
    by_cases hnone : props.validation = []
    · rw [if_pos hnone] at hrules
      rw [hnone]
      exact (Option.some.inj hrules).symm
    · rw [if_neg hnone] at hrules
      simp only [Option.map_some, Json.canonical_canonical, Rule.decode_rules] at hrules
      exact (Except.ok.inj hrules).symm
  · rw [hunknown.1] at hfields
    cases hfields

theorem id_of_patched (hbody : node.body = .field input props) (hpatch : patch.Ascending)
    (hupdated : node.patched patch = .ok updated) : updated.id = node.id := by
  obtain ⟨hid, hread⟩ := patched_eq_ok hupdated
  have hmerged := Entries.ascending_merge node.ascending_members patch
  obtain ⟨frame, _, _, hframe, -, -, hsame, -⟩ := decode_eq_ok hread
  have hget : (node.members.merge patch).get? "id" = some (.string node.id.text) := by
    rw [get?_merge_members node hpatch]
    cases hvalue : patch.get? "id" with
    | none => exact get?_members_name (apart_of_field hbody) (.inl rfl)
    | some value => rw [Option.some_or, hid value hvalue]
  have hread := (frameFields_reads_iff.mp hframe).1
  rw [Fields.required, Fields.reads_field_iff hmerged.nodup_keys, hget] at hread
  have hown : Decode.nonBlank .value (.string node.id.text) = .ok node.id :=
    Decoder.Restores.nonBlank node.id .value _ ⟨.string _, rfl⟩
  rw [hsame]
  exact Except.ok.inj (hread.symm.trans hown)

end Node

namespace Schema

variable {schema edited : Schema} {id : String} {patch : Members} {node : Node}

/-- An update that names neither the tag nor the rules of a field leaves all its rules as they are
but the custom ones, which accept everything from then on.  So every value that no custom rule
rejects is judged as before.  Bounds are taken to be other than null. -/
theorem update_keeps_rules (hpatch : patch.Ascending) (htag : patch.get? "tag" = none)
    (hvalidation : patch.get? "validation" = none) (hnode : schema.find? id = some node)
    (hfield : node.body.field?.isSome = true)
    (hbounds : ∀ rule ∈ node.rules, rule.kind = .min ∨ rule.kind = .max →
      rule.operand ≠ some .null)
    (hedited : schema.update id patch = .ok edited) :
    ∃ updated, edited.find? id = some updated ∧ updated.body.field?.isSome = true ∧
      ∀ value,
        validateValue value updated.rules =
          validateValue value (node.rules.filter fun rule => !rule.isCustom) ∧
        ((∀ rule ∈ node.rules, rule.isCustom = true → rule.accepts value = true) →
          validateValue value updated.rules = validateValue value node.rules) := by
  obtain ⟨place, found, updated, hlocate, hfound, hpatched, rfl⟩ := exists_place_of_update hedited
  obtain ⟨held, hheld, hfind, hid⟩ := exists_find?_of_locate? hlocate
  cases hfound.symm.trans hheld
  cases hnode.symm.trans hfind
  obtain ⟨input, props, hbody⟩ : ∃ input props, node.body = .field input props := by
    cases hbody : node.body with
    | field input props => exact ⟨input, props, rfl⟩
    | display | container | unknown =>
        rw [hbody] at hfield
        cases hfield
  have hkept (key : String) (hkey : patch.get? key = none) :
      (node.members.merge patch).get? key = node.members.get? key := by
    rw [Node.get?_merge_members node hpatch, hkey, Option.none_or]
  obtain ⟨own, shared, hupdated, hrules⟩ := Node.field_of_read hbody
    (Entries.ascending_merge node.ascending_members patch) (Node.patched_eq_ok hpatched).2
    (hkept "tag" htag) (hkept "validation" hvalidation)
  have hplace : (schema.modifyAt place fun _ => updated).locate? id = some place :=
    locate?_modifyAt hlocate hfound ((Node.id_of_patched hbody hpatch hpatched) ▸ hid)
  obtain ⟨kept, hkeptAt, hfoundAgain, -⟩ := exists_find?_of_locate? hplace
  cases hkeptAt.symm.trans (at?_modifyAt hfound _)
  refine ⟨updated, hfoundAgain, by rw [hupdated]; rfl, fun value => ?_⟩
  have hbefore : node.rules = props.validation := by rw [Node.rules, hbody]; rfl
  have hafter : updated.rules = node.rules.map Rule.reread := by
    rw [Node.rules, hupdated, hbefore, ← hrules]
    rfl
  have hjudged := validateValue_map_reread hbounds value
  rw [hafter]
  exact ⟨hjudged, fun hcustom => hjudged.trans (validateValue_filter_isCustom hcustom)⟩

/-- A nickname that has to be there and has to begin with a Q. -/
def nickname : Node :=
  ⟨⟨"nick", by decide⟩, none, none, none, none, .field (.text .text none none none none none none)
    ⟨⟨"nick", by decide⟩, none, none, none, none, none, none,
      [⟨.required, none, ⟨"Enter a nickname", by decide⟩, none⟩,
        ⟨.custom, none, ⟨"Begin with a Q", by decide⟩, some fun value =>
          match value with
          | .string text => text.toList.head? == some 'Q'
          | _ => false⟩]⟩⟩

/-- A form that asks for the nickname. -/
def nicknames : Schema := ofNodes [nickname]

/-- With another label the nickname is still required, but may begin with any letter. -/
theorem update_keeps_rules_nickname :
    ∃ edited updated, nicknames.update "nick" [("label", .string "Nickname")] = .ok edited ∧
      edited.find? "nick" = some updated ∧
      validateValue (.string "") updated.rules = some "Enter a nickname" ∧
      validateValue (.string "Ada") updated.rules = none ∧
      validateValue (.string "Quinn") updated.rules =
        validateValue (.string "Quinn") nickname.rules := by
  obtain ⟨edited, hedited⟩ : ∃ edited,
      nicknames.update "nick" [("label", .string "Nickname")] = .ok edited := ⟨_, rfl⟩
  obtain ⟨updated, hfound, -, hjudged⟩ := update_keeps_rules
    (List.pairwise_singleton _ ("label", Json.string "Nickname")) rfl rfl
    (show nicknames.find? "nick" = some nickname from rfl) rfl (by decide) hedited
  exact ⟨edited, updated, hedited, hfound, (hjudged _).1.trans rfl, (hjudged _).1.trans rfl,
    (hjudged _).2 (by decide)⟩

/-- Custom rules are lost: before the update the nickname had to begin with a Q. -/
theorem not_update_keeps_rules :
    ¬∀ (schema edited : Schema) (id : String) (patch : Members) (node updated : Node),
      patch.Ascending → patch.get? "tag" = none → patch.get? "validation" = none →
      schema.find? id = some node → node.body.field?.isSome = true →
      schema.update id patch = .ok edited → edited.find? id = some updated →
      ∀ value, validateValue value updated.rules = validateValue value node.rules := by
  intro hkept
  obtain ⟨edited, updated, hedited, hfound, hafter⟩ : ∃ edited updated,
      nicknames.update "nick" [("label", .string "Nickname")] = .ok edited ∧
        edited.find? "nick" = some updated ∧
        validateValue (.string "Ada") updated.rules = none := ⟨_, _, rfl, rfl, rfl⟩
  have hsame := hkept nicknames edited "nick" _ nickname updated
    (List.pairwise_singleton _ ("label", Json.string "Nickname")) rfl rfl rfl rfl hedited hfound
    (.string "Ada")
  rw [hafter] at hsame
  cases hsame

end Schema

end Forms
