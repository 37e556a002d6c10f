import Forms.Proofs.Columns
import Forms.Proofs.Pattern.Length
import Forms.Rule.Validation

/-!
# Generated rules bound lengths

The constraints of a column become rules that look for a pattern.  Such a rule rejects exactly the
texts that are too long, or too short, as long as the pattern compiles.  A bound that is too large
to be counted out in a pattern is not enforced at all, because a pattern that does not compile
accepts every text.
-/

namespace Forms

open Pattern (largestMost largestLeast)

/-! ## Rules that look for a pattern -/

theorem isSome_validateValue_iff (value : Json) (rules : List Rule) :
    (validateValue value rules).isSome = true ↔ ∃ rule ∈ rules, rule.accepts value = false := by
  simp [validateValue]

namespace Rule

theorem of?_eq_ok (kind : RuleKind) (operand : Option Json) {message : String}
    (hmessage : Unicode.allBlank message = false) :
    of? kind operand message = .ok ⟨kind, operand, ⟨message, hmessage⟩, none⟩ := by
  simp only [of?, NonBlank.ofString?, hmessage]
  rfl

/-- A text that is filled in is compared with the pattern as it is. -/
theorem accepts_string {rule : Rule} (hkind : rule.kind = .pattern) {content : String}
    (hcontent : content ≠ "") : rule.accepts (.string content) = rule.acceptsText content := by
  have hpresent : (Json.string content).isPresent = true := by
    simp [Json.isPresent, hcontent]
  have htext : (Json.string content).readingText = content := String.ofList_toList
  rw [accepts, hkind]
  simp [hpresent, htext]

/-- A text is only rejected by a pattern that compiles. -/
theorem acceptsText_eq_false_iff {rule : Rule} {pattern : String} {expr : Pattern.Expr}
    (hpattern : rule.patternText = some pattern)
    (hparse : Pattern.parse? pattern.toList = some expr) (content : String) :
    rule.acceptsText content = false ↔
      expr.fitsProgram = true ∧ expr.matchesIn content.toList = false := by
  rw [acceptsText, hpattern]
  simp only [Pattern.compile?_eq hparse]
  cases expr.fitsProgram with
  | true => exact (and_iff_right rfl).symm
  | false => simp

end Rule

/-- The rule for an upper bound. -/
def atMostRule (most : UInt32) : Rule where
  kind := .pattern
  operand := some (.string (atMostPattern most))
  message := {
    text := s!"Maximum length is {most} characters"
    notBlank := by
      simp only [Unicode.allBlank_append]
      rfl }
  predicate := none

/-- The rule for a lower bound. -/
def atLeastRule (least : UInt32) : Rule where
  kind := .pattern
  operand := some (.string (atLeastPattern least))
  message := {
    text := s!"Minimum length is {least} characters"
    notBlank := by
      simp only [Unicode.allBlank_append]
      rfl }
  predicate := none

theorem atMostRule_rejects_iff (most : UInt32) {content : String} (hcontent : content ≠ "") :
    (atMostRule most).accepts (.string content) = false ↔
      most.toNat ≤ largestMost ∧ most.toNat < content.length := by
  have hmatch := Pattern.matchesIn_counted 0 (some most.toNat) (by simp) content.toList
  rw [Rule.accepts_string rfl hcontent,
    Rule.acceptsText_eq_false_iff rfl (Pattern.parse?_atMostPattern most),
    Pattern.fitsProgram_atMost, ← Bool.not_eq_true, hmatch,
    String.length_toList]
  simp

theorem atLeastRule_rejects_iff (least : UInt32) {content : String} (hcontent : content ≠ "") :
    (atLeastRule least).accepts (.string content) = false ↔
      least.toNat ≤ largestLeast ∧ content.length < least.toNat := by
  have hmatch := Pattern.matchesIn_counted least.toNat none (by simp) content.toList
  rw [Rule.accepts_string rfl hcontent,
    Rule.acceptsText_eq_false_iff rfl (Pattern.parse?_atLeastPattern least),
    Pattern.fitsProgram_atLeast, ← Bool.not_eq_true, hmatch,
    String.length_toList]
  simp

/-! ## Constraints -/

namespace LengthConstraints

/-- Whether a text of this length is longer or shorter than it may be. -/
def Forbids (constraints : LengthConstraints) (length : Nat) : Prop :=
  (∃ most ∈ positiveLength constraints.maxLength, most.toNat < length) ∨
    ∃ least ∈ positiveLength constraints.minLength, length < least.toNat

instance (constraints : LengthConstraints) (length : Nat) :
    Decidable (constraints.Forbids length) :=
  inferInstanceAs (Decidable (_ ∨ _))

/-- The bounds that are small enough for their patterns to compile. -/
def enforced (constraints : LengthConstraints) : LengthConstraints where
  maxLength := constraints.maxLength.filter fun most => most.toNat ≤ largestMost
  minLength := constraints.minLength.filter fun least => least.toNat ≤ largestLeast

def lengthRules (constraints : LengthConstraints) : List Rule :=
  (positiveLength constraints.maxLength).toList.map atMostRule
    ++ (positiveLength constraints.minLength).toList.map atLeastRule

theorem rules_eq_ok (constraints : LengthConstraints) :
    constraints.rules = .ok constraints.lengthRules := by
  have hmost (most : UInt32) : Rule.pattern? (atMostPattern most)
      s!"Maximum length is {most} characters" = .ok (atMostRule most) :=
    Rule.of?_eq_ok _ _ (atMostRule most).message.notBlank
  have hleast (least : UInt32) : Rule.pattern? (atLeastPattern least)
      s!"Minimum length is {least} characters" = .ok (atLeastRule least) :=
    Rule.of?_eq_ok _ _ (atLeastRule least).message.notBlank
  rw [rules, Outcome.mapM_eq_ok hmost, Outcome.mapM_eq_ok hleast]
  rfl

theorem mem_positiveLength_filter_iff {length : Option UInt32} {test : UInt32 → Bool}
    {bound : UInt32} : bound ∈ positiveLength (length.filter test) ↔
      bound ∈ positiveLength length ∧ test bound = true := by
  simp only [positiveLength, Option.mem_filter_iff]
  exact and_right_comm

/-- The rules forbid exactly what the bounds that are enforced forbid. -/
theorem lengthRules_reject_iff (constraints : LengthConstraints) {content : String}
    (hcontent : content ≠ "") :
    (validateValue (.string content) constraints.lengthRules).isSome = true ↔
      constraints.enforced.Forbids content.length := by
  rw [isSome_validateValue_iff, lengthRules, Forbids]
  simp only [List.mem_append, or_and_right, exists_or, List.mem_map,
    exists_exists_and_eq_and, Option.mem_toList, ← Option.mem_def,
    atMostRule_rejects_iff _ hcontent, atLeastRule_rejects_iff _ hcontent, enforced,
    mem_positiveLength_filter_iff, decide_eq_true_eq, and_assoc]

end LengthConstraints

/-! ## Columns -/

/-- A rule of another kind than those that look for a pattern. -/
theorem exists_ruleWhen (condition : Bool) (kind : RuleKind) (hkind : kind ≠ .pattern)
    {message : String} (hmessage : Unicode.allBlank message = false) :
    ∃ rules, ruleWhen condition (Rule.of? kind none message) = .ok rules ∧
      ∀ rule ∈ rules, rule.kind ≠ .pattern := by
  rw [Rule.of?_eq_ok kind none hmessage]
  cases condition with
  | true => exact ⟨_, rfl, List.forall_mem_singleton.mpr hkind⟩
  | false => exact ⟨[], rfl, List.forall_mem_nil _⟩

/-- Rules that begin with others and end with the length rules. -/
theorem exists_rules_before (required email : Bool) {message : String}
    (hmessage : Unicode.allBlank message = false) {lengths : Outcome (List Rule)}
    {lengthRules : List Rule} (hlengths : lengths = .ok lengthRules) :
    ∃ others, (do
        let required ← ruleWhen required (Rule.required? (some message))
        let email ← ruleWhen email (Rule.email? none)
        let lengths ← lengths
        .ok (required ++ email ++ lengths) : Outcome (List Rule)) = .ok (others ++ lengthRules) ∧
      ∀ rule ∈ others, rule.kind ≠ .pattern := by
  obtain ⟨first, hfirst, hrequired⟩ :=
    exists_ruleWhen required .required (by decide) hmessage
  have hinvalid : Unicode.allBlank "Please enter a valid email address" = false := by decide
  obtain ⟨second, hsecond, hemail⟩ := exists_ruleWhen email .email (by decide) hinvalid
  refine ⟨first ++ second, ?_, List.forall_mem_append.mpr ⟨hrequired, hemail⟩⟩
  rw [Rule.required?, Option.getD_some, hfirst, Rule.email?, Option.getD_none, hsecond, hlengths]
  rfl

/-- Without constraints nothing is bounded. -/
def Column.limits (column : Column) : LengthConstraints := column.constraints.getD .none

theorem Column.lengthRules_eq_ok (column : Column) :
    column.lengthRules = .ok column.limits.lengthRules := by
  rw [lengthRules, limits]
  cases column.constraints with
  | some constraints => exact constraints.rules_eq_ok
  | none => rfl

theorem Column.exists_rules (column : Column) (componentType : Option String) :
    ∃ others, column.rules componentType = .ok (others ++ column.limits.lengthRules) ∧
      ∀ rule ∈ others, rule.kind ≠ .pattern := by
  apply exists_rules_before _ _ _ column.lengthRules_eq_ok
  simp only [Unicode.allBlank_append]
  exact Bool.and_false _

theorem ColumnMapping.exists_rules (mapping : ColumnMapping) :
    ∃ others, mapping.rules = .ok (others ++ mapping.column.limits.lengthRules) ∧
      ∀ rule ∈ others, rule.kind ≠ .pattern := by
  apply exists_rules_before _ _ _ mapping.column.lengthRules_eq_ok
  simp only [Unicode.allBlank_append]
  exact Bool.and_false _

/-- A node is the field of a column when it is bound to its name and ends with its length rules. -/
def Node.IsFieldOf (node : Node) (column : Column) (lengths : List Rule) : Prop :=
  node.bindingKey? = some column.name ∧
    ∃ others, node.rules = others ++ lengths ∧ ∀ rule ∈ others, rule.kind ≠ .pattern

theorem ColumnMapping.exists_node (mapping : ColumnMapping)
    (hname : Unicode.allBlank mapping.column.name = false) :
    ∃ node, mapping.node true = .ok node ∧
      node.IsFieldOf mapping.column mapping.column.limits.lengthRules := by
  obtain ⟨others, hrules, hothers⟩ := mapping.exists_rules
  exact ⟨_, node_eq_ok_iff.mpr ⟨hname, _, hrules, rfl⟩, rfl, others, rfl, hothers⟩

theorem GenerationConfig.exists_schema {config : GenerationConfig}
    (hvalidation : config.includeValidation = true)
    (hnames : ∀ mapping ∈ config.keptColumns, Unicode.allBlank mapping.column.name = false) :
    ∃ schema, config.schema = .ok schema ∧ ∀ mapping ∈ config.keptColumns,
      ∃ node ∈ schema.nodes, node.IsFieldOf mapping.column mapping.column.limits.lengthRules := by
  obtain ⟨fields, hfields, hall⟩ := Outcome.exists_mapM_eq_ok
    fun mapping hmapping => ColumnMapping.exists_node mapping (hnames mapping hmapping)
  rw [← hvalidation] at hfields
  refine ⟨_, schema_eq_ok_iff.mpr ⟨fields, hfields, rfl⟩, fun mapping hmapping => ?_⟩
  obtain ⟨node, hnode, hfield⟩ := hall mapping hmapping
  exact ⟨node, List.mem_append_left _ hnode, hfield⟩

/-- The length rules of a column stand at the end of its rules, and of those of its field in every
generated form, and they reject exactly the texts that its enforced bounds forbid. -/
theorem Column.lengthRules_enforce (column : Column) :
    ∃ lengths, column.lengthRules = .ok lengths ∧
      (∀ content : String, content ≠ "" →
        ((validateValue (.string content) lengths).isSome = true ↔
          column.limits.enforced.Forbids content.length)) ∧
      (∀ componentType, ∃ others, column.rules componentType = .ok (others ++ lengths) ∧
        ∀ rule ∈ others, rule.kind ≠ .pattern) ∧
      ∀ config : GenerationConfig, config.includeValidation = true →
        (∀ mapping ∈ config.keptColumns, Unicode.allBlank mapping.column.name = false) →
        ∃ schema, config.schema = .ok schema ∧ ∀ mapping ∈ config.keptColumns,
          mapping.column = column → ∃ node ∈ schema.nodes, node.IsFieldOf column lengths := by
  refine ⟨_, column.lengthRules_eq_ok, ?_, column.exists_rules, ?_⟩
  · intro content hcontent
    exact column.limits.lengthRules_reject_iff hcontent
  · intro config hvalidation hnames
    obtain ⟨schema, hschema, hall⟩ := GenerationConfig.exists_schema hvalidation hnames
    refine ⟨schema, hschema, ?_⟩
    rintro mapping hmapping rfl
    exact hall mapping hmapping

/-- A column for a user name of six to twelve characters. -/
def userName : Column where
  name := "user"
  typeName := "string"
  nullable := false
  isPrimaryKey := false
  constraints := some ⟨some 12, some 6⟩

def userNameForm : GenerationConfig where
  title := "User"
  description := ""
  submitAction := .create
  includeValidation := true
  includeDefaultValues := false
  columns := [⟨userName, "text", "User name", true, none, []⟩]

theorem Column.lengthRules_enforce_userName :
    ∃ lengths, userName.lengthRules = .ok lengths ∧
      (validateValue (.string "plain") lengths).isSome = true ∧
      (validateValue (.string "line\nbreak") lengths).isSome = false ∧
      ∃ schema, userNameForm.schema = .ok schema ∧
        ∃ node ∈ schema.nodes, node.IsFieldOf userName lengths := by
  obtain ⟨lengths, hlengths, hreject, -, hforms⟩ := Column.lengthRules_enforce userName
  obtain ⟨schema, hschema, hfields⟩ := hforms userNameForm rfl (by decide)
  refine ⟨lengths, hlengths, (hreject "plain" (by decide)).mpr (by decide), ?_, schema, hschema, ?_⟩
  · rw [← Bool.not_eq_true, hreject "line\nbreak" (by decide)]
    decide
  · exact hfields _ List.mem_cons_self rfl

/-- A lower bound past those that can be counted out is not enforced. -/
theorem not_lengthRules_enforce :
    ¬ ∀ (column : Column) (lengths : List Rule), column.lengthRules = .ok lengths →
      ∀ content : String, content ≠ "" →
        ((validateValue (.string content) lengths).isSome = true ↔
          column.limits.Forbids content.length) := by
  intro henforced
  let column : Column := { userName with constraints := some ⟨none, some 10878⟩ }
  have hreject := column.limits.lengthRules_reject_iff (show "a" ≠ "" by decide)
  rw [henforced column _ column.lengthRules_eq_ok "a" (by decide)] at hreject
  exact absurd (hreject.mp (by decide)) (by decide)

end Forms
