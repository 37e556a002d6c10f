import Forms.Condition.Basic
import Forms.Proofs.Reading.Depth
import Forms.Proofs.Reading.Restores

/-!
# Conditions in JSON

The bound on the depth of a condition never shows: a condition is a record whose rules are read as
conditions.  Reading gives normal conditions only, and restores each of them.
-/

namespace Forms

namespace Operator

/-- The operator is the one of its name; no unknown operator has the name of a known one. -/
def IsNormal (operator : Operator) : Prop := ofName operator.name = operator

theorem isNormal_ofName (name : String) : (ofName name).IsNormal := by
  unfold ofName
  split <;> first | rfl | simp_all [IsNormal, ofName, Operator.name]

end Operator

namespace Condition

/-- The members of a condition, given how a rule is read. -/
def fieldsOver (rule : Decoder Condition) : Fields Condition :=
  Condition.mk <$> Fields.required "field" Decode.nonBlank
    <*> (Operator.ofName <$> Fields.required "operator" Decode.string)
    <*> Fields.defaulting "value" Decode.any .null
    <*> Fields.omissible "logic" (Decode.variant logics)
    <*> Fields.defaulting "rules" (Decode.list rule) []

theorem decodeWithin_succ (depth : Nat) :
    decodeWithin (depth + 1) = Decode.record "Condition" (fieldsOver (decodeWithin depth)) := by
  funext origin value
  rw [decodeWithin]
  rfl

theorem fieldsOver_agreeWithin {depth : Nat} {first second : Decoder Condition}
    (h : first.AgreeWithin depth second) :
    Fields.AgreeWithin depth (fieldsOver first) (fieldsOver second) := by
  have hoperator := (Fields.AgreeWithin.refl depth Decode.string ["operator"] none none).map
    Operator.ofName
  have hrules := Fields.AgreeWithin.field h.list ["rules"] (some []) (some [])
  exact (Fields.AgreeWithin.refl ..).map Condition.mk |>.seq hoperator |>.seq (.refl ..)
    |>.seq (.refl ..) |>.seq hrules

/-- A condition is a record whose rules are conditions. -/
theorem decode_eq : decode = Decode.record "Condition" (fieldsOver decode) := by
  refine Decoder.AgreeWithin.eq_layer ?_ decodeWithin_succ fun depth first second h =>
    Decode.record_agreeWithin (fieldsOver_agreeWithin h) _
  intro child origin value hvalue
  cases value <;> simp_all [Json.depth, decodeWithin, Decode.record]

/-! ## Normal conditions -/

/-- What reading gives: the operator goes by its name, and the operand is sorted. -/
inductive IsNormal : Condition → Prop where
  | mk {field : NonBlank} {operator : Operator} {operand : Json} {logic : Option Logic}
      {rules : List Condition} (hoperator : operator.IsNormal) (hoperand : operand.IsCanonical)
      (hrules : ∀ rule ∈ rules, IsNormal rule) : IsNormal (.mk field operator operand logic rules)

theorem decodeWithin_ensures (depth : Nat) : Decoder.Ensures (decodeWithin depth) IsNormal := by
  induction depth with
  | zero =>
      intro origin value result hresult
      simp [decodeWithin] at hresult
  | succ depth ih =>
      rw [decodeWithin_succ]
      have hoperator := (Fields.Ensures.required (.trivial Decode.string) "operator").map
        fun name _ => Operator.isNormal_ofName name
      have hoperand := Fields.Ensures.defaulting Decode.any_ensures "value"
        (show Json.IsCanonical .null from rfl)
      have hrules := Fields.Ensures.listed ih "rules"
      apply Decode.record_ensures
      refine (Fields.Ensures.trivial _).map ?_ |>.seq hoperator |>.seq hoperand
        |>.seq (.trivial _) |>.seq hrules
      intro _ _ operator hoperator operand hoperand _ _ rules hrules
      exact .mk hoperator hoperand hrules

theorem decode_ensures : Decoder.Ensures decode IsNormal :=
  fun origin value => decodeWithin_ensures value.depth origin value

theorem toJsonOf_eq_map (rules : List Condition) : toJsonOf rules = rules.map toJson := by
  induction rules with
  | nil => rfl
  | cons rule rules ih => rw [toJsonOf, ih, List.map_cons]

theorem get?_rulesEntry (rules : List Json) (key : String) :
    (Entries.ofWrites (rulesEntry rules)).get? key =
      if key = "rules" ∧ rules ≠ [] then some (.array rules) else none := by
  cases rules <;> simp [rulesEntry]

theorem logic_restores (logic : Logic) :
    Decoder.Restores (Decode.variant logics) (fun logic => .string (Logic.name logic)) logic :=
  .variant (by cases logic <;> rfl)

theorem IsNormal.restores {condition : Condition} (h : condition.IsNormal) :
    Decoder.Restores decode toJson condition := by
  induction h with
  | @mk field operator operand logic rules hoperator hoperand hrules ih =>
      rw [decode_eq]
      apply Decode.record_restores (by rw [toJson])
      intro origin entries hcarries
      have hname : (Operator.ofName <$> Fields.required "operator" Decode.string).Reads origin
          entries operator := by
        rw [← hoperator]
        exact (Fields.Reads.required hcarries (by simp [get?_rulesEntry]) (.string _)).map _
      have hrules : (Fields.defaulting "rules" (Decode.list decode) []).Reads origin entries
          rules := by
        cases rules with
        | nil => exact .defaulting_absent hcarries (by simp [toJsonOf, rulesEntry])
        | cons rule rules =>
            refine .defaulting hcarries ?_ (.list ih) []
            simp [toJsonOf, toJsonOf_eq_map, rulesEntry]
      refine (Fields.Reads.required hcarries ?_ (.nonBlank field)).map Condition.mk |>.seq hname
        |>.seq (.defaulting hcarries ?_ (.any hoperand) _)
        |>.seq (.omissible hcarries ?_ fun logic _ => ⟨logic_restores logic, nofun⟩) |>.seq hrules
      all_goals simp [get?_rulesEntry]

end Condition

end Forms
