import Forms.Form
import Forms.Proofs.Entries

/-!
# The values a document starts with

The walk over a schema completes its declared values.  A field adds its key only while no value
stands under it, so what has been declared is never touched, of several fields that bind one key the
first one decides, and values that are complete stay as they are.
-/

namespace Forms

namespace Entries

variable {α : Type}

/-- A new key is written between the entries that are there. -/
theorem sublist_insert {entries : Entries α} {key : String} (hnew : entries.get? key = none)
    (value : α) : entries.Sublist (insert key value entries) := by
  induction entries with
  | nil => exact List.nil_sublist _
  | cons entry entries ih =>
      obtain ⟨other, held⟩ := entry
      rw [get?_cons] at hnew
      rw [insert]
      split
      · exact List.sublist_cons_self _ _
      · split
        · rename_i hsame
          rw [if_pos hsame] at hnew
          cases hnew
        · rename_i hother
          rw [if_neg hother] at hnew
          exact (ih hnew).cons_cons _

end Entries

namespace Node

/-- Whether the node is a field that binds the key. -/
def binds (key : String) (node : Node) : Bool := node.bindingKey? == some key

/-- The default that a field declares, or else the empty value of its kind; other nodes have
neither. -/
def startValue? (node : Node) : Option Json :=
  (node.body.field?.bind Field.value).or node.body.emptyValue?

theorem exists_startValue?_of_binds {node : Node} {key : String} (hbinds : node.binds key = true) :
    ∃ value, node.startValue? = some value := by
  rw [binds, bindingKey?, beq_iff_eq] at hbinds
  rw [startValue?]
  cases hbody : node.body with
  | field input props =>
      simp only [Body.field?, Body.emptyValue?, Option.bind_some]
      cases props.value with
      | none => exact ⟨_, rfl⟩
      | some value => exact ⟨value, rfl⟩
  | display | container | unknown =>
      rw [hbody] at hbinds
      cases hbinds

end Node

namespace Schema

/-! ## One node -/

section

variable (values : Values) (node : Node)

/-- A field whose key is missing adds what it starts with; any other node adds nothing. -/
theorem seedField_cases :
    ((∀ key ∈ node.bindingKey?, values.get? key ≠ none) ∧ seedField values node = values) ∨
    ∃ key value, node.bindingKey? = some key ∧ values.get? key = none ∧
      node.startValue? = some value ∧ seedField values node = values.insert key value := by
  rw [seedField, Node.bindingKey?, Node.startValue?]
  cases node.body with
  | field input props =>
      have hkey : (Body.field? (.field input props : Body Node)).map (·.name.text) =
          some props.name.text := rfl
      rw [hkey]
      cases hget : values.get? props.name.text with
      | none =>
          refine Or.inr ⟨props.name.text, props.value.getD input.emptyValue, rfl, hget, ?_, ?_⟩
          · simp only [Body.field?, Body.emptyValue?, Option.bind_some]
            cases props.value <;> rfl
          · simp only [hget]
      | some value =>
          refine Or.inl ⟨?_, by simp only [hget]⟩
          rintro key ⟨rfl⟩
          simp [hget]
  | display | container | unknown => exact Or.inl ⟨nofun, rfl⟩

theorem get?_seedField (key : String) :
    (seedField values node).get? key =
      (values.get? key).or (if node.binds key then node.startValue? else none) := by
  rcases seedField_cases values node with ⟨hpresent, hseed⟩ |
    ⟨other, value, hother, hmissing, hvalue, hseed⟩
  · rw [hseed]
    split
    · rename_i hbinds
      obtain ⟨held, hheld⟩ := Option.ne_none_iff_exists'.mp (hpresent key (beq_iff_eq.mp hbinds))
      rw [hheld, Option.some_or]
    · rw [Option.or_none]
  · rw [hseed, Entries.get?_insert, Node.binds, hother]
    by_cases hkey : key = other
    · subst hkey
      rw [if_pos rfl, hmissing, if_pos BEq.rfl, hvalue, Option.none_or]
    · rw [if_neg hkey, if_neg (by simpa using Ne.symm hkey), Option.or_none]

theorem sublist_seedField : values.Sublist (seedField values node) := by
  rcases seedField_cases values node with ⟨-, hseed⟩ | ⟨key, value, -, hmissing, -, hseed⟩
  · rw [hseed]
  · rw [hseed]
    exact Entries.sublist_insert hmissing value

theorem ascending_seedField (hascending : values.Ascending) :
    Entries.Ascending (seedField values node) := by
  rcases seedField_cases values node with ⟨-, hseed⟩ | ⟨key, value, -, -, -, hseed⟩
  · rwa [hseed]
  · rw [hseed]
    exact Entries.ascending_insert hascending key value

end

/-! ## The walk -/

/-- The first field of the walk that binds a key decides what is added under it. -/
theorem get?_foldl_seedField (nodes : List Node) (values : Values) (key : String) :
    (nodes.foldl seedField values).get? key =
      (values.get? key).or ((nodes.find? (·.binds key)).bind Node.startValue?) := by
  induction nodes generalizing values with
  | nil => rw [List.foldl_nil, List.find?_nil, Option.bind_none, Option.or_none]
  | cons node nodes ih =>
      rw [List.foldl_cons, ih, get?_seedField, List.find?_cons]
      cases hbinds : node.binds key with
      | false => simp only [Bool.false_eq_true, if_false, Option.or_none]
      | true =>
          -- A field that binds the key always has something to start with.
          obtain ⟨value, hvalue⟩ := node.exists_startValue?_of_binds hbinds
          simp only [if_true, Option.bind_some, hvalue, Option.or_assoc, Option.some_or]

theorem sublist_foldl_seedField (nodes : List Node) (values : Values) :
    values.Sublist (nodes.foldl seedField values) := by
  induction nodes generalizing values with
  | nil => exact List.Sublist.refl _
  | cons node nodes ih => exact (sublist_seedField values node).trans (ih _)

/-- Values that have the keys of all fields are complete. -/
theorem foldl_seedField_eq_self {nodes : List Node} {values : Values}
    (hpresent : ∀ node ∈ nodes, ∀ key ∈ node.bindingKey?, values.get? key ≠ none) :
    nodes.foldl seedField values = values := by
  induction nodes with
  | nil => rfl
  | cons node nodes ih =>
      rw [List.forall_mem_cons] at hpresent
      rw [List.foldl_cons]
      rcases seedField_cases values node with ⟨-, hseed⟩ | ⟨key, _, hkey, hmissing, -⟩
      · rw [hseed, ih hpresent.2]
      · exact absurd hmissing (hpresent.1 key hkey)

/-! ## A whole schema -/

/-- The values that a schema declares itself. -/
def declaredValues (schema : Schema) : Values := schema.initialValues.getD []

theorem get?_seedValues (schema : Schema) (key : String) :
    schema.seedValues.get? key =
      (schema.declaredValues.get? key).or
        ((schema.walk.find? (·.binds key)).bind Node.startValue?) :=
  get?_foldl_seedField schema.walk schema.declaredValues key

theorem mem_keys_seedValues_iff (schema : Schema) (key : String) :
    key ∈ schema.seedValues.map Prod.fst ↔
      key ∈ schema.declaredValues.map Prod.fst ∨
        ∃ node ∈ schema.walk, node.bindingKey? = some key := by
  have hnone : (schema.walk.find? (·.binds key)).bind Node.startValue? = none ↔
      ¬∃ node ∈ schema.walk, node.bindingKey? = some key := by
    simp only [not_exists, not_and]
    constructor
    · intro hstart node hnode hkey
      have hbinds : (schema.walk.find? (·.binds key)).isSome :=
        List.find?_isSome.mpr ⟨node, hnode, beq_iff_eq.mpr hkey⟩
      obtain ⟨first, hfirst⟩ := Option.isSome_iff_exists.mp hbinds
      obtain ⟨value, hvalue⟩ := first.exists_startValue?_of_binds (List.find?_some hfirst)
      rw [hfirst, Option.bind_some, hvalue] at hstart
      cases hstart
    · intro hfree
      rw [List.find?_eq_none.mpr, Option.bind_none]
      intro node hnode hbinds
      exact hfree node hnode (beq_iff_eq.mp hbinds)
  rw [← not_iff_not, ← Entries.get?_eq_none_iff, get?_seedValues, Option.or_eq_none_iff, hnone,
    Entries.get?_eq_none_iff, not_or]

theorem seedValues_of_seeded (schema : Schema) :
    seedValues { schema with initialValues := some schema.seedValues } = schema.seedValues := by
  apply foldl_seedField_eq_self
  intro node hnode key hkey hmissing
  refine Entries.get?_eq_none_iff.mp hmissing ?_
  exact (mem_keys_seedValues_iff schema key).mpr (Or.inr ⟨node, hnode, hkey⟩)

/-- A document starts with the declared values, untouched, and with one value for each further key
that a field binds: what the first such field of the walk starts with.  The values are one map when
the declared ones are, and a schema that declares them starts with them. -/
theorem seedValues_exact (schema : Schema) :
    (∀ key, key ∈ schema.seedValues.map Prod.fst ↔
      key ∈ schema.declaredValues.map Prod.fst ∨
        ∃ node ∈ schema.walk, node.bindingKey? = some key) ∧
    (∀ key, schema.seedValues.get? key =
      (schema.declaredValues.get? key).or
        ((schema.walk.find? (·.binds key)).bind Node.startValue?)) ∧
    schema.declaredValues.Sublist schema.seedValues ∧
    (schema.declaredValues.Ascending → Entries.Ascending schema.seedValues) ∧
    seedValues { schema with initialValues := some schema.seedValues } = schema.seedValues := by
  refine ⟨schema.mem_keys_seedValues_iff, schema.get?_seedValues,
    sublist_foldl_seedField _ _, fun hascending => ?_, schema.seedValues_of_seeded⟩
  exact List.foldlRecOn _ _ hascending fun values hvalues node _ =>
    ascending_seedField values node hvalues

/-- A field that binds a key. -/
def fieldNode (key : NonBlank) (input : Input) (value : Option Json) : Node :=
  ⟨key, none, none, none, none, .field input ⟨key, none, none, value, none, none, none, []⟩⟩

/-- Two fields for one name, the second one in a card with two more, of which one has a declared
value. -/
def enrolment : Schema where
  title := none
  description := none
  nodes :=
    [fieldNode ⟨"name", by decide⟩ (.radio []) (some (.string "Ada")),
      ⟨⟨"panel", by decide⟩, none, none, none, none, .container (.card none
        [fieldNode ⟨"name", by decide⟩ (.radio []) (some (.string "Eve")),
          fieldNode ⟨"photo", by decide⟩ (.file none (some true) none none) none,
          fieldNode ⟨"terms", by decide⟩ (.checkbox none none) none] none none)⟩]
  initialValues := some [("photo", .null)]

/-- The first field decides over the name, the declared null stays, and the box starts unchecked. -/
theorem seedValues_exact_enrolment :
    enrolment.declaredValues.Ascending ∧ Entries.Ascending enrolment.seedValues ∧
      enrolment.seedValues.get? "name" = some (.string "Ada") ∧
      enrolment.seedValues.get? "photo" = some .null ∧
      enrolment.seedValues.get? "terms" = some (.bool false) := by
  obtain ⟨-, hvalues, -, hordered, -⟩ := seedValues_exact enrolment
  have hascending : enrolment.declaredValues.Ascending := List.pairwise_singleton _ _
  exact ⟨hascending, hordered hascending, hvalues _, hvalues _, hvalues _⟩

end Schema

end Forms
