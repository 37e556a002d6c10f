import Forms.Proofs.Codec.Nesting
import Forms.Proofs.Document.Reading
import Forms.Proofs.Lossless

/-!
# Exported schemas are read again

A written schema repeats no key and holds nothing that its reader does not ask for, so its text is
read as the value that was written, but for what becomes of the numbers in it.  Where these come back
from their printed form, the value gives the schema back, and only the limit on nesting can come
between: what is written may nest one level deeper than what was read, because a list that was
missing is written as an empty one.  Cards inside cards, the innermost without its content, use up
that level at the limit, so there an export is refused.
-/

namespace Forms

namespace Json

theorem IsCanonical.distinctKeys {value : Json} (h : value.IsCanonical) : value.DistinctKeys := by
  have hdistinct := distinctKeys_canonical value
  rwa [show value.canonical = value from h] at hdistinct

end Json

theorem mem_optionalEntry {α : Type} {key : String} {toJson : α → Json} {value : Option α}
    {entry : String × Json} :
    entry ∈ optionalEntry key toJson value ↔ ∃ held ∈ value, entry = (key, toJson held) := by
  cases value <;> simp [optionalEntry]

/-! ## Conditions -/

namespace Condition

theorem mem_rulesEntry {rules : List Json} {entry : String × Json} :
    entry ∈ rulesEntry rules → entry = ("rules", .array rules) := by
  cases rules <;> simp [rulesEntry]

theorem IsNormal.distinctKeys {condition : Condition} (h : condition.IsNormal) :
    condition.toJson.DistinctKeys := by
  induction h with
  | @mk field operator operand logic rules _ hoperand _ ih =>
      rw [toJson]
      refine .object ?_ ?_
      · cases logic <;> cases rules <;> simp [optionalEntry, rulesEntry, toJsonOf]
      · intro entry hentry
        simp only [List.mem_append, List.mem_cons, List.not_mem_nil, or_false,
          mem_optionalEntry] at hentry
        rcases hentry with ((rfl | rfl | rfl) | ⟨_, -, rfl⟩) | hrules
        · exact .string _
        · exact .string _
        · exact hoperand.distinctKeys
        · exact .string _
        · rw [mem_rulesEntry hrules, toJsonOf_eq_map]
          exact .array (List.forall_mem_map.mpr ih)

/-- All of a written condition is asked for. -/
theorem IsNormal.keeps {condition : Condition} (h : condition.IsNormal) :
    Shape.condition.Keeps condition.toJson := by
  induction h with
  | @mk field operator operand logic rules _ _ _ ih =>
      rw [toJson]
      refine .object fun entry hentry => ?_
      simp only [List.mem_append, List.mem_cons, List.not_mem_nil, or_false,
        mem_optionalEntry] at hentry
      rcases hentry with ((rfl | rfl | rfl) | ⟨_, -, rfl⟩) | hrules
      · exact ⟨.whole, rfl, Shape.keeps_whole _⟩
      · exact ⟨.whole, rfl, Shape.keeps_whole _⟩
      · exact ⟨.whole, rfl, Shape.keeps_whole _⟩
      · exact ⟨.whole, rfl, Shape.keeps_whole _⟩
      · rw [mem_rulesEntry hrules, toJsonOf_eq_map]
        refine ⟨.each .condition, rfl, .array fun _ => List.forall_mem_map.mpr ih⟩

end Condition

/-! ## Nodes -/

theorem keys_optionalEntry_sublist {α : Type} (key : String) (toJson : α → Json)
    (value : Option α) : ((optionalEntry key toJson value).map Prod.fst).Sublist [key] := by
  cases value <;> simp [optionalEntry]

namespace Node

theorem keys_frameEntries_sublist (node : Node) : (node.frameEntries.map Prod.fst).Sublist
    ["visibleIf", "style", "className", "styleConfig"] := by
  simp only [frameEntries, List.map_append]
  exact (((keys_optionalEntry_sublist _ _ _).append (keys_optionalEntry_sublist _ _ _)).append
    (keys_optionalEntry_sublist _ _ _)).append (keys_optionalEntry_sublist _ _ _)

/-- No key of a written node stands there twice. -/
theorem nodup_keys {node : Node} (hapart : Body.Apart node.tagMembers) :
    (node.entries.map Prod.fst).Nodup := by
  have hsorted := ((Json.isCanonical_object_iff _).mp hapart.sorted).1.nodup_keys
  have habsent : ∀ key ∈ frameKeys, key ≠ "type" → key ∉ node.tagMembers.map Prod.fst :=
    fun key hkey hne => Entries.get?_eq_none_iff.mp (hapart.absent key hkey hne)
  rw [entries, List.map_append, List.map_append]
  refine List.Nodup.sublist ((List.Sublist.refl _).append node.keys_frameEntries_sublist) ?_
  simp only [frameKeys, List.mem_map, Prod.exists, exists_and_right, exists_eq_right] at habsent
  rw [List.nodup_append', List.nodup_append']
  simp only [List.Disjoint, hsorted]
  grind

theorem toJson_eq_entries (node : Node) : node.toJson = .object node.entries := by
  rw [toJson_eq]
  rfl

theorem mem_entries {node : Node} {entry : String × Json} :
    entry ∈ node.entries ↔
      entry = ("id", .string node.id.text) ∨ entry = ("tag", .string node.tag) ∨
      entry ∈ node.tagMembers ∨
      (∃ condition ∈ node.visibleIf, entry = ("visibleIf", condition.toJson)) ∨
      (∃ held ∈ node.style, entry = ("style", held)) ∨
      (∃ held ∈ node.className, entry = ("className", held)) ∨
      ∃ held ∈ node.styleConfig, entry = ("styleConfig", held) := by
  simp only [entries, frameEntries, List.mem_append, List.mem_cons, List.not_mem_nil, or_false,
    mem_optionalEntry, or_assoc]

theorem IsNormal.distinctKeys {node : Node} (h : node.IsNormal) : node.toJson.DistinctKeys := by
  obtain ⟨hvisible, hstyle, hclass, hconfig, hbody, -⟩ := h
  have hapart : Body.Apart node.tagMembers := hbody.apart toJson
  rw [toJson_eq_entries]
  refine .object (nodup_keys hapart) fun entry hentry => ?_
  rw [mem_entries] at hentry
  rcases hentry with rfl | rfl | hmember | ⟨condition, hcondition, rfl⟩ | ⟨held, hheld, rfl⟩ |
    ⟨held, hheld, rfl⟩ | ⟨held, hheld, rfl⟩
  · exact .string _
  · exact .string _
  · exact (((Json.isCanonical_object_iff _).mp hapart.sorted).2 entry hmember).distinctKeys
  · exact (hvisible condition hcondition).distinctKeys
  · exact (hstyle held hheld).1.distinctKeys
  · exact (hclass held hheld).1.distinctKeys
  · exact (hconfig held hheld).1.distinctKeys

/-- All of a written node is asked for: only its own condition stands under `visibleIf`. -/
theorem IsNormal.keeps {node : Node} (h : node.IsNormal) : Node.shape.Keeps node.toJson := by
  obtain ⟨hvisible, -, -, -, hbody, -⟩ := h
  have hapart : Body.Apart node.tagMembers := hbody.apart toJson
  rw [toJson_eq_entries]
  refine .object fun entry hentry => ?_
  rcases mem_entries.mp hentry with rfl | rfl | hmember | ⟨condition, hcondition, rfl⟩ |
    ⟨_, -, rfl⟩ | ⟨_, -, rfl⟩ | ⟨_, -, rfl⟩
  · exact ⟨.whole, rfl, Shape.keeps_whole _⟩
  · exact ⟨.whole, rfl, Shape.keeps_whole _⟩
  · have hkey : entry.1 ≠ "visibleIf" := by
      intro heq
      exact Entries.get?_eq_none_iff.mp (hapart.absent "visibleIf" (by simp [frameKeys]) (by simp))
        (heq ▸ List.mem_map_of_mem hmember)
    rw [← beq_eq_false_iff_ne] at hkey
    exact ⟨.whole, by simp [shape, Shape.member?, List.lookup_cons, hkey], Shape.keeps_whole _⟩
  · exact ⟨.condition, rfl, (hvisible condition hcondition).keeps⟩
  · exact ⟨.whole, rfl, Shape.keeps_whole _⟩
  · exact ⟨.whole, rfl, Shape.keeps_whole _⟩
  · exact ⟨.whole, rfl, Shape.keeps_whole _⟩

end Node

namespace Schema

variable {schema : Schema}

/-- The members of a schema in the order in which they are written. -/
def entries (schema : Schema) : List (String × Json) :=
  optionalEntry "title" .string schema.title
    ++ optionalEntry "description" .string schema.description
    ++ [("nodes", .array (schema.nodes.map Node.toJson))]
    ++ optionalEntry "initialValues" .object schema.initialValues

theorem mem_entries {entry : String × Json} :
    entry ∈ schema.entries ↔ (∃ title ∈ schema.title, entry = ("title", .string title)) ∨
      (∃ description ∈ schema.description, entry = ("description", .string description)) ∨
      entry = ("nodes", .array (schema.nodes.map Node.toJson)) ∨
      ∃ values ∈ schema.initialValues, entry = ("initialValues", .object values) := by
  simp only [entries, List.mem_append, List.mem_singleton, mem_optionalEntry, or_assoc]

theorem keys_sublist (schema : Schema) :
    (schema.entries.map Prod.fst).Sublist ["title", "description", "nodes", "initialValues"] := by
  simp only [entries, List.map_append]
  exact (((keys_optionalEntry_sublist _ _ _).append (keys_optionalEntry_sublist _ _ _)).append
    (.refl ["nodes"])).append (keys_optionalEntry_sublist _ _ _)

theorem IsNormal.distinctKeys (h : schema.IsNormal) : schema.toJson.DistinctKeys := by
  refine .object ((keys_sublist schema).nodup (by decide)) fun entry hentry => ?_
  rcases mem_entries.mp hentry with ⟨_, -, rfl⟩ | ⟨_, -, rfl⟩ | rfl | ⟨values, hvalues, rfl⟩
  · exact .string _
  · exact .string _
  · exact .array (List.forall_mem_map.mpr fun node hnode => (h.nodes node hnode).distinctKeys)
  · exact (h.initialValues values hvalues).distinctKeys

theorem IsNormal.keeps (h : schema.IsNormal) : Schema.shape.Keeps schema.toJson := by
  refine .object fun entry hentry => ?_
  rcases mem_entries.mp hentry with ⟨_, -, rfl⟩ | ⟨_, -, rfl⟩ | rfl | ⟨values, -, rfl⟩
  · exact ⟨.whole, rfl, Shape.keeps_whole _⟩
  · exact ⟨.whole, rfl, Shape.keeps_whole _⟩
  · exact ⟨.each Node.shape, rfl, .array fun _ =>
      List.forall_mem_map.mpr fun node hnode => (h.nodes node hnode).keeps⟩
  · exact ⟨.whole, rfl, Shape.keeps_whole _⟩

/-- What a schema is written as is read with its numbers read anew, unless it is nested too deep. -/
theorem IsNormal.ofText_text (h : schema.IsNormal) :
    ofText schema.text =
      if schema.toJson.depth ≤ Decode.textDepth then
        schema.toJson.reread?.elim (.error .malformedText) fun value =>
          (decode .text value).mapError .unreadable
      else .error .malformedText := by
  rw [ofText, text, Decode.fromText_pretty h.keeps]

/-- With numbers that come back it is read as the same schema. -/
theorem IsNormal.ofText_text_of_readsBack (h : schema.IsNormal)
    (hnumbers : schema.toJson.ReadsBack) :
    ofText schema.text =
      if schema.toJson.depth ≤ Decode.textDepth then .ok schema else .error .malformedText := by
  have hread := h.restores .text schema.toJson ⟨h.distinctKeys, rfl⟩
  rw [h.ofText_text, hnumbers, Option.elim_some, hread]
  rfl

/-- An export that is nested too deep is refused.  It is nested at most one level deeper than what was
asked for of the text.  So where the numbers come back from their printed form, a text with room for
one more level gives a schema whose export is importable, and so does every text whose export keeps
to the limit. -/
theorem ofText_text_of_ofText {text : String} {schema : Schema} (hread : ofText text = .ok schema) :
    ∃ value, Decode.asked? shape text = some value ∧
      schema.toJson.depth ≤ value.depth + 1 ∧
      (Decode.textDepth < schema.toJson.depth → ofText schema.text = .error .malformedText) ∧
      (schema.toJson.ReadsBack →
        (value.depth < Decode.textDepth → ofText schema.text = .ok schema) ∧
        ofText schema.text =
          if schema.toJson.depth ≤ Decode.textDepth then .ok schema
          else .error .malformedText) := by
  obtain ⟨value, hvalue, hdecode⟩ := Decode.fromText_eq_ok_iff.mp hread
  have hdepth := decode_shallow _ _ _ hdecode
  have hnormal := (obtained_of_ofText hread).isNormal
  refine ⟨value, hvalue, hdepth, fun hdeep => ?_, fun hnumbers => ?_⟩
  · rw [hnormal.ofText_text, if_neg (Nat.not_le_of_lt hdeep)]
  · have htext := hnormal.ofText_text_of_readsBack hnumbers
    refine ⟨fun hroom => ?_, htext⟩
    rw [htext, if_pos (hdepth.trans hroom)]

/-! ## Cards inside cards -/

/-- A value inside so many cards. -/
def cards (innermost : Json) : Nat → Json
  | 0 => innermost
  | count + 1 => .object [("content", .array [cards innermost count]), ("id", .string "card"),
      ("tag", .string "card")]

/-- A card that does not say what is in it. -/
def bareCard : Json := .object [("id", .string "card"), ("tag", .string "card")]

/-- The same card as it is written. -/
def emptyCard : Json :=
  .object [("content", .array []), ("id", .string "card"), ("tag", .string "card")]

def cardNode : Nat → Node
  | 0 => ⟨⟨"card", by decide⟩, none, none, none, none, .container (.card none [] none none)⟩
  | count + 1 =>
    ⟨⟨"card", by decide⟩, none, none, none, none,
      .container (.card none [cardNode count] none none)⟩

theorem depth_cards (innermost : Json) (count : Nat) :
    (cards innermost count).depth = innermost.depth + 2 * count := by
  induction count with
  | zero => rfl
  | succ count ih =>
      simp only [cards, Json.depth, Json.depthMembers, Json.depthItems, ih]
      omega

theorem readsBack_cards {innermost : Json} (h : innermost.ReadsBack) (count : Nat) :
    (cards innermost count).ReadsBack := by
  induction count with
  | zero => exact h
  | succ count ih =>
      have hcontent := Json.readsBack_array (List.forall_mem_singleton.mpr ih)
      refine Json.readsBack_object ?_
      rw [List.forall_mem_cons, List.forall_mem_cons, List.forall_mem_singleton]
      exact ⟨hcontent, rfl, rfl⟩

theorem canonical_cards {innermost : Json} (h : innermost.IsCanonical) (count : Nat) :
    (cards innermost count).IsCanonical := by
  induction count with
  | zero => exact h
  | succ count ih =>
      have hcontent : (Json.array [cards innermost count]).IsCanonical := by
        rw [Json.IsCanonical, Json.canonical_array, List.map_singleton, ih]
      have hkeys : ["content", "id", "tag"].Pairwise (· < ·) := by decide
      rw [cards, Json.isCanonical_object_iff]
      refine ⟨List.pairwise_map.mp hkeys, ?_⟩
      rw [List.forall_mem_cons, List.forall_mem_cons, List.forall_mem_singleton]
      exact ⟨hcontent, rfl, rfl⟩

/-- A card with one node inside, as its tag reads it. -/
theorem ofMembers_card {child : Decoder Node} {held : Json} {node : Node}
    (hread : child .value held = .ok node) :
    Body.ofMembers child "card" [("content", .array [held])] =
      .ok (.container (.card none [node] none none)) := by
  have hcontent : (Fields.defaulting "content" (Decode.list child) []).Reads .value
      [("content", .array [held])] [node] := by
    have hlist : Decode.list child .value (.array [held]) = .ok [node] := by
      rw [Decode.list, Outcome.mapM_eq_ok_iff]
      exact .cons hread .nil
    have hplace : Fields.occurrences ["content"] [("content", Json.array [held])] =
        [(0, .array [held])] := rfl
    simp only [Fields.Reads, Fields.defaulting, Fields.field, hplace, hlist]
  have hlayout := (show (Fields.optional "header" child).Reads .value
      [("content", .array [held])] none from rfl).map Layout.card |>.seq hcontent
    |>.seq (show (Fields.optional "footer" child).Reads .value _ none from rfl)
    |>.seq (show (Fields.optional "variant" Decode.string).Reads .value _ none from rfl)
  simp only [Fields.Reads] at hlayout
  have hinput : Input.fields? "card" = none := rfl
  have hshown : Display.fields? "card" = none := rfl
  simp only [Body.ofMembers, Body.readKnown?, hinput, hshown, Layout.fields?, hlayout]
  rfl

theorem decode_cards (origin : Origin) (count : Nat) :
    Node.decode origin (cards bareCard count) = .ok (cardNode count) := by
  induction count generalizing origin with
  | zero =>
      rw [Node.decode_eq]
      rfl
  | succ count ih =>
      have hcanonical : (cards bareCard count).canonical = cards bareCard count :=
        canonical_cards (by decide) count
      have hopen : Decode.openRecord "NodeRecord" Node.frameKeys Node.frameFields origin
          (cards bareCard (count + 1)) = .ok (⟨⟨"card", by decide⟩, some "card", none, none, none,
            none, none⟩, [("content", .array [cards bareCard count])]) := rfl
      have hmembers : Entries.ofWrites
          (Json.canonicalMembers [("content", .array [cards bareCard count])]) =
            [("content", .array [cards bareCard count])] := by
        rw [Json.canonicalMembers, Json.canonical_array, List.map_singleton, hcanonical]
        rfl
      rw [Node.decode_eq, Node.decodeOver, hopen]
      simp only [bind, Except.bind, Node.ofFrame, Node.tagAndMembers, hmembers,
        ofMembers_card (ih .value)]
      rfl

/-- What is written of a card around others. -/
theorem toJson_cardNode_succ (count : Nat) :
    (cardNode (count + 1)).toJson = .object [("id", .string "card"), ("tag", .string "card"),
      ("content", .array [(cardNode count).toJson.canonical])] := by
  rw [Node.toJson_eq]
  rfl

/-- What is written of the cards holds an empty list in the innermost one. -/
theorem canonical_toJson_cardNode (count : Nat) :
    (cardNode count).toJson.canonical = cards emptyCard count := by
  induction count with
  | zero =>
      rw [Node.toJson_eq]
      rfl
  | succ count ih =>
      have hcanonical : (Json.array [cards emptyCard count]).canonical =
          .array [cards emptyCard count] := by
        have hcards : (cards emptyCard count).canonical = cards emptyCard count :=
          canonical_cards (by decide) count
        rw [Json.canonical_array, List.map_singleton, hcards]
      rw [toJson_cardNode_succ, ih, Json.canonical_object]
      change Json.object (Entries.ofWrites [("id", .string "card"), ("tag", .string "card"),
        ("content", (Json.array [cards emptyCard count]).canonical)]) = _
      have htag : ¬"tag" < "id" := by decide
      have hcontent : "content" < "id" := by decide
      rw [hcanonical, cards]
      simp only [Entries.ofWrites, List.foldl, Entries.insert, htag, hcontent, if_true, if_false,
        String.reduceEq]

/-- There is no number in the cards that could come back as another one. -/
theorem readsBack_toJson_cards (count : Nat) : (ofNodes [cardNode count]).toJson.ReadsBack := by
  have hcard : (cardNode count).toJson.ReadsBack := by
    cases count with
    | zero =>
        rw [Node.toJson_eq]
        rfl
    | succ count =>
        have hempty : emptyCard.ReadsBack := rfl
        have hcontent := Json.readsBack_array (List.forall_mem_singleton.mpr
          (readsBack_cards hempty count))
        rw [toJson_cardNode_succ, canonical_toJson_cardNode]
        refine Json.readsBack_object ?_
        rw [List.forall_mem_cons, List.forall_mem_cons, List.forall_mem_singleton]
        exact ⟨rfl, rfl, hcontent⟩
  exact Json.readsBack_object (List.forall_mem_singleton.mpr
    (Json.readsBack_array (List.forall_mem_singleton.mpr hcard)))

/-- A schema of cards inside cards, the innermost one bare. -/
def cardsJson (count : Nat) : Json :=
  .object [("nodes", .array [cards bareCard count])]

def cardsText (count : Nat) : String :=
  (cardsJson count).pretty

theorem depth_cardsJson (count : Nat) : (cardsJson count).depth = 2 * count + 3 := by
  simp only [cardsJson, Json.depth, Json.depthMembers, Json.depthItems, depth_cards, bareCard]
  omega

theorem readsBack_cardsJson (count : Nat) : (cardsJson count).ReadsBack := by
  have hbare : bareCard.ReadsBack := rfl
  exact Json.readsBack_object (List.forall_mem_singleton.mpr (Json.readsBack_array
    (List.forall_mem_singleton.mpr (readsBack_cards hbare count))))

theorem keeps_cards (count : Nat) : Node.shape.Keeps (cards bareCard count) := by
  cases count with
  | zero =>
      refine .object ?_
      rw [List.forall_mem_cons, List.forall_mem_singleton]
      exact ⟨⟨.whole, rfl, Shape.keeps_whole _⟩, ⟨.whole, rfl, Shape.keeps_whole _⟩⟩
  | succ count =>
      refine .object ?_
      rw [List.forall_mem_cons, List.forall_mem_cons, List.forall_mem_singleton]
      exact ⟨⟨.whole, rfl, Shape.keeps_whole _⟩, ⟨.whole, rfl, Shape.keeps_whole _⟩,
        ⟨.whole, rfl, Shape.keeps_whole _⟩⟩

theorem keeps_cardsJson (count : Nat) : shape.Keeps (cardsJson count) := by
  refine .object (List.forall_mem_singleton.mpr ⟨.each Node.shape, rfl, .array fun _ => ?_⟩)
  exact List.forall_mem_singleton.mpr (keeps_cards count)

theorem decode_cardsJson (count : Nat) :
    decode .text (cardsJson count) = .ok (ofNodes [cardNode count]) := by
  have hnodes : (Fields.aliased ["nodes", "components"] (Decode.list Node.decode) []).Reads .text
      [("nodes", .array [cards bareCard count])] [cardNode count] := by
    have hlist : Decode.list Node.decode .text (.array [cards bareCard count]) =
        .ok [cardNode count] := by
      rw [Decode.list, Outcome.mapM_eq_ok_iff]
      exact .cons (decode_cards .text count) .nil
    have hplace : Fields.occurrences ["nodes", "components"]
        [("nodes", Json.array [cards bareCard count])] = [(0, .array [cards bareCard count])] := rfl
    simp only [Fields.Reads, Fields.aliased, Fields.field, hplace, hlist]
  have hschema := (show (Fields.omissible "title" Decode.string).Reads .text
      [("nodes", .array [cards bareCard count])] none from rfl).map Schema.mk
    |>.seq (show (Fields.omissible "description" Decode.string).Reads .text _ none from rfl)
    |>.seq hnodes
    |>.seq (show (Fields.omissible "initialValues" Decode.members).Reads .text _ none from rfl)
  simp only [Fields.Reads] at hschema
  simp only [decode, cardsJson, Decode.record, hschema]
  rfl

theorem ofText_cardsText {count : Nat} (hcount : 2 * count + 3 ≤ Decode.textDepth) :
    ofText (cardsText count) = .ok (ofNodes [cardNode count]) := by
  rw [ofText, cardsText, Decode.fromText_pretty (keeps_cardsJson count), readsBack_cardsJson,
    Option.elim_some, decode_cardsJson, depth_cardsJson, if_pos hcount]
  rfl

/-- The written cards nest one level deeper than the text. -/
theorem lt_depth_toJson_cards (count : Nat) :
    2 * count + 4 ≤ (ofNodes [cardNode count]).toJson.depth := by
  have hcanonical := Json.depth_canonical_le (cardNode count).toJson
  have hempty : emptyCard.depth = 2 := by decide
  rw [canonical_toJson_cardNode, depth_cards, hempty] at hcanonical
  simp only [toJson, ofNodes, optionalEntry, List.nil_append, List.append_nil, List.map_cons,
    List.map_nil, Json.depth, Json.depthMembers, Json.depthItems]
  omega

/-- With room for one more level the export is importable. -/
theorem ofText_text_of_ofText_cardsText :
    ofText (cardsText 61) = .ok (ofNodes [cardNode 61]) ∧
      ofText (ofNodes [cardNode 61]).text = .ok (ofNodes [cardNode 61]) := by
  have hread := ofText_cardsText (show 2 * 61 + 3 ≤ Decode.textDepth by decide)
  obtain ⟨value, hasked, -, -, hback⟩ := ofText_text_of_ofText hread
  rw [cardsText, Decode.asked?_pretty (keeps_cardsJson 61), depth_cardsJson,
    if_pos (by decide), readsBack_cardsJson] at hasked
  cases hasked
  exact ⟨hread, (hback (readsBack_toJson_cards 61)).1 (by rw [depth_cardsJson]; decide)⟩

/-- At the limit on nesting a text is read whose export is not, and it is not for a number. -/
theorem not_ofText_text :
    ofText (cardsText 62) = .ok (ofNodes [cardNode 62]) ∧
      (ofNodes [cardNode 62]).toJson.ReadsBack ∧
      ofText (ofNodes [cardNode 62]).text = .error .malformedText := by
  have hread := ofText_cardsText (show 2 * 62 + 3 ≤ Decode.textDepth by decide)
  have hdeep : ¬(ofNodes [cardNode 62]).toJson.depth ≤ Decode.textDepth := by
    have hlower := lt_depth_toJson_cards 62
    rw [Decode.textDepth]
    omega
  refine ⟨hread, readsBack_toJson_cards 62, ?_⟩
  rw [(obtained_of_ofText hread).isNormal.ofText_text, if_neg hdeep]

end Schema

end Forms
