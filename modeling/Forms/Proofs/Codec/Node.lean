import Forms.Node.Written
import Forms.Proofs.Codec.Condition
import Forms.Proofs.Codec.Layout

/-!
# Nodes in JSON

A node is taken apart into the members that all nodes have and those of its tag.  The two never
meet: no tag has a member named like one of the frame, but for `type`, which is kept beside a tag.
So a node that was read once is restored from its written form, whatever its tag is.
-/

namespace Forms

variable {Child Result : Type}

namespace Body

/-! ## Tags -/

/-- No kind of node goes by the tag. -/
def IsUnknown (tag : String) : Prop :=
  Input.fields? tag = none ∧ Display.fields? tag = none ∧ tag ∉ Layout.tags

theorem readKnown?_eq_none_iff (child : Decoder Child) (tag : String) (fields : Members) :
    readKnown? child tag fields = none ↔ IsUnknown tag := by
  rw [IsUnknown, ← Layout.fields?_eq_none_iff child tag, readKnown?]
  cases Input.fields? tag <;> cases Display.fields? tag <;> cases Layout.fields? child tag <;>
    simp

/-- Whatever stands beside a tag that is not known is kept. -/
theorem IsUnknown.ofMembers {tag : String} (h : IsUnknown tag) (child : Decoder Child)
    (members : Members) : ofMembers child tag members = .ok (.unknown tag members) := by
  rw [Body.ofMembers, (readKnown?_eq_none_iff child tag members).mpr h]

/-- What the members of a known tag are read to. -/
inductive ReadsKnown (child : Decoder Child) (tag : String) (members : Members) :
    Body Child → Prop where
  | field {fields : Fields Input} {input : Input} {props : Field}
      (hfields : Input.fields? tag = some fields) (hown : fields.Reads .value members input)
      (hshared : Field.fields.Reads .collected members props) :
      ReadsKnown child tag members (.field input props)
  | display {fields : Fields Display} {shown : Display} (hinput : Input.fields? tag = none)
      (hfields : Display.fields? tag = some fields) (hown : fields.Reads .value members shown) :
      ReadsKnown child tag members (.display shown)
  | container {fields : Fields (Layout Child)} {layout : Layout Child}
      (hinput : Input.fields? tag = none) (hshown : Display.fields? tag = none)
      (hfields : Layout.fields? child tag = some fields)
      (hown : fields.Reads .value members layout) :
      ReadsKnown child tag members (.container layout)

theorem readKnown?_eq_ok_iff {child : Decoder Child} {tag : String} {members : Members}
    {body : Body Child} :
    readKnown? child tag members = some (.ok body) ↔ ReadsKnown child tag members body := by
  constructor
  · intro hbody
    unfold readKnown? at hbody
    split at hbody <;> simp only [Option.some.injEq, Outcome.bind_eq_ok_iff, Outcome.map_eq_ok_iff,
      Ranked.result, Outcome.mapError_eq_ok_iff, reduceCtorEq] at hbody
    case h_1 hinput =>
      obtain ⟨input, hown, props, hshared, heq⟩ := hbody
      cases heq
      exact .field hinput hown hshared
    case h_2 hinput hshown =>
      obtain ⟨shown, hown, rfl⟩ := hbody
      exact .display hinput hshown hown
    case h_3 hinput hshown hlayout =>
      obtain ⟨layout, hown, rfl⟩ := hbody
      exact .container hinput hshown hlayout hown
  · intro hbody
    cases hbody with
    | field hfields hown hshared =>
        simp only [Fields.Reads] at hown hshared
        simp only [readKnown?, hfields, hown, hshared]
        rfl
    | display hinput hfields hown =>
        simp only [Fields.Reads] at hown
        simp only [readKnown?, hinput, hfields, hown]
        rfl
    | container hinput hshown hfields hown =>
        simp only [Fields.Reads] at hown
        simp only [readKnown?, hinput, hshown, hfields, hown]
        rfl

namespace ReadsKnown

variable {child : Decoder Child} {tag : String} {members : Members} {body : Body Child}

theorem ofMembers (h : ReadsKnown child tag members body) :
    ofMembers child tag members = .ok body := by
  rw [Body.ofMembers, readKnown?_eq_ok_iff.mpr h]

theorem map_ne_unknown (h : ReadsKnown child tag members body) (f : Child → Result)
    (other : String) (fields : Members) : body.map f ≠ .unknown other fields := by
  cases h <;> nofun

/-! The tag says which kind of body it is. -/

theorem of_input {fields : Fields Input} (h : ReadsKnown child tag members body)
    (hfields : Input.fields? tag = some fields) :
    ∃ input props, fields.Reads .value members input ∧
      Field.fields.Reads .collected members props ∧ body = .field input props := by
  cases h with
  | field hfields' hown hshared =>
      cases hfields.symm.trans hfields'
      exact ⟨_, _, hown, hshared, rfl⟩
  | display hinput | container hinput => cases hfields.symm.trans hinput

theorem of_display {fields : Fields Display} (h : ReadsKnown child tag members body)
    (hinput : Input.fields? tag = none) (hfields : Display.fields? tag = some fields) :
    ∃ shown, fields.Reads .value members shown ∧ body = .display shown := by
  cases h with
  | field hfields' => cases hinput.symm.trans hfields'
  | display _ hfields' hown =>
      cases hfields.symm.trans hfields'
      exact ⟨_, hown, rfl⟩
  | container _ hshown => cases hfields.symm.trans hshown

theorem of_layout {fields : Fields (Layout Child)} (h : ReadsKnown child tag members body)
    (hinput : Input.fields? tag = none) (hshown : Display.fields? tag = none)
    (hfields : Layout.fields? child tag = some fields) :
    ∃ layout, fields.Reads .value members layout ∧ body = .container layout := by
  cases h with
  | field hfields' => cases hinput.symm.trans hfields'
  | display _ hfields' => cases hshown.symm.trans hfields'
  | container _ _ hfields' hown =>
      cases hfields.symm.trans hfields'
      exact ⟨_, hown, rfl⟩

end ReadsKnown

/-- What a tag and its members are read to. -/
theorem ofMembers_eq_ok {child : Decoder Child} {tag : String} {members : Members}
    {body : Body Child} (hbody : ofMembers child tag members = .ok body) :
    ReadsKnown child tag members body ∨ IsUnknown tag ∧ body = .unknown tag members := by
  unfold ofMembers at hbody
  split at hbody
  · rename_i hread
    cases hbody
    exact Or.inl (readKnown?_eq_ok_iff.mp hread)
  · cases hbody
  · rename_i hnone
    cases hbody
    exact Or.inr ⟨(readKnown?_eq_none_iff child tag members).mp hnone, rfl⟩

/-- Nothing is read as of a known tag when the tag is not known. -/
theorem IsUnknown.not_readsKnown {child : Decoder Child} {tag : String} {members : Members}
    {body : Body Child} (h : IsUnknown tag) : ¬ ReadsKnown child tag members body := by
  intro hread
  have hnone := (readKnown?_eq_none_iff child tag members).mpr h
  rw [readKnown?_eq_ok_iff.mpr hread] at hnone
  cases hnone

/-! ## Members beside those of the frame -/

/-- Sorted members of which only `type`, and only as a text, is named like one of the frame. -/
structure Apart (members : Members) : Prop where
  sorted : (Json.object members).IsCanonical
  absent : ∀ key ∈ Node.frameKeys, key ≠ "type" → members.get? key = none
  legacy : ∃ legacyTag : Option String, members.get? "type" = legacyTag.map .string

theorem members_eq {body : Body Json} (hbody : ∀ tag fields, body ≠ .unknown tag fields) :
    body.members = Entries.ofWrites (Json.canonicalMembers body.entries) := by
  cases body with
  | field | display | container => rfl
  | unknown tag fields => exact absurd rfl (hbody tag fields)

/-- No known tag has a member named like one of the frame. -/
theorem get?_entries_of_mem_frameKeys {body : Body Json}
    (hbody : ∀ tag fields, body ≠ .unknown tag fields) {key : String}
    (hkey : key ∈ Node.frameKeys) :
    (Entries.ofWrites body.entries).get? key = none := by
  simp only [Node.frameKeys, List.mem_cons, List.not_mem_nil, or_false] at hkey
  cases body with
  | field input props =>
      rw [entries, Entries.get?_ofWrites_append, props.get?_entries_of_notMem]
      · rcases hkey with rfl | rfl | rfl | rfl | rfl | rfl | rfl <;> cases input <;>
          simp [Input.entries]
      · rcases hkey with rfl | rfl | rfl | rfl | rfl | rfl | rfl <;> simp [Field.keys]
  | display shown =>
      rcases hkey with rfl | rfl | rfl | rfl | rfl | rfl | rfl <;> cases shown <;>
        simp [entries, Display.entries]
  | container layout =>
      rcases hkey with rfl | rfl | rfl | rfl | rfl | rfl | rfl <;> cases layout <;>
        simp [entries, Layout.entries]
  | unknown tag fields => exact absurd rfl (hbody tag fields)

theorem apart_members {body : Body Json} (hbody : ∀ tag fields, body ≠ .unknown tag fields) :
    Apart body.members := by
  have habsent : ∀ key ∈ Node.frameKeys, body.members.get? key = none := by
    intro key hkey
    rw [members_eq hbody, Json.get?_ofWrites_canonicalMembers,
      get?_entries_of_mem_frameKeys hbody hkey, Option.map_none]
  refine ⟨?_, fun key hkey _ => habsent key hkey, ?_⟩
  · rw [members_eq hbody, ← Json.canonical_object]
    exact Json.isCanonical_canonical _
  · exact ⟨none, habsent "type" (by simp [Node.frameKeys])⟩

/-! ## Normal bodies -/

/-- What reading gives beside children. -/
def IsNormal : Body Child → Prop
  | .field input props => input.IsNormal ∧ props.IsNormal
  | .display shown => shown.IsNormal
  | .container layout => layout.IsNormal
  | .unknown tag fields => IsUnknown tag ∧ Apart fields

/-- Whatever the tag is, its members can be told from those of the frame. -/
theorem IsNormal.apart {body : Body Child} (h : body.IsNormal) (toJson : Child → Json) :
    Apart (body.map toJson).members := by
  cases body with
  | field | display | container => exact apart_members (by simp [map])
  | unknown tag fields => exact h.2

/-- The body is read from its members in their written form, when its children can be restored. -/
theorem IsNormal.ofMembers_members {body : Body Child} (h : body.IsNormal) {child : Decoder Child}
    {toJson : Child → Json} (hnull : ∀ held, toJson held ≠ .null)
    (hchildren : ∀ held ∈ body.children, child.Restores toJson held) :
    ofMembers child body.tag (body.map toJson).members = .ok body := by
  cases body with
  | field input props =>
      obtain ⟨hinput, hprops⟩ := h
      obtain ⟨fields, hfields, hreads⟩ := hinput.reads
      have hcarries := Json.carries_canonicalMembers (input.entries ++ props.entries)
      have hread := hreads.reads .value _ _ hcarries fun key hkey => by
        rw [Entries.get?_ofWrites_append, props.get?_entries_of_notMem hkey, Option.none_or]
      have hshared := hprops.reads .collected hcarries fun key hkey => by
        rw [Entries.get?_ofWrites_append, hreads.apart key hkey, Option.or_none]
      exact ReadsKnown.ofMembers (.field hfields hread hshared)
  | display shown =>
      obtain ⟨fields, hfields, hreads⟩ := Display.IsNormal.reads h
      have hread := hreads .value _ (Json.carries_canonicalMembers shown.entries)
      have hinput : Input.fields? shown.tag = none := by cases shown <;> rfl
      exact ReadsKnown.ofMembers (.display hinput hfields hread)
  | container layout =>
      obtain ⟨fields, hfields, hreads⟩ := Layout.IsNormal.reads h hnull hchildren
      have hread := hreads .value _ (Json.carries_canonicalMembers (layout.map toJson).entries)
      have hinput : Input.fields? layout.tag = none := by cases layout <;> rfl
      have hshown : Display.fields? layout.tag = none := by cases layout <;> rfl
      exact ReadsKnown.ofMembers (.container hinput hshown hfields hread)
  | unknown tag fields =>
      exact h.1.ofMembers child fields

theorem ReadsKnown.ensures {child : Decoder Child} {property : Child → Prop}
    (hchild : child.Ensures property) {tag : String} {members : Members} {body : Body Child}
    (hbody : ReadsKnown child tag members body) :
    body.IsNormal ∧ ∀ held ∈ body.children, property held := by
  cases hbody with
  | field hfields hown hshared =>
      refine ⟨⟨(Input.fields?_ensures hfields).byName _ _ _ hown,
        Field.fields_ensures.byName _ _ _ hshared⟩, ?_⟩
      simp [children, regions]
  | display _ hfields hown =>
      refine ⟨(Display.fields?_ensures hfields).byName _ _ _ hown, ?_⟩
      simp [children, regions]
  | container _ _ hfields hown =>
      exact (Layout.fields?_ensures hchild hfields).byName _ _ _ hown

theorem ofMembers_ensures {child : Decoder Child} {property : Child → Prop}
    (hchild : child.Ensures property) {tag : String} {members : Members} {body : Body Child}
    (hmembers : Apart members) (hbody : ofMembers child tag members = .ok body) :
    body.IsNormal ∧ ∀ held ∈ body.children, property held := by
  rcases ofMembers_eq_ok hbody with hknown | ⟨hunknown, rfl⟩
  · exact hknown.ensures hchild
  · refine ⟨⟨hunknown, hmembers⟩, ?_⟩
    simp [children, regions]

/-- How children are read shows in the members of a tag only. -/
theorem ofMembers_agree {depth : Nat} {first second : Decoder Child}
    (h : first.AgreeWithin depth second) (tag : String) {members : Members}
    (hmembers : ∀ member ∈ members, member.2.depth ≤ depth) :
    ofMembers first tag members = ofMembers second tag members := by
  have hknown : readKnown? first tag members = readKnown? second tag members := by
    simp only [readKnown?]
    have hlayout := Layout.fields?_agreeWithin h tag
    generalize Layout.fields? first tag = before, Layout.fields? second tag = after at hlayout
    cases hlayout with
    | some hagree =>
        cases Input.fields? tag <;> cases Display.fields? tag <;>
          simp only [hagree.byName .value members hmembers]
    | none => rfl
  rw [ofMembers, ofMembers, hknown]

end Body

namespace Node

/-! ## Taking a node apart -/

theorem openRecord_eq_ok_iff {origin : Origin} {value : Json} {frame : Frame}
    {rest : List (String × Json)} :
    Decode.openRecord "NodeRecord" frameKeys frameFields origin value = .ok (frame, rest) ↔
      ∃ entries, value = .object entries ∧ frameFields.Reads origin entries frame ∧
        rest = entries.filter fun entry => !frameKeys.contains entry.1 := by
  cases value with
  | object entries =>
      simp only [Decode.openRecord, Outcome.bind_eq_ok_iff, Ranked.result,
        Outcome.mapError_eq_ok_iff, Fields.Reads, Json.object.injEq, exists_eq_left',
        Except.ok.injEq, Prod.mk.injEq]
      constructor
      · rintro ⟨found, hfound, rfl, rfl⟩
        exact ⟨hfound, rfl⟩
      · rintro ⟨hfound, rfl⟩
        exact ⟨frame, hfound, rfl, rfl⟩
  | null | bool | number | string | array => simp [Decode.openRecord]

/-- The members of a tag are the ones set aside, and perhaps the older name of a tag. -/
theorem members_of_tagAndMembers {frame : Frame} {rest : List (String × Json)} {tag : String}
    {members : Members} (hmembers : tagAndMembers frame rest = .ok (tag, members)) :
    members = Entries.ofWrites (Json.canonicalMembers rest) ∨
      ∃ legacyTag, members =
        (Entries.ofWrites (Json.canonicalMembers rest)).insert "type" (.string legacyTag) := by
  simp only [tagAndMembers] at hmembers
  split at hmembers <;> cases hmembers
  · exact Or.inr ⟨_, rfl⟩
  · exact Or.inl rfl
  · exact Or.inl rfl

/-- The members of the tag are sorted and apart from those of the frame. -/
theorem apart_of_tagAndMembers {frame : Frame} {rest : List (String × Json)}
    (hrest : ∀ entry ∈ rest, entry.1 ∉ frameKeys) {tag : String} {members : Members}
    (hmembers : tagAndMembers frame rest = .ok (tag, members)) : Body.Apart members := by
  have hcanonical := Json.isCanonical_canonical (.object rest)
  rw [Json.canonical_object] at hcanonical
  have hnone : ∀ key ∈ frameKeys,
      (Entries.ofWrites (Json.canonicalMembers rest)).get? key = none := by
    intro key hkey
    rw [Json.get?_ofWrites_canonicalMembers, Option.map_eq_none_iff]
    by_contra hsome
    obtain ⟨value, hvalue⟩ := Option.ne_none_iff_exists'.mp hsome
    exact hrest _ (Entries.mem_of_get?_ofWrites hvalue) hkey
  have htype := hnone "type" (by simp [frameKeys])
  rcases members_of_tagAndMembers hmembers with rfl | ⟨legacyTag, rfl⟩
  · exact ⟨hcanonical, fun key hkey _ => hnone key hkey, none, htype⟩
  · refine ⟨hcanonical.insert "type" rfl, fun key hkey hne => ?_, some legacyTag, ?_⟩
    · rw [Entries.get?_insert, if_neg hne, hnone key hkey]
    · rw [Entries.get?_insert, if_pos rfl, Option.map_some]

/-- Setting members aside does not deepen them. -/
theorem depth_le_of_tagAndMembers {frame : Frame} {rest : List (String × Json)} {depth : Nat}
    (hrest : ∀ entry ∈ rest, entry.2.depth ≤ depth) {tag : String} {members : Members}
    (hmembers : tagAndMembers frame rest = .ok (tag, members)) :
    ∀ member ∈ members, member.2.depth ≤ depth := by
  have hsorted : ∀ member ∈ Entries.ofWrites (Json.canonicalMembers rest),
      member.2.depth ≤ depth := by
    have hle := Json.depth_canonical_le (.object rest)
    rw [Json.canonical_object, Json.depth, Json.depth, Nat.succ_le_succ_iff] at hle
    exact Json.depthMembers_le_iff.mp (hle.trans (Json.depthMembers_le_iff.mpr hrest))
  intro member hmember
  rcases members_of_tagAndMembers hmembers with rfl | ⟨legacyTag, rfl⟩
  · exact hsorted member hmember
  · rcases Entries.eq_or_mem_of_mem_insert hmember with rfl | hold
    · exact Nat.zero_le _
    · exact hsorted member hold

/-- A node, given how a child is read. -/
def decodeOver (child : Decoder Node) : Decoder Node := fun origin value => do
  let (frame, rest) ← Decode.openRecord "NodeRecord" frameKeys frameFields origin value
  (ofFrame child frame rest).mapError .refused

theorem decodeOver_agreeWithin {depth : Nat} {first second : Decoder Node}
    (h : first.AgreeWithin depth second) :
    Decoder.AgreeWithin (depth + 1) (decodeOver first) (decodeOver second) := by
  intro origin value hvalue
  simp only [decodeOver]
  cases hopen : Decode.openRecord "NodeRecord" frameKeys frameFields origin value with
  | error error => rfl
  | ok opened =>
      obtain ⟨frame, rest⟩ := opened
      obtain ⟨entries, rfl, -, rfl⟩ := openRecord_eq_ok_iff.mp hopen
      simp only [bind, Except.bind, ofFrame]
      split
      · rfl
      · rename_i hmembers
        rw [Body.ofMembers_agree h]
        refine depth_le_of_tagAndMembers (fun entry hentry => ?_) hmembers
        exact Nat.lt_succ_iff.mp
          ((Json.depth_lt_of_mem_object (List.mem_of_mem_filter hentry)).trans_le hvalue)

theorem decodeWithin_succ (depth : Nat) :
    decodeWithin (depth + 1) = decodeOver (decodeWithin depth) := by
  funext origin value
  rw [decodeWithin]
  rfl

/-- The bound on the depth of a node never shows. -/
theorem decode_eq : decode = decodeOver decode := by
  refine Decoder.AgreeWithin.eq_layer ?_ decodeWithin_succ fun depth first second =>
    decodeOver_agreeWithin
  intro child origin value hvalue
  cases value with
  | null | bool | number | string => rfl
  | array | object => simp [Json.depth] at hvalue

/-! ## Normal nodes -/

/-- What reading gives: values of any shape are sorted and never null, and members of the tag are
apart from the others, here and in all descendants. -/
inductive IsNormal : Node → Prop where
  | mk {node : Node} (hvisible : ∀ condition ∈ node.visibleIf, condition.IsNormal)
      (hstyle : Json.Settled node.style) (hclass : Json.Settled node.className)
      (hconfig : Json.Settled node.styleConfig) (hbody : node.body.IsNormal)
      (hchildren : ∀ child ∈ node.body.children, IsNormal child) : IsNormal node

/-- What reading gives of the members that all nodes have. -/
structure Frame.IsNormal (frame : Frame) : Prop where
  visibleIf : ∀ condition ∈ frame.visibleIf, condition.IsNormal
  style : Json.Settled frame.style
  className : Json.Settled frame.className
  styleConfig : Json.Settled frame.styleConfig

theorem frameFields_ensures : frameFields.Ensures Frame.IsNormal := by
  have hvisible : (Fields.optional "visibleIf" Condition.decode).Ensures
      fun visibleIf => ∀ condition ∈ visibleIf, condition.IsNormal :=
    .optional Condition.decode_ensures.optional _ (by simp)
  refine (Fields.Ensures.trivial _).map ?_ |>.seq (.trivial _) |>.seq (.trivial _)
    |>.seq hvisible |>.seq (.optional_any _) |>.seq (.optional_any _) |>.seq (.optional_any _)
  intro _ _ _ _ _ _ visibleIf hvisible style hstyle className hclass styleConfig hconfig
  exact ⟨hvisible, hstyle, hclass, hconfig⟩

theorem decodeWithin_ensures (depth : Nat) : Decoder.Ensures (decodeWithin depth) IsNormal := by
  induction depth with
  | zero =>
      intro origin value node hnode
      simp [decodeWithin] at hnode
  | succ depth ih =>
      intro origin value node hnode
      simp only [decodeWithin_succ, decodeOver, Outcome.bind_eq_ok_iff,
        Outcome.mapError_eq_ok_iff, ofFrame] at hnode
      obtain ⟨⟨frame, rest⟩, hopen, ⟨tag, members⟩, hmembers, body, hbody, heq⟩ := hnode
      cases heq
      obtain ⟨entries, rfl, hframe, rfl⟩ := openRecord_eq_ok_iff.mp hopen
      have hnormal := frameFields_ensures.byName _ _ _ hframe
      have hapart := apart_of_tagAndMembers (fun entry hentry => by
        simpa using List.of_mem_filter hentry) hmembers
      obtain ⟨hbody, hchildren⟩ := Body.ofMembers_ensures ih hapart hbody
      exact .mk hnormal.visibleIf hnormal.style hnormal.className hnormal.styleConfig hbody
        hchildren

theorem decode_ensures : Decoder.Ensures decode IsNormal :=
  fun origin value => decodeWithin_ensures value.depth origin value

/-! ## Reading what was written -/

theorem toJson_eq (node : Node) : node.toJson = node.written (node.body.map toJson) :=
  fold_eq written node

theorem toJson_ne_null (node : Node) : node.toJson ≠ .null := by
  rw [toJson_eq]
  exact nofun

/-- The members of a node in the order in which they are written. -/
def entries (node : Node) : List (String × Json) :=
  [("id", .string node.id.text), ("tag", .string node.tag)] ++ node.tagMembers ++ node.frameEntries

/-- The frame of a written node whose members may hold the older name of a tag. -/
def frame (node : Node) (legacyTag : Option String) : Frame :=
  ⟨node.id, some node.tag, legacyTag, node.visibleIf, node.style, node.className, node.styleConfig⟩

theorem get?_entries (node : Node) (hsorted : node.tagMembers.Ascending) (key : String) :
    (Entries.ofWrites node.entries).get? key =
      ((Entries.ofWrites node.frameEntries).get? key).or ((node.tagMembers.get? key).or
        ((Entries.ofWrites [("id", Json.string node.id.text), ("tag", .string node.tag)]).get?
          key)) := by
  rw [entries, Entries.get?_ofWrites_append, Entries.get?_ofWrites_append, hsorted.ofWrites_eq]

theorem get?_frameEntries_of_notMem (node : Node) {key : String} (hkey : key ∉ frameKeys) :
    (Entries.ofWrites node.frameEntries).get? key = none := by
  simp only [frameKeys, List.mem_cons, List.not_mem_nil, or_false, not_or] at hkey
  simp [frameEntries, hkey]

/-- The members of a node that are none of its frame. -/
def setAside (found : List (String × Json)) : Members :=
  Entries.ofWrites (Json.canonicalMembers (found.filter fun entry => !frameKeys.contains entry.1))

section

variable {node : Node} (hapart : Body.Apart node.tagMembers) {legacyTag : Option String}
variable (hlegacy : node.tagMembers.get? "type" = legacyTag.map .string)
variable {found : List (String × Json)} (hcarries : Json.Carries found node.entries)

include hapart hlegacy hcarries

/-- The frame is found among all members. -/
theorem frame_reads (hframe : (node.frame legacyTag).IsNormal) (origin : Origin) :
    frameFields.Reads origin found (node.frame legacyTag) := by
  have hsorted := ((Json.isCanonical_object_iff _).mp hapart.sorted).1
  have habsent := hapart.absent
  simp only [frameKeys, List.mem_cons, List.not_mem_nil, or_false, forall_eq_or_imp, forall_eq,
    ne_eq, String.reduceEq, not_false_eq_true, forall_const, not_true_eq_false, false_implies,
    true_and] at habsent
  refine (Fields.Reads.required hcarries ?_ (.nonBlank node.id)).map Frame.mk
    |>.seq (.optional_string hcarries ?_)
    |>.seq (.optional_string hcarries ?_)
    |>.seq (.optional hcarries ?_ fun condition hcondition =>
      ⟨(hframe.visibleIf condition hcondition).restores, by cases condition; nofun⟩)
    |>.seq (.optional_any hcarries ?_ hframe.style)
    |>.seq (.optional_any hcarries ?_ hframe.className)
    |>.seq (.optional_any hcarries ?_ hframe.styleConfig)
  all_goals
    rw [get?_entries node hsorted]
    simp [frameEntries, habsent, hlegacy, frame]

omit hlegacy in
/-- What was set aside, key by key. -/
theorem get?_setAside (key : String) :
    (setAside found).get? key = if key ∈ frameKeys then none else node.tagMembers.get? key := by
  obtain ⟨hsorted, hinside⟩ := (Json.isCanonical_object_iff _).mp hapart.sorted
  have hdistinct : ((found.filter fun entry => !frameKeys.contains entry.1).map Prod.fst).Nodup :=
    hcarries.distinct.sublist (List.filter_sublist.map _)
  rw [setAside, Json.get?_ofWrites_canonicalMembers, Entries.get?_ofWrites_of_nodup hdistinct,
    Entries.get?_filter_key fun key => !frameKeys.contains key]
  by_cases hkey : key ∈ frameKeys
  · simp [hkey]
  · have hown : (Entries.ofWrites
        [("id", Json.string node.id.text), ("tag", .string node.tag)]).get? key = none := by
      simp only [frameKeys, List.mem_cons, List.not_mem_nil, or_false, not_or] at hkey
      simp [hkey]
    rw [if_pos (by simpa using hkey), if_neg hkey, hcarries.get?_map_canonical,
      get?_entries node hsorted, get?_frameEntries_of_notMem node hkey, hown, Option.none_or,
      Option.or_none]
    cases hget : node.tagMembers.get? key with
    | none => rfl
    | some value => exact congrArg some (hinside _ (Entries.mem_of_get?_eq_some hget))

/-- Outside the frame there is what was written of the tag, and nothing else. -/
theorem tagAndMembers_frame :
    tagAndMembers (node.frame legacyTag) (found.filter fun entry => !frameKeys.contains entry.1) =
      .ok (node.tag, node.tagMembers) := by
  have hsorted := ((Json.isCanonical_object_iff _).mp hapart.sorted).1
  have haside : (setAside found).Ascending := Entries.ascending_ofWrites _
  have hothers : ∀ key, key ≠ "type" → (setAside found).get? key = node.tagMembers.get? key := by
    intro key hkey
    rw [get?_setAside hapart hcarries]
    split
    · rename_i hframe
      exact (hapart.absent key hframe hkey).symm
    · rfl
  cases legacyTag with
  | none =>
      have hsame : setAside found = node.tagMembers := by
        apply haside.ext hsorted
        intro key
        by_cases hkey : key = "type"
        · rw [hkey, hlegacy, get?_setAside hapart hcarries, if_pos (by simp [frameKeys])]
          rfl
        · exact hothers key hkey
      exact congrArg (fun members => Except.ok (node.tag, members)) hsame
  | some legacyTag =>
      have hsame : (setAside found).insert "type" (.string legacyTag) = node.tagMembers := by
        apply (Entries.ascending_insert haside _ _).ext hsorted
        intro key
        rw [Entries.get?_insert]
        split
        · rename_i hkey
          rw [hkey, hlegacy]
          rfl
        · rename_i hkey
          exact hothers key hkey
      exact congrArg (fun members => Except.ok (node.tag, members)) hsame

end

theorem IsNormal.restores {node : Node} (h : node.IsNormal) :
    Decoder.Restores decode toJson node := by
  induction h with
  | @mk node hvisible hstyle hclass hconfig hbody hchildren ih =>
      rw [decode_eq]
      intro origin found hfound
      rw [toJson_eq] at hfound
      obtain ⟨members, rfl, hcarries⟩ := hfound.object
      have hapart : Body.Apart node.tagMembers := hbody.apart toJson
      obtain ⟨legacyTag, hlegacy⟩ := hapart.legacy
      have hframe := frame_reads hapart hlegacy hcarries ⟨hvisible, hstyle, hclass, hconfig⟩ origin
      have hopen := openRecord_eq_ok_iff.mpr ⟨members, rfl, hframe, rfl⟩
      have htag := tagAndMembers_frame hapart hlegacy hcarries
      have hmembers := hbody.ofMembers_members toJson_ne_null ih
      rw [decodeOver, hopen]
      simp only [bind, Except.bind, ofFrame, htag, tag, tagMembers, hmembers]
      cases node
      rfl

end Node

end Forms
