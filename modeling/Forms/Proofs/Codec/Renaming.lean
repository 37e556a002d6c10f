import Forms.Proofs.Codec.Members
import Forms.Proofs.Reading.Respelling

/-!
# The older name of a tag

The tag of a node may stand under the older name `type`, and the nodes inside a container may be
written either way.  Two forms of one node differ in nothing else, and they are read to the same
node: the frame takes the tag from either name, and the regions of the container follow by induction
on how deep the nodes stand.
-/

namespace Forms

variable {Child : Type} {child : Decoder Child} {related : Json → Json → Prop}

/-! ## Regions of containers -/

namespace Section

/-- What the members of a section are related by: its nodes stand under `content`. -/
def MemberRelated (related : Json → Json → Prop) (key : String) : Json → Json → Prop :=
  if key = "content" then Json.ItemsRelated related else Eq

/-- Two forms of one section, with its nodes by name or by position. -/
def FormRelated (related : Json → Json → Prop) (before after : Json) : Prop :=
  before = after ∨
    (∃ members others, before = .object members ∧ after = .object others ∧
      Entries.Related (MemberRelated related) members others) ∨
    ∃ id heading content changed rest, before = .array (id :: heading :: content :: rest) ∧
      after = .array (id :: heading :: changed :: rest) ∧ Json.ItemsRelated related content changed

theorem sameForm_memberRelated (h : Json.SameForm related) (key : String) :
    Json.SameForm (MemberRelated related key) := by
  rw [MemberRelated]
  split
  · exact h.items
  · exact .eq

theorem sameForm_formRelated (h : Json.SameForm related) : Json.SameForm (FormRelated related) where
  canonical := by
    rintro before after (rfl | ⟨members, others, rfl, rfl, hmembers⟩ |
      ⟨id, heading, content, changed, rest, rfl, rfl, hcontent⟩)
    · exact .inl rfl
    · rw [Json.canonical_object, Json.canonical_object]
      exact .inr (.inl ⟨_, _, rfl, rfl, hmembers.canonical (sameForm_memberRelated h)⟩)
    · rw [Json.canonical_array, Json.canonical_array]
      exact .inr (.inr ⟨_, _, _, _, _, rfl, rfl, h.items.canonical _ _ hcontent⟩)
  depth := by
    rintro before after (rfl | ⟨members, others, rfl, rfl, hmembers⟩ |
      ⟨id, heading, content, changed, rest, rfl, rfl, hcontent⟩)
    · rfl
    · rw [Json.depth, Json.depth, hmembers.depth_eq (sameForm_memberRelated h)]
    · simp only [Json.depth, Json.depthItems, h.items.depth _ _ hcontent]
  null := by
    rintro before after (rfl | ⟨members, others, rfl, rfl, -⟩ | ⟨_, _, _, _, _, rfl, rfl, -⟩)
    · rfl
    · simp
    · simp

/-- A section is read from an array in the order of its record. -/
theorem decode_array_eq_ok_iff {Extras : Type} {extras : Fields Extras} {name headingKey : String}
    {origin : Origin} {id heading content : Json} {rest : List Json}
    {part : Section Extras Child} :
    decode name headingKey extras child origin (.array (id :: heading :: content :: rest)) =
        .ok part ↔
      Decode.string origin id = .ok part.id ∧ Decode.string origin heading = .ok part.heading ∧
        Decode.list child origin content = .ok part.content ∧
        extras.byPosition origin 3 rest = .ok (part.extras, []) := by
  simp only [decode, Decode.record_array_eq_ok_iff, Fields.byPosition_seq_iff,
    Fields.byPosition_map_iff, Fields.required, Fields.defaulting,
    Fields.byPosition_field_cons_iff]
  constructor
  · rintro ⟨_, _, ⟨_, _, ⟨_, _, ⟨_, ⟨hid, rfl⟩, rfl⟩, _, hsecond, rfl⟩, _, hthird, rfl⟩, _,
      hextras, rfl⟩
    obtain ⟨hheading, rfl⟩ := Fields.byPosition_field_cons_iff.mp hsecond
    obtain ⟨hcontent, rfl⟩ := Fields.byPosition_field_cons_iff.mp hthird
    exact ⟨hid, hheading, hcontent, hextras⟩
  · rintro ⟨hid, hheading, hcontent, hextras⟩
    exact ⟨_, _, ⟨_, _, ⟨_, _, ⟨_, ⟨hid, rfl⟩, rfl⟩, _,
      Fields.byPosition_field_cons_iff.mpr ⟨hheading, rfl⟩, rfl⟩, _,
      Fields.byPosition_field_cons_iff.mpr ⟨hcontent, rfl⟩, rfl⟩, _, hextras, rfl⟩

theorem decode_follows {Extras : Type} {extras : Fields Extras} (name : String)
    (headingKey : String) (hheading : headingKey ≠ "content") (hchild : child.Follows related)
    (hextras : extras.Follows (MemberRelated related)) :
    (decode name headingKey extras child).Follows (FormRelated related) := by
  have hid : MemberRelated related "id" = Eq := if_neg (by decide)
  have hown : MemberRelated related headingKey = Eq := if_neg hheading
  have hcontent : MemberRelated related "content" = Json.ItemsRelated related := if_pos rfl
  rintro origin before after part (rfl | ⟨members, others, rfl, rfl, hmembers⟩ |
    ⟨id, heading, content, changed, rest, rfl, rfl, hchanged⟩)
  · rfl
  · rw [decode, Decode.record_object_eq_ok_iff, Decode.record_object_eq_ok_iff]
    refine Fields.Follows.seq (.seq (.seq (.map (.field_eq hid) _) (.field_eq hown)) ?_)
      hextras origin members others part hmembers
    exact .field (hcontent ▸ hchild.list)
  · rw [decode_array_eq_ok_iff, decode_array_eq_ok_iff,
      hchild.list origin content changed part.content hchanged]

/-! What a section has beside its nodes stands under other names. -/

theorem tabExtras_follows : TabExtras.fields.Follows (MemberRelated related) :=
  .seq (.map (.field_eq (if_neg (by decide))) _) (.field_eq (if_neg (by decide)))

theorem stepExtras_follows : StepExtras.fields.Follows (MemberRelated related) :=
  .seq (.map (.field_eq (if_neg (by decide))) _) (.field_eq (if_neg (by decide)))

theorem panelExtras_follows : PanelExtras.fields.Follows (MemberRelated related) :=
  .map (.field_eq (if_neg (by decide))) _

end Section

namespace Layout

/-- What the members of a container of a tag are related by: the ones that lead to its regions hold
a node, a list of nodes or a list of sections. -/
def MemberRelated (related : Json → Json → Prop) (tag key : String) : Json → Json → Prop :=
  match tag, key with
  | "tabs", "tabs" | "stepper", "steps" | "accordion", "panels" =>
    Json.ItemsRelated (Section.FormRelated related)
  | "card", "header" | "card", "footer" | "modal", "trigger" | "tooltip", "children" => related
  | "card", "content" | "modal", "content" | "grid", "children" => Json.ItemsRelated related
  | _, _ => Eq

/-- The tags of containers are those of no other kind of node. -/
theorem apart_of_mem_tags {tag : String} (htag : tag ∈ tags) :
    Input.fields? tag = none ∧ Display.fields? tag = none := by
  simp only [tags, List.mem_cons, List.not_mem_nil, or_false] at htag
  rcases htag with rfl | rfl | rfl | rfl | rfl | rfl | rfl <;> exact ⟨rfl, rfl⟩

theorem sameForm_memberRelated (h : Json.SameForm related) (tag key : String) :
    Json.SameForm (MemberRelated related tag key) := by
  unfold MemberRelated
  split
  all_goals first
    | exact (Section.sameForm_formRelated h).items
    | exact h
    | exact h.items
    | exact .eq

theorem memberRelated_of_notMem {tag : String} (htag : tag ∉ tags) (key : String) :
    MemberRelated related tag key = Eq := by
  unfold MemberRelated
  split <;> first | rfl | simp [tags] at htag

theorem memberRelated_of_mem_frameKeys {key : String} (hkey : key ∈ Node.frameKeys)
    (tag : String) : MemberRelated related tag key = Eq := by
  unfold MemberRelated
  split <;> first | rfl | simp [Node.frameKeys] at hkey

theorem fields?_follows (hchild : child.Follows related) (hform : Json.SameForm related)
    {tag : String} {fields : Fields (Layout Child)} (hfields : fields? child tag = some fields) :
    fields.Follows (MemberRelated related tag) := by
  have hoptional := hchild.optional hform.null
  unfold fields? at hfields
  -- One case for each tag, in the order in which `fields?` has them.
  split at hfields <;> cases hfields
  case h_1 =>
    have hsections := Section.decode_follows "TabItem" "label" (by decide) hchild
      Section.tabExtras_follows
    exact .seq (.map (.field hsections.list) _) (.field_eq rfl)
  case h_2 =>
    have hsteps := Section.decode_follows "StepItem" "label" (by decide) hchild
      Section.stepExtras_follows
    exact .seq (.seq (.map (.field hsteps.list) _) (.field_eq rfl)) (.field_eq rfl)
  case h_3 =>
    have hpanels := Section.decode_follows "AccordionPanel" "title" (by decide)
      hchild Section.panelExtras_follows
    exact .seq (.seq (.map (.field hpanels.list) _) (.field_eq rfl)) (.field_eq rfl)
  case h_4 =>
    exact .seq (.seq (.seq (.map (.field hoptional) _) (.field hchild.list))
      (.field hoptional)) (.field_eq rfl)
  case h_5 =>
    exact .seq (.seq (.seq (.seq (.map (.field hchild) _) (.field_eq rfl))
      (.field hchild.list)) (.field_eq rfl)) (.field_eq rfl)
  case h_6 =>
    exact .seq (.seq (.map (.field_eq rfl) _) (.field_eq rfl)) (.field hchild.list)
  case h_7 =>
    exact .seq (.seq (.seq (.map (.field_eq rfl) _) (.field hchild)) (.field_eq rfl))
      (.field_eq rfl)

end Layout

/-! ## Bodies -/

namespace Body

/-- The members of a container are read to its layout. -/
theorem ofMembers_eq_ok_iff_of_layout {tag : String} {fields : Fields (Layout Child)}
    (hfields : Layout.fields? child tag = some fields) {members : Members} {body : Body Child} :
    ofMembers child tag members = .ok body ↔
      ∃ layout, fields.Reads .value members layout ∧ body = .container layout := by
  have htag : tag ∈ Layout.tags := by
    by_contra hnone
    cases hfields.symm.trans ((Layout.fields?_eq_none_iff child tag).mpr hnone)
  obtain ⟨hinput, hshown⟩ := Layout.apart_of_mem_tags htag
  constructor
  · intro hbody
    rcases ofMembers_eq_ok hbody with hknown | ⟨hunknown, -⟩
    · exact hknown.of_layout hinput hshown hfields
    · exact absurd htag hunknown.2.2
  · rintro ⟨layout, hown, rfl⟩
    exact (ReadsKnown.container hinput hshown hfields hown).ofMembers

/-- Sorted members of a tag that are related are read to the same body. -/
theorem ofMembers_follows (hchild : child.Follows related) (hform : Json.SameForm related)
    {tag : String} {members others : Members} (hmembers : members.Ascending)
    (hothers : others.Ascending)
    (hrelated : Entries.Related (Layout.MemberRelated related tag) members others)
    (body : Body Child) :
    ofMembers child tag members = .ok body ↔ ofMembers child tag others = .ok body := by
  cases hlayout : Layout.fields? child tag with
  | none =>
      have htag := (Layout.fields?_eq_none_iff child tag).mp hlayout
      rw [funext (Layout.memberRelated_of_notMem htag)] at hrelated
      rw [hrelated.eq_of_ascending hmembers hothers]
  | some fields =>
      have hfollows := Layout.fields?_follows hchild hform hlayout
      rw [ofMembers_eq_ok_iff_of_layout hlayout, ofMembers_eq_ok_iff_of_layout hlayout]
      exact exists_congr fun layout =>
        and_congr_left' (hfollows .value members others layout hrelated)

end Body

/-! ## Nodes -/

namespace Entries

/-- The text that stands last under a key. -/
def textAt? (entries : List (String × Json)) (key : String) : Option String :=
  match (valuesAt entries key).getLast? with
  | some (.string text) => some text
  | _ => none

variable {entries : List (String × Json)} {key : String}

theorem textAt?_of_unused (hunused : valuesAt entries key = []) : textAt? entries key = none := by
  rw [textAt?, hunused]
  rfl

theorem textAt?_canonicalMembers :
    textAt? (ofWrites (Json.canonicalMembers entries)) key = textAt? entries key := by
  rw [textAt?, textAt?, valuesAt_canonicalMembers]
  cases (valuesAt entries key).getLast? with
  | none => rfl
  | some value => cases value <;> rfl

/-- An optional text that is read is the text that stands there. -/
theorem textAt?_of_reads {origin : Origin} {text : Option String}
    (hread : (Fields.optional key Decode.string).Reads origin entries text) :
    textAt? entries key = text := by
  rw [Fields.optional, Fields.reads_field_iff_valuesAt] at hread
  rw [textAt?]
  generalize valuesAt entries key = values at hread ⊢
  rcases values with - | ⟨value, - | ⟨again, rest⟩⟩
  · exact Option.some.inj hread
  · cases value with
    | null | string => exact Except.ok.inj hread
    | bool | number | array | object => cases hread
  · cases hread

end Entries

namespace Node

/-- The tag that the members name, under the older name when there is no other. -/
def namedTag? (members : List (String × Json)) : Option String :=
  (Entries.textAt? members "tag").or (Entries.textAt? members "type")

/-- What the members of a node of a tag are related by. -/
def MemberRelated (related : Json → Json → Prop) (tag : Option String) :
    String → Json → Json → Prop :=
  tag.elim (fun _ => Eq) (Layout.MemberRelated related)

/-- Two forms of one node: the tag may have moved to its other name, and the nodes in the regions of
a container are related. -/
def RenamedOver (related : Json → Json → Prop) (before after : Json) : Prop :=
  before = after ∨ ∃ members renamed others, before = .object members ∧ after = .object others ∧
    Entries.Respelled "tag" "type" members renamed ∧
    Entries.Related (MemberRelated related (namedTag? members)) renamed others

/-- Two forms of one node of which tags have moved to their other name, at most this many levels
down. -/
def RenamedWithin : Nat → Json → Json → Prop
  | 0 => Eq
  | depth + 1 => RenamedOver (RenamedWithin depth)

/-! ### Forms of one node -/

theorem sameForm_memberRelated (h : Json.SameForm related) (tag : Option String) (key : String) :
    Json.SameForm (MemberRelated related tag key) := by
  cases tag with
  | none => exact .eq
  | some tag => exact Layout.sameForm_memberRelated h tag key

theorem memberRelated_of_mem_frameKeys {key : String} (hkey : key ∈ frameKeys)
    (tag : Option String) : MemberRelated related tag key = Eq := by
  cases tag with
  | none => rfl
  | some tag => exact Layout.memberRelated_of_mem_frameKeys hkey tag

theorem namedTag?_canonicalMembers (members : List (String × Json)) :
    namedTag? (Entries.ofWrites (Json.canonicalMembers members)) = namedTag? members := by
  rw [namedTag?, namedTag?, Entries.textAt?_canonicalMembers, Entries.textAt?_canonicalMembers]

theorem sameForm_renamedOver (h : Json.SameForm related) : Json.SameForm (RenamedOver related) where
  canonical := by
    rintro before after (rfl | ⟨members, renamed, others, rfl, rfl, hspelled, hrelated⟩)
    · exact .inl rfl
    · obtain ⟨sorted, hsorted, hsame⟩ := hspelled.canonical
      rw [Json.canonical_object, Json.canonical_object]
      refine .inr ⟨_, sorted, _, rfl, rfl, hsorted, fun key => ?_⟩
      rw [namedTag?_canonicalMembers, hsame]
      exact hrelated.canonical (sameForm_memberRelated h _) key
  depth := by
    rintro before after (rfl | ⟨members, renamed, others, rfl, rfl, hspelled, hrelated⟩)
    · rfl
    · rw [Json.depth, Json.depth, ← hrelated.depth_eq (sameForm_memberRelated h _),
        hspelled.depth_eq]
  null := by
    rintro before after (rfl | ⟨members, renamed, others, rfl, rfl, -⟩)
    · rfl
    · simp

theorem sameForm_renamedWithin (depth : Nat) : Json.SameForm (RenamedWithin depth) := by
  induction depth with
  | zero => exact .eq
  | succ depth ih => exact sameForm_renamedOver ih

/-! ### The frame -/

/-- The members of the tag.  Beside a tag the older name is a member like any other. -/
def Frame.withOlderName (frame : Frame) (aside : Members) : Members :=
  match frame.tag, frame.legacyTag with
  | some _, some legacyTag => aside.insert "type" (.string legacyTag)
  | _, _ => aside

theorem tagAndMembers_eq_ok_iff {frame : Frame} {rest : List (String × Json)} {tag : String}
    {members : Members} :
    tagAndMembers frame rest = .ok (tag, members) ↔
      frame.tag.or frame.legacyTag = some tag ∧
        frame.withOlderName (Entries.ofWrites (Json.canonicalMembers rest)) = members := by
  cases htag : frame.tag <;> cases hlegacy : frame.legacyTag <;>
    simp [tagAndMembers, Frame.withOlderName, htag, hlegacy]

/-- A node is read when its frame is, and its body from the members that were set aside. -/
theorem decode_object_eq_ok_iff {origin : Origin} {found : List (String × Json)} {node : Node} :
    decode origin (.object found) = .ok node ↔
      ∃ frame, frameFields.Reads origin found frame ∧
        ∃ tag, frame.tag.or frame.legacyTag = some tag ∧
          ∃ body, Body.ofMembers decode tag (frame.withOlderName (setAside found)) = .ok body ∧
            node = ⟨frame.id, frame.visibleIf, frame.style, frame.className, frame.styleConfig,
              body⟩ := by
  constructor
  · intro hread
    obtain ⟨frame, tag, members, hframe, hmembers, hbody, hid, hvisible, hstyle, hclass, hconfig⟩ :=
      decode_eq_ok hread
    obtain ⟨htag, rfl⟩ := tagAndMembers_eq_ok_iff.mp hmembers
    refine ⟨frame, hframe, tag, htag, node.body, hbody, ?_⟩
    rw [← hid, ← hvisible, ← hstyle, ← hclass, ← hconfig]
    cases node
    rfl
  · rintro ⟨frame, hframe, tag, htag, body, hbody, rfl⟩
    exact decode_of_frame hframe (tagAndMembers_eq_ok_iff.mpr ⟨htag, rfl⟩) hbody

theorem namedTag?_of_reads {origin : Origin} {found : List (String × Json)} {frame : Frame}
    (hframe : frameFields.Reads origin found frame) :
    namedTag? found = frame.tag.or frame.legacyTag := by
  obtain ⟨htag, hlegacy⟩ := tags_read hframe
  rw [namedTag?, Entries.textAt?_of_reads htag, Entries.textAt?_of_reads hlegacy]

/-! ### The tag under its other name -/

section

variable {members : List (String × Json)}
variable (hunused : Entries.valuesAt members "tag" = [] ∨ Entries.valuesAt members "type" = [])

include hunused

theorem namedTag?_exchange :
    namedTag? (Entries.exchange "tag" "type" members) = namedTag? members := by
  simp only [namedTag?, Entries.textAt?, Entries.valuesAt_exchange, Equiv.swap_apply_left,
    Equiv.swap_apply_right]
  rcases hunused with hnone | hnone <;> simp [hnone]

/-- A node is read when its tag is moved to the other name. -/
theorem decode_exchange {origin : Origin} {node : Node}
    (hread : decode origin (.object members) = .ok node) :
    decode origin (.object (Entries.exchange "tag" "type" members)) = .ok node := by
  obtain ⟨frame, hframe, tag, htags, body, hbody, rfl⟩ := decode_object_eq_ok_iff.mp hread
  have hone : frame.tag = none ∨ frame.legacyTag = none := by
    obtain ⟨htag, hlegacy⟩ := tags_read hframe
    rw [← Entries.textAt?_of_reads htag, ← Entries.textAt?_of_reads hlegacy]
    exact hunused.imp Entries.textAt?_of_unused Entries.textAt?_of_unused
  have hmoved : frameFields.Reads origin (Entries.exchange "tag" "type" members)
      { frame with tag := frame.legacyTag, legacyTag := frame.tag } := by
    obtain ⟨hid, htag, hlegacy, hothers⟩ := frameFields_reads_iff.mp hframe
    rw [frameFields_reads_iff]
    simp only [Fields.required, Fields.optional, Fields.reads_exchange_iff, Equiv.swap_apply_left,
      Equiv.swap_apply_right]
    repeat rw [Equiv.swap_apply_of_ne_of_ne (by decide) (by decide)]
    exact ⟨hid, hlegacy, htag, hothers⟩
  have haside : setAside (Entries.exchange "tag" "type" members) = setAside members := by
    rw [setAside, Entries.filter_exchange (fun key => !frameKeys.contains key) (by decide)
      (by decide), ← setAside]
  refine decode_object_eq_ok_iff.mpr ⟨_, hmoved, tag, ?_, body, ?_, rfl⟩
  · rw [← htags]
    rcases hone with hnone | hnone <;> simp [hnone]
  · rw [haside, ← hbody]
    rcases hone with hnone | hnone <;> simp [Frame.withOlderName, hnone]

end

/-! ### Forms of one node are read alike -/

theorem Frame.ascending_withOlderName (frame : Frame) {aside : Members}
    (haside : aside.Ascending) : (frame.withOlderName aside).Ascending := by
  rw [withOlderName]
  split
  · exact Entries.ascending_insert haside _ _
  · exact haside

theorem Frame.withOlderName_related (frame : Frame) {tag : String} {aside others : Members}
    (haside : aside.Ascending) (hothers : others.Ascending)
    (h : Entries.Related (Layout.MemberRelated related tag) aside others) :
    Entries.Related (Layout.MemberRelated related tag) (frame.withOlderName aside)
      (frame.withOlderName others) := by
  have htype : Layout.MemberRelated related tag "type" = Eq :=
    Layout.memberRelated_of_mem_frameKeys (by decide) tag
  rw [withOlderName, withOlderName]
  split
  · exact h.insert (fun value => htype ▸ rfl) _ haside hothers
  · exact h

theorem frameFields_follows (tag : Option String) :
    frameFields.Follows (MemberRelated related tag) := by
  have hown (key : String) (hkey : key ∈ frameKeys) : MemberRelated related tag key = Eq :=
    memberRelated_of_mem_frameKeys hkey tag
  exact Fields.Follows.map (.field_eq (hown "id" (by decide))) Frame.mk
    |>.seq (.field_eq (hown "tag" (by decide))) |>.seq (.field_eq (hown "type" (by decide)))
    |>.seq (.field_eq (hown "visibleIf" (by decide))) |>.seq (.field_eq (hown "style" (by decide)))
    |>.seq (.field_eq (hown "className" (by decide)))
    |>.seq (.field_eq (hown "styleConfig" (by decide)))

/-- The frame has equal members, and the body follows what the regions of its container hold. -/
theorem decode_object_follows (hdecode : decode.Follows related) (hform : Json.SameForm related)
    {members others : List (String × Json)}
    (h : Entries.Related (MemberRelated related (namedTag? members)) members others)
    (origin : Origin) (node : Node) :
    decode origin (.object members) = .ok node ↔ decode origin (.object others) = .ok node := by
  rw [decode_object_eq_ok_iff, decode_object_eq_ok_iff]
  refine exists_congr fun frame => ?_
  rw [← frameFields_follows _ origin members others frame h]
  refine and_congr_right fun hframe => exists_congr fun tag => and_congr_right fun htag =>
    exists_congr fun body => and_congr_left' ?_
  rw [(namedTag?_of_reads hframe).trans htag] at h
  have haside : Entries.Related (Layout.MemberRelated related tag) (setAside members)
      (setAside others) :=
    (h.filter_key fun key => !frameKeys.contains key).canonical
      (Layout.sameForm_memberRelated hform tag)
  have hsorted (found : List (String × Json)) : (setAside found).Ascending :=
    Entries.ascending_ofWrites _
  exact Body.ofMembers_follows hdecode hform (frame.ascending_withOlderName (hsorted members))
    (frame.ascending_withOlderName (hsorted others))
    (frame.withOlderName_related (hsorted members) (hsorted others) haside) body

theorem decode_renamedOver (hdecode : decode.Follows related) (hform : Json.SameForm related) :
    decode.Follows (RenamedOver related) := by
  rintro origin before after node (rfl | ⟨members, renamed, others, rfl, rfl, hspelled, hrelated⟩)
  · rfl
  · rcases hspelled with rfl | ⟨hunused, rfl⟩
    · exact decode_object_follows hdecode hform hrelated origin node
    · rw [← namedTag?_exchange hunused] at hrelated
      rw [← decode_object_follows hdecode hform hrelated origin node]
      refine ⟨decode_exchange hunused, fun hread => ?_⟩
      -- Exchanging the names again leads back, so one direction is enough.
      have hback : Entries.exchange "tag" "type" (Entries.exchange "tag" "type" members) = members :=
        Entries.exchange_exchange members
      rw [← hback]
      refine decode_exchange ?_ hread
      rw [Entries.valuesAt_exchange, Entries.valuesAt_exchange, Equiv.swap_apply_left,
        Equiv.swap_apply_right]
      exact hunused.symm

/-- However deep the tags stand that have moved to their other name, the same node is read. -/
theorem decode_renamedWithin (depth : Nat) : decode.Follows (RenamedWithin depth) := by
  induction depth with
  | zero => exact .eq decode
  | succ depth ih => exact decode_renamedOver ih (sameForm_renamedWithin depth)

end Node

end Forms
