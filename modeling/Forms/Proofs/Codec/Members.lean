import Forms.Proofs.Codec.Edit
import Forms.Proofs.Reading.Alike

/-!
# The members of a node, one by one

No member of a node depends on another one but for the tag.  Two objects of one tag that agree under
a key are read to nodes that have the same written under it, whatever kind of node the tag stands
for.
-/

namespace Forms

open Entries (AgreeAt)

variable {Child : Type} {key : String}

/-! ## Members of one kind -/

theorem Field.fields_alike (key : String) :
    Field.fields.Alike key fun a b => AgreeAt key a.entries b.entries := by
  refine (Fields.Alike.field _ _ _ _).map ?_ |>.seq (.field _ _ _ _) |>.seq (.field _ _ _ _)
    |>.seq (.field _ _ _ _) |>.seq (.field _ _ _ _) |>.seq (.field _ _ _ _)
    |>.seq (.field _ _ _ _) |>.seq (.field _ _ _ _)
  intro _ _ hname _ _ hlabel _ _ hplaceholder _ _ hvalue _ _ hdisabled _ _ hrequired _ _ hreadOnly
    validation validation' hvalidation
  have hrules : AgreeAt key
      (if validation.isEmpty then []
        else [("validation", Json.array (validation.map Rule.toJson))])
      (if validation'.isEmpty then []
        else [("validation", Json.array (validation'.map Rule.toJson))]) := by
    by_cases hkey : key = "validation"
    · rw [hvalidation hkey]
      rfl
    · cases validation <;> cases validation' <;> simp [AgreeAt, hkey]
  exact (AgreeAt.single fun hkey => by rw [hname hkey]).append (.optional hlabel)
    |>.append (.optional hplaceholder) |>.append (.optional hvalue) |>.append (.optional hdisabled)
    |>.append (.optional hrequired) |>.append (.optional hreadOnly) |>.append hrules

theorem Input.fields?_alike {tag : String} {fields : Fields Input}
    (hfields : Input.fields? tag = some fields) (key : String) :
    fields.Alike key fun a b => AgreeAt key a.entries b.entries := by
  unfold fields? at hfields
  -- The text inputs, then one case for each tag, in the order in which `fields?` has them.
  split at hfields
  · cases hfields
    refine (Fields.Alike.field _ _ _ _).map ?_ |>.seq (.field _ _ _ _) |>.seq (.field _ _ _ _)
      |>.seq (.field _ _ _ _) |>.seq (.field _ _ _ _) |>.seq (.field _ _ _ _)
    intro _ _ hmin _ _ hmax _ _ hstep _ _ hshortest _ _ hlongest _ _ hpattern
    exact (AgreeAt.optional hmin).append (.optional hmax) |>.append (.optional hstep)
      |>.append (.optional hshortest) |>.append (.optional hlongest)
      |>.append (.optional hpattern)
  · split at hfields <;> cases hfields
    case h_1 =>
      refine (Fields.Alike.field _ _ _ _).map ?_ |>.seq (.field _ _ _ _) |>.seq (.field _ _ _ _)
        |>.seq (.field _ _ _ _) |>.seq (.field _ _ _ _)
      intro _ _ hrows _ _ hcols _ _ hshortest _ _ hlongest _ _ hresize
      exact (AgreeAt.optional hrows).append (.optional hcols) |>.append (.optional hshortest)
        |>.append (.optional hlongest) |>.append (.optional hresize)
    case h_2 =>
      refine (Fields.Alike.field _ _ _ _).map ?_ |>.seq (.field _ _ _ _) |>.seq (.field _ _ _ _)
      intro _ _ hchoices _ _ hmultiple _ _ hsource
      exact (AgreeAt.single fun hkey => by rw [hchoices hkey]).append (.optional hmultiple)
        |>.append (.optional hsource)
    case h_3 =>
      refine (Fields.Alike.field _ _ _ _).map ?_
      intro _ _ hchoices
      exact .single fun hkey => by rw [hchoices hkey]
    case h_4 =>
      refine (Fields.Alike.field _ _ _ _).map ?_ |>.seq (.field _ _ _ _)
      intro _ _ hchoices _ _ hsingle
      exact (AgreeAt.optional hchoices).append (.optional hsingle)
    case h_5 =>
      refine (Fields.Alike.field _ _ _ _).map ?_ |>.seq (.field _ _ _ _) |>.seq (.field _ _ _ _)
        |>.seq (.field _ _ _ _)
      intro _ _ haccept _ _ hmultiple _ _ hsize _ _ hfiles
      exact (AgreeAt.optional haccept).append (.optional hmultiple)
        |>.append (.optional hsize) |>.append (.optional hfiles)

theorem Display.fields?_alike {tag : String} {fields : Fields Display}
    (hfields : Display.fields? tag = some fields) (key : String) :
    fields.Alike key fun a b => AgreeAt key a.entries b.entries := by
  unfold fields? at hfields
  split at hfields <;> cases hfields
  case h_1 =>
    refine (Fields.Alike.field _ _ _ _).map ?_ |>.seq (.field _ _ _ _) |>.seq (.field _ _ _ _)
      |>.seq (.field _ _ _ _) |>.seq (.field _ _ _ _) |>.seq (.field _ _ _ _)
      |>.seq (.field _ _ _ _)
    intro _ _ hlabel _ _ hvariant _ _ hsize _ _ htype _ _ hloading _ _ hicon _ _ hposition
    exact (AgreeAt.single fun hkey => by rw [hlabel hkey]).append (.optional hvariant)
      |>.append (.optional hsize) |>.append (.optional htype) |>.append (.optional hloading)
      |>.append (.optional hicon) |>.append (.optional hposition)
  case h_2 =>
    refine (Fields.Alike.field _ _ _ _).map ?_ |>.seq (.field _ _ _ _) |>.seq (.field _ _ _ _)
      |>.seq (.field _ _ _ _) |>.seq (.field _ _ _ _)
    intro _ _ hcolumns _ _ hdata _ _ hsortable _ _ hpagination _ _ hselectable
    exact (AgreeAt.cons (fun hkey => by rw [hcolumns hkey])
        (.single fun hkey => by rw [hdata hkey])).append (.optional hsortable)
      |>.append (.optional hpagination) |>.append (.optional hselectable)
  case h_3 =>
    refine (Fields.Alike.field _ _ _ _).map ?_ |>.seq (.field _ _ _ _) |>.seq (.field _ _ _ _)
      |>.seq (.field _ _ _ _) |>.seq (.field _ _ _ _)
    intro _ _ hvalue _ _ hmax _ _ hlabel _ _ hvariant _ _ hshown
    exact (AgreeAt.single fun hkey => by rw [hvalue hkey]).append (.optional hmax)
      |>.append (.optional hlabel) |>.append (.optional hvariant) |>.append (.optional hshown)
  case h_4 =>
    refine (Fields.Alike.field _ _ _ _).map ?_ |>.seq (.field _ _ _ _) |>.seq (.field _ _ _ _)
      |>.seq (.field _ _ _ _) |>.seq (.field _ _ _ _)
    intro _ _ hmessage _ _ htitle _ _ hvariant _ _ hduration _ _ hposition
    exact (AgreeAt.cons (fun hkey => by rw [hmessage hkey])
        (.single fun hkey => by rw [hvariant hkey])).append (.optional htitle)
      |>.append (.optional hduration) |>.append (.optional hposition)
  case h_5 =>
    refine (Fields.Alike.field _ _ _ _).map ?_ |>.seq (.field _ _ _ _) |>.seq (.field _ _ _ _)
    intro _ _ htext _ _ hvariant _ _ hsize
    exact (AgreeAt.single fun hkey => by rw [htext hkey]).append (.optional hvariant)
      |>.append (.optional hsize)
  case h_6 =>
    refine (Fields.Alike.field _ _ _ _).map ?_ |>.seq (.field _ _ _ _) |>.seq (.field _ _ _ _)
    intro _ _ hitems _ _ hseparator _ _ hmost
    exact (AgreeAt.single fun hkey => by rw [hitems hkey]).append (.optional hseparator)
      |>.append (.optional hmost)
  case h_7 =>
    refine (Fields.Alike.field _ _ _ _).map ?_ |>.seq (.field _ _ _ _) |>.seq (.field _ _ _ _)
      |>.seq (.field _ _ _ _)
    intro _ _ hitems _ _ hselectable _ _ hselected _ _ hvariant
    exact (AgreeAt.single fun hkey => by rw [hitems hkey]).append (.optional hselectable)
      |>.append (.optional hselected) |>.append (.optional hvariant)

theorem Layout.fields?_alike {child : Decoder Child} {tag : String} {fields : Fields (Layout Child)}
    (hfields : Layout.fields? child tag = some fields) (toJson : Child → Json) (key : String) :
    fields.Alike key fun a b => AgreeAt key (a.map toJson).entries (b.map toJson).entries := by
  unfold fields? at hfields
  split at hfields <;> cases hfields
  case h_1 =>
    refine (Fields.Alike.field _ _ _ _).map ?_ |>.seq (.field _ _ _ _)
    intro _ _ hsections _ _ hdefault
    exact (AgreeAt.single fun hkey => by rw [hsections hkey]).append (.optional hdefault)
  case h_2 =>
    refine (Fields.Alike.field _ _ _ _).map ?_ |>.seq (.field _ _ _ _) |>.seq (.field _ _ _ _)
    intro _ _ hsteps _ _ hcurrent _ _ hskip
    exact (AgreeAt.cons (fun hkey => by rw [hsteps hkey])
        (.single fun hkey => by rw [hcurrent hkey])).append (.optional hskip)
  case h_3 =>
    refine (Fields.Alike.field _ _ _ _).map ?_ |>.seq (.field _ _ _ _) |>.seq (.field _ _ _ _)
    intro _ _ hpanels _ _ hopen _ _ hmultiple
    exact (AgreeAt.single fun hkey => by rw [hpanels hkey]).append (.optional hopen)
      |>.append (.optional hmultiple)
  case h_4 =>
    refine (Fields.Alike.field _ _ _ _).map ?_ |>.seq (.field _ _ _ _) |>.seq (.field _ _ _ _)
      |>.seq (.field _ _ _ _)
    intro _ _ hheader _ _ hcontent _ _ hfooter _ _ hvariant
    exact (AgreeAt.optional fun hkey => congrArg _ (hheader hkey)).append
        (.single fun hkey => by rw [hcontent hkey])
      |>.append (.optional fun hkey => congrArg _ (hfooter hkey)) |>.append (.optional hvariant)
  case h_5 =>
    refine (Fields.Alike.field _ _ _ _).map ?_ |>.seq (.field _ _ _ _) |>.seq (.field _ _ _ _)
      |>.seq (.field _ _ _ _) |>.seq (.field _ _ _ _)
    intro _ _ htrigger _ _ htitle _ _ hcontent _ _ hsize _ _ hclose
    exact (AgreeAt.single fun hkey => by rw [htrigger hkey]).append (.optional htitle)
      |>.append (.single fun hkey => by rw [hcontent hkey]) |>.append (.optional hsize)
      |>.append (.optional hclose)
  case h_6 =>
    refine (Fields.Alike.field _ _ _ _).map ?_ |>.seq (.field _ _ _ _) |>.seq (.field _ _ _ _)
    intro _ _ hcolumns _ _ hgap _ _ hchildren
    exact (AgreeAt.single hcolumns).append (.optional hgap)
      |>.append (.single fun hkey => by rw [hchildren hkey])
  case h_7 =>
    refine (Fields.Alike.field _ _ _ _).map ?_ |>.seq (.field _ _ _ _) |>.seq (.field _ _ _ _)
      |>.seq (.field _ _ _ _)
    intro _ _ hcontent _ _ hchild _ _ hposition _ _ htrigger
    exact (AgreeAt.cons (fun hkey => by rw [hcontent hkey])
        (.single fun hkey => by rw [hchild hkey])).append (.optional hposition)
      |>.append (.optional htrigger)

/-! ## Members of any tag -/

theorem Input.fields?_tag {tag : String} {fields : Fields Input}
    (hfields : Input.fields? tag = some fields) : fields.Ensures fun input => input.tag = tag := by
  unfold fields? at hfields
  split at hfields
  · rename_i kind hkind
    cases hfields
    have htag : kind.tag = tag := by simpa using List.find?_some hkind
    subst htag
    repeat refine Fields.Ensures.seq ?_ (.trivial _)
    exact (Fields.Ensures.trivial _).map (by intros; rfl)
  · split at hfields <;> cases hfields
    all_goals
      repeat refine Fields.Ensures.seq ?_ (.trivial _)
      exact (Fields.Ensures.trivial _).map (by intros; rfl)

theorem Display.fields?_tag {tag : String} {fields : Fields Display}
    (hfields : Display.fields? tag = some fields) : fields.Ensures fun shown => shown.tag = tag := by
  unfold fields? at hfields
  split at hfields <;> cases hfields
  all_goals
    repeat refine Fields.Ensures.seq ?_ (.trivial _)
    exact (Fields.Ensures.trivial _).map (by intros; rfl)

theorem Layout.fields?_tag {child : Decoder Child} {tag : String} {fields : Fields (Layout Child)}
    (hfields : Layout.fields? child tag = some fields) :
    fields.Ensures fun layout => layout.tag = tag := by
  unfold fields? at hfields
  split at hfields <;> cases hfields
  all_goals
    repeat refine Fields.Ensures.seq ?_ (.trivial _)
    exact (Fields.Ensures.trivial _).map (by intros; rfl)

namespace Body

theorem tag_of_ofMembers {child : Decoder Child} {tag : String} {members : Members}
    {body : Body Child} (hbody : ofMembers child tag members = .ok body) : body.tag = tag := by
  rcases ofMembers_eq_ok hbody with hknown | ⟨-, rfl⟩
  · cases hknown with
    | field hfields hown _ => exact (Input.fields?_tag hfields).byName _ _ _ hown
    | display _ hfields hown => exact (Display.fields?_tag hfields).byName _ _ _ hown
    | container _ _ hfields hown => exact (Layout.fields?_tag hfields).byName _ _ _ hown
  · rfl

section

variable {child : Decoder Child} {tag : String} {first second : Members} {a b : Body Child}

theorem ReadsKnown.alike (ha : ReadsKnown child tag first a) (hb : ReadsKnown child tag second b)
    (hfirst : first.Ascending) (hsecond : second.Ascending) (toJson : Child → Json)
    (hsame : first.get? key = second.get? key) :
    (a.map toJson).members.get? key = (b.map toJson).members.get? key := by
  have hmembers {written written' : List (String × Json)} (h : AgreeAt key written written') :
      (Entries.ofWrites (Json.canonicalMembers written)).get? key =
        (Entries.ofWrites (Json.canonicalMembers written')).get? key := by
    rw [Json.get?_ofWrites_canonicalMembers, Json.get?_ofWrites_canonicalMembers, h]
  have hnodup := hfirst.nodup_keys
  have hnodup' := hsecond.nodup_keys
  cases ha with
  | field hfields hown hshared =>
      obtain ⟨_, _, hown', hshared', rfl⟩ := hb.of_input hfields
      have howns := Input.fields?_alike hfields key _ _ _ _ _ hnodup hnodup' hsame hown hown'
      have hshareds := Field.fields_alike key _ _ _ _ _ hnodup hnodup' hsame hshared hshared'
      exact hmembers (howns.append hshareds)
  | display hinput hfields hown =>
      obtain ⟨_, hown', rfl⟩ := hb.of_display hinput hfields
      exact hmembers (Display.fields?_alike hfields key _ _ _ _ _ hnodup hnodup' hsame hown hown')
  | container hinput hshown hfields hown =>
      obtain ⟨_, hown', rfl⟩ := hb.of_layout hinput hshown hfields
      exact hmembers
        (Layout.fields?_alike hfields toJson key _ _ _ _ _ hnodup hnodup' hsame hown hown')

/-- Members of one tag that agree under a key are read to bodies with the same written under the
key. -/
theorem ofMembers_alike (hfirst : first.Ascending) (hsecond : second.Ascending)
    (ha : ofMembers child tag first = .ok a) (hb : ofMembers child tag second = .ok b)
    (toJson : Child → Json) (hsame : first.get? key = second.get? key) :
    (a.map toJson).members.get? key = (b.map toJson).members.get? key := by
  rcases ofMembers_eq_ok ha with hknown | ⟨hunknown, rfl⟩
  · rcases ofMembers_eq_ok hb with hknown' | ⟨hunknown, -⟩
    · exact hknown.alike hknown' hfirst hsecond toJson hsame
    · exact absurd hknown hunknown.not_readsKnown
  · rcases ofMembers_eq_ok hb with hknown' | ⟨-, rfl⟩
    · exact absurd hknown' hunknown.not_readsKnown
    · exact hsame

end

end Body

namespace Node

/-! ## Members of all nodes -/

/-- What two frames share that were read from objects that agree under the key. -/
structure Frame.AgreeAt (key : String) (first second : Frame) : Prop where
  id : key = "id" → first.id = second.id
  tag : key = "tag" → first.tag = second.tag
  legacyTag : key = "type" → first.legacyTag = second.legacyTag
  visibleIf : key = "visibleIf" → first.visibleIf = second.visibleIf
  style : key = "style" → first.style = second.style
  className : key = "className" → first.className = second.className
  styleConfig : key = "styleConfig" → first.styleConfig = second.styleConfig

theorem frameFields_alike (key : String) : frameFields.Alike key (Frame.AgreeAt key) := by
  refine (Fields.Alike.field _ _ _ _).map ?_ |>.seq (.field _ _ _ _) |>.seq (.field _ _ _ _)
    |>.seq (.field _ _ _ _) |>.seq (.field _ _ _ _) |>.seq (.field _ _ _ _)
    |>.seq (.field _ _ _ _)
  intro _ _ hid _ _ htag _ _ hlegacy _ _ hvisible _ _ hstyle _ _ hclass _ _ hconfig
  exact ⟨hid, htag, hlegacy, hvisible, hstyle, hclass, hconfig⟩

theorem frameFields_reads_iff {origin : Origin} {found : List (String × Json)} {frame : Frame} :
    frameFields.Reads origin found frame ↔
      (Fields.required "id" Decode.nonBlank).Reads origin found frame.id ∧
        (Fields.optional "tag" Decode.string).Reads origin found frame.tag ∧
        (Fields.optional "type" Decode.string).Reads origin found frame.legacyTag ∧
        (Fields.optional "visibleIf" Condition.decode).Reads origin found frame.visibleIf ∧
        (Fields.optional "style" Decode.any).Reads origin found frame.style ∧
        (Fields.optional "className" Decode.any).Reads origin found frame.className ∧
        (Fields.optional "styleConfig" Decode.any).Reads origin found frame.styleConfig := by
  simp only [frameFields, Fields.reads_seq_iff, Fields.reads_map_iff]
  constructor
  · rintro ⟨_, ⟨_, ⟨_, ⟨_, ⟨_, ⟨_, ⟨_, hid, rfl⟩, _, htag, rfl⟩, _, hlegacy, rfl⟩, _, hvisible,
      rfl⟩, _, hstyle, rfl⟩, _, hclass, rfl⟩, _, hconfig, rfl⟩
    exact ⟨hid, htag, hlegacy, hvisible, hstyle, hclass, hconfig⟩
  · rintro ⟨hid, htag, hlegacy, hvisible, hstyle, hclass, hconfig⟩
    exact ⟨_, ⟨_, ⟨_, ⟨_, ⟨_, ⟨_, ⟨_, hid, rfl⟩, _, htag, rfl⟩, _, hlegacy, rfl⟩, _, hvisible, rfl⟩,
      _, hstyle, rfl⟩, _, hclass, rfl⟩, _, hconfig, rfl⟩

/-- The tag of a frame and the older name of it are read from their own members. -/
theorem tags_read {origin : Origin} {found : Members} {frame : Frame}
    (hframe : frameFields.Reads origin found frame) :
    (Fields.optional "tag" Decode.string).Reads origin found frame.tag ∧
      (Fields.optional "type" Decode.string).Reads origin found frame.legacyTag := by
  obtain ⟨-, htag, hlegacy, -⟩ := frameFields_reads_iff.mp hframe
  exact ⟨htag, hlegacy⟩

theorem exists_tagAndMembers (frame : Frame) {tag : String}
    (htag : frame.tag.or frame.legacyTag = some tag) (rest : List (String × Json)) :
    ∃ members, tagAndMembers frame rest = .ok (tag, members) := by
  cases hown : frame.tag <;> cases hlegacy : frame.legacyTag <;>
    simp [hown, hlegacy] at htag <;> simp [tagAndMembers, hown, hlegacy, htag]

/-- The tag and its members, key by key.  The older name of a tag is a member only beside a tag. -/
theorem get?_of_tagAndMembers {frame : Frame} {found members : Members} {tag : String}
    (hfound : (found.map Prod.fst).Nodup)
    (hmembers : tagAndMembers frame (found.filter fun entry => !frameKeys.contains entry.1) =
      .ok (tag, members)) :
    frame.tag.or frame.legacyTag = some tag ∧ members.Ascending ∧ ∀ key, members.get? key =
      if key = "type" then (frame.tag.bind fun _ => frame.legacyTag).map .string
      else if key ∈ frameKeys then none else (found.get? key).map Json.canonical := by
  have haside (key : String) : (setAside found).get? key =
      if key ∈ frameKeys then none else (found.get? key).map Json.canonical := by
    have hdistinct : ((found.filter fun entry => !frameKeys.contains entry.1).map Prod.fst).Nodup :=
      hfound.sublist (List.filter_sublist.map _)
    rw [setAside, Json.get?_ofWrites_canonicalMembers, Entries.get?_ofWrites_of_nodup hdistinct,
      Entries.get?_filter_key fun key => !frameKeys.contains key]
    by_cases hkey : key ∈ frameKeys <;> simp [hkey]
  have hbare (key : String) : (setAside found).get? key = if key = "type" then none
      else if key ∈ frameKeys then none else (found.get? key).map Json.canonical := by
    by_cases hkey : key = "type" <;> simp [haside, hkey, frameKeys]
  cases htag : frame.tag with
  | none =>
      cases hlegacy : frame.legacyTag with
      | none => simp [tagAndMembers, htag, hlegacy] at hmembers
      | some legacyTag =>
          simp only [tagAndMembers, htag, hlegacy] at hmembers
          cases hmembers
          exact ⟨rfl, Entries.ascending_ofWrites _, hbare⟩
  | some own =>
      cases hlegacy : frame.legacyTag with
      | none =>
          simp only [tagAndMembers, htag, hlegacy] at hmembers
          cases hmembers
          exact ⟨rfl, Entries.ascending_ofWrites _, hbare⟩
      | some legacyTag =>
          simp only [tagAndMembers, htag, hlegacy] at hmembers
          cases hmembers
          refine ⟨rfl, Entries.ascending_insert (Entries.ascending_ofWrites _) _ _, fun key => ?_⟩
          rw [Entries.get?_insert]
          split
          · rfl
          · exact haside key

/-! ## Members of one node -/

theorem object_members (node : Node) : .object node.members = node.toJson.canonical := by
  rw [members, toJson_eq, written, Json.canonical_object]

theorem ascending_members (node : Node) : node.members.Ascending := by
  have hcanonical := Json.isCanonical_canonical node.toJson
  rw [← object_members] at hcanonical
  exact ((Json.isCanonical_object_iff _).mp hcanonical).1

theorem get?_members (node : Node) (key : String) :
    node.members.get? key = ((Entries.ofWrites node.entries).get? key).map Json.canonical := by
  have hobject := object_members node
  rw [toJson_eq, written, Json.canonical_object, Json.object.injEq] at hobject
  rw [hobject, Json.get?_ofWrites_canonicalMembers]
  rfl

/-- What a node is taken apart into when it is read from an object. -/
theorem decode_eq_ok {origin : Origin} {found : Members} {node : Node}
    (hread : decode origin (.object found) = .ok node) :
    ∃ frame tag members, frameFields.Reads origin found frame ∧
      tagAndMembers frame (found.filter fun entry => !frameKeys.contains entry.1) =
        .ok (tag, members) ∧
      Body.ofMembers decode tag members = .ok node.body ∧ node.id = frame.id ∧
      node.visibleIf = frame.visibleIf ∧ node.style = frame.style ∧
      node.className = frame.className ∧ node.styleConfig = frame.styleConfig := by
  rw [decode_eq, decodeOver] at hread
  simp only [Outcome.bind_eq_ok_iff, Outcome.mapError_eq_ok_iff, ofFrame] at hread
  obtain ⟨⟨frame, rest⟩, hopen, ⟨tag, members⟩, hmembers, body, hbody, heq⟩ := hread
  cases heq
  obtain ⟨entries, heq, hframe, rfl⟩ := openRecord_eq_ok_iff.mp hopen
  cases heq
  exact ⟨frame, tag, members, hframe, hmembers, hbody, rfl, rfl, rfl, rfl, rfl⟩

/-- A node is put together from its frame and its body. -/
theorem decode_of_frame {origin : Origin} {found : Members} {frame : Frame} {tag : String}
    {members : Members} {body : Body Node} (hframe : frameFields.Reads origin found frame)
    (hmembers : tagAndMembers frame (found.filter fun entry => !frameKeys.contains entry.1) =
      .ok (tag, members)) (hbody : Body.ofMembers decode tag members = .ok body) :
    decode origin (.object found) =
      .ok ⟨frame.id, frame.visibleIf, frame.style, frame.className, frame.styleConfig, body⟩ := by
  rw [decode_eq, decodeOver, openRecord_eq_ok_iff.mpr ⟨found, rfl, hframe, rfl⟩]
  simp only [bind, Except.bind, ofFrame, hmembers, hbody, Except.mapError]

theorem get?_entries_of_isNormal {node : Node} (h : node.IsNormal) (key : String) :
    (Entries.ofWrites node.entries).get? key =
      ((Entries.ofWrites node.frameEntries).get? key).or ((node.tagMembers.get? key).or
        ((Entries.ofWrites [("id", Json.string node.id.text), ("tag", .string node.tag)]).get?
          key)) :=
  get?_entries node ((Json.isCanonical_object_iff _).mp (h.body.apart toJson).sorted).1 key

/-- A normal node is read from its members. -/
theorem IsNormal.decode_members {node : Node} (h : node.IsNormal) (origin : Origin) :
    decode origin (.object node.members) = .ok node := by
  rw [object_members]
  exact h.restores origin _ (Json.rearranges_canonical node.toJson)

/-- No member of the tag stands in the way of the identifier and of the tag itself. -/
theorem get?_members_name {node : Node} (hapart : Body.Apart node.tagMembers) {key : String}
    (hkey : key = "id" ∨ key = "tag") : node.members.get? key =
      Entries.get? [("id", .string node.id.text), ("tag", .string node.tag)] key := by
  have habsent : node.tagMembers.get? key = none := by
    apply hapart.absent key <;> rcases hkey with rfl | rfl <;> simp [frameKeys]
  rw [get?_members, get?_entries node ((Json.isCanonical_object_iff _).mp hapart.sorted).1, habsent]
  rcases hkey with rfl | rfl <;> simp [frameEntries, Json.canonical, Entries.get?_cons]

theorem IsNormal.get?_members_id {node : Node} (h : node.IsNormal) :
    node.members.get? "id" = some (.string node.id.text) :=
  get?_members_name (h.body.apart toJson) (.inl rfl)

theorem IsNormal.get?_members_tag {node : Node} (h : node.IsNormal) :
    node.members.get? "tag" = some (.string node.tag) :=
  get?_members_name (h.body.apart toJson) (.inr rfl)

/-! ## Nodes read from objects that agree -/

section

variable {origin : Origin} {first second : Members} {a b : Node}

/-- The identifier is read from its member. -/
theorem id_of_reads (ha : decode origin (.object first) = .ok a)
    (hb : decode origin (.object second) = .ok b) (hfirst : (first.map Prod.fst).Nodup)
    (hsecond : (second.map Prod.fst).Nodup) (hsame : first.get? "id" = second.get? "id") :
    a.id = b.id := by
  obtain ⟨frame, _, _, hframe, -, -, hid, -⟩ := decode_eq_ok ha
  obtain ⟨frame', _, _, hframe', -, -, hid', -⟩ := decode_eq_ok hb
  have hframes := frameFields_alike "id" _ _ _ _ _ hfirst hsecond hsame hframe hframe'
  rw [hid, hid', hframes.id rfl]

/-- Of two nodes of one tag the same is written under a key when the objects they were read from
agree there.  Under `type` it matters as well whether the tag stands beside it. -/
theorem members_of_reads (ha : decode origin (.object first) = .ok a)
    (hb : decode origin (.object second) = .ok b) (hfirst : (first.map Prod.fst).Nodup)
    (hsecond : (second.map Prod.fst).Nodup) (htag : a.tag = b.tag)
    (hsame : first.get? key = second.get? key)
    (hbeside : key = "type" → first.get? "tag" = second.get? "tag") :
    a.members.get? key = b.members.get? key := by
  obtain ⟨frame, tag, members, hframe, hmembers, hbody, hid, hvisible, hstyle, hclass, hconfig⟩ :=
    decode_eq_ok ha
  obtain ⟨frame', tag', members', hframe', hmembers', hbody', hid', hvisible', hstyle', hclass',
    hconfig'⟩ := decode_eq_ok hb
  have hframes := frameFields_alike key _ _ _ _ _ hfirst hsecond hsame hframe hframe'
  obtain ⟨-, hsorted, hget⟩ := get?_of_tagAndMembers hfirst hmembers
  obtain ⟨-, hsorted', hget'⟩ := get?_of_tagAndMembers hsecond hmembers'
  have htags : tag = tag' := by
    rw [← Body.tag_of_ofMembers hbody, ← Body.tag_of_ofMembers hbody']
    exact htag
  subst htags
  have hown : a.tagMembers.get? key = b.tagMembers.get? key := by
    apply Body.ofMembers_alike hsorted hsorted' hbody hbody' toJson
    rw [hget, hget', hsame]
    split
    · rename_i hkey
      have hnamed :=
        frameFields_alike "tag" _ _ _ _ _ hfirst hsecond (hbeside hkey) hframe hframe'
      rw [hnamed.tag rfl, hframes.legacyTag hkey]
    · rfl
  obtain ⟨hsameId, -, -, hsameVisible, hsameStyle, hsameClass, hsameConfig⟩ := hframes
  have hnames : AgreeAt key [("id", Json.string a.id.text), ("tag", .string a.tag)]
      [("id", .string b.id.text), ("tag", .string b.tag)] := by
    rw [htag]
    refine .cons (fun hkey => ?_) rfl
    rw [hid, hid', hsameId hkey]
  have hbeside : AgreeAt key a.frameEntries b.frameEntries := by
    rw [frameEntries, frameEntries, hvisible, hstyle, hclass, hconfig, hvisible', hstyle', hclass',
      hconfig']
    exact (AgreeAt.optional hsameVisible).append (.optional hsameStyle)
      |>.append (.optional hsameClass) |>.append (.optional hsameConfig)
  rw [get?_members, get?_members, get?_entries_of_isNormal (decode_ensures _ _ _ ha),
    get?_entries_of_isNormal (decode_ensures _ _ _ hb), hown, hnames, hbeside]

/-- A tag that is there and not null is the tag of the node. -/
theorem eq_tag_of_read (ha : decode origin (.object first) = .ok a)
    (hfirst : (first.map Prod.fst).Nodup) {value : Json} (hget : first.get? "tag" = some value)
    (hnull : value ≠ .null) : value = .string a.tag := by
  obtain ⟨frame, tag, members, hframe, hmembers, hbody, -⟩ := decode_eq_ok ha
  have hread := (tags_read hframe).1
  rw [Fields.optional, Fields.reads_field_iff hfirst, hget] at hread
  obtain ⟨own, hown, htag⟩ : ∃ own, value = .string own ∧ frame.tag = some own := by
    cases value with
    | string own => exact ⟨own, rfl, (Except.ok.inj hread).symm⟩
    | null => exact absurd rfl hnull
    | bool | number | array | object => cases hread
  obtain ⟨htags, -⟩ := get?_of_tagAndMembers hfirst hmembers
  rw [htag, Option.some_or, Option.some.injEq] at htags
  rw [hown, htags, ← Body.tag_of_ofMembers hbody]
  rfl

end

/-- Whatever is read from an object with the tag of a normal node has the tag, and what is written
of it under a key is what is written of the node, when the object agrees with the node there. -/
theorem IsNormal.members_of_read {node updated : Node} {found : Members} (h : node.IsNormal)
    (hfound : found.Ascending) (hread : decode .value (.object found) = .ok updated)
    (htag : found.get? "tag" = node.members.get? "tag") :
    updated.tag = node.tag ∧
      ∀ key, found.get? key = node.members.get? key →
        updated.members.get? key = node.members.get? key := by
  have htags : updated.tag = node.tag := by
    have heq := eq_tag_of_read hread hfound.nodup_keys (htag.trans h.get?_members_tag) nofun
    exact (Json.string.inj heq).symm
  refine ⟨htags, fun key hsame => ?_⟩
  exact members_of_reads hread (h.decode_members .value) hfound.nodup_keys
    node.ascending_members.nodup_keys htags hsame fun _ => htag

end Node

end Forms
