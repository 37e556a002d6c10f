import Forms.Proofs.Codec.Members

/-!
# Objects put together from two others

A node is read member by member.  So an object that takes each member from one of two objects that
are read is read as well, and when those two are read to one node it is read to that node.  Only
the tag has to come from one side with its older name, as each decides what the other one means.
-/

namespace Forms

variable {α β Child : Type}

/-- Under every key the entries have what one of the two others have. -/
def Entries.DrawsFrom (entries first second : Entries α) : Prop :=
  ∀ key, entries.get? key = first.get? key ∨ entries.get? key = second.get? key

namespace Fields

/-- Entries drawn from two objects that are read are read as well. -/
def Mixes (fields : Fields α) : Prop :=
  ∀ origin first second entries a b, (first.map Prod.fst).Nodup → (second.map Prod.fst).Nodup →
    (entries.map Prod.fst).Nodup → Entries.DrawsFrom entries first second →
    fields.Reads origin first a → fields.Reads origin second b →
    ∃ c, fields.Reads origin entries c

namespace Mixes

variable {fields : Fields α}

theorem map (h : fields.Mixes) (f : α → β) : (f <$> fields).Mixes := by
  intro origin first second entries _ _ hfirst hsecond hdistinct hdraws ha hb
  obtain ⟨a, hread, -⟩ := reads_map_iff.mp ha
  obtain ⟨b, hread', -⟩ := reads_map_iff.mp hb
  obtain ⟨c, hc⟩ := h _ _ _ entries a b hfirst hsecond hdistinct hdraws hread hread'
  exact ⟨f c, hc.map f⟩

theorem seq {functions : Fields (α → β)} (hfunctions : functions.Mixes) (hfields : fields.Mixes) :
    (functions <*> fields).Mixes := by
  intro origin first second entries _ _ hfirst hsecond hdistinct hdraws ha hb
  obtain ⟨f, hf, a, hread, -⟩ := reads_seq_iff.mp ha
  obtain ⟨g, hg, b, hread', -⟩ := reads_seq_iff.mp hb
  obtain ⟨k, hk⟩ := hfunctions _ _ _ entries f g hfirst hsecond hdistinct hdraws hf hg
  obtain ⟨c, hc⟩ := hfields _ _ _ entries a b hfirst hsecond hdistinct hdraws hread hread'
  exact ⟨k c, hk.seq hc⟩

theorem field (own : String) (decoder : Decoder α) (absent defaulted : Option α) :
    (Fields.field [own] decoder absent defaulted).Mixes := by
  intro origin first second entries a b hfirst hsecond hdistinct hdraws ha hb
  rw [reads_field_iff hfirst] at ha
  rw [reads_field_iff hsecond] at hb
  rcases hdraws own with hown | hown
  · refine ⟨a, ?_⟩
    rw [reads_field_iff hdistinct, hown]
    exact ha
  · refine ⟨b, ?_⟩
    rw [reads_field_iff hdistinct, hown]
    exact hb

end Mixes

end Fields

/-! ## Members of one kind -/

theorem Field.fields_mixes : Field.fields.Mixes := by
  repeat refine Fields.Mixes.seq ?_ (.field _ _ _ _)
  exact (Fields.Mixes.field _ _ _ _).map _

theorem Input.fields?_mixes {tag : String} {fields : Fields Input}
    (hfields : Input.fields? tag = some fields) : fields.Mixes := by
  unfold fields? at hfields
  split at hfields
  · cases hfields
    repeat refine Fields.Mixes.seq ?_ (.field _ _ _ _)
    exact (Fields.Mixes.field _ _ _ _).map _
  · split at hfields <;> cases hfields
    all_goals
      repeat refine Fields.Mixes.seq ?_ (.field _ _ _ _)
      exact (Fields.Mixes.field _ _ _ _).map _

theorem Display.fields?_mixes {tag : String} {fields : Fields Display}
    (hfields : Display.fields? tag = some fields) : fields.Mixes := by
  unfold fields? at hfields
  split at hfields <;> cases hfields
  all_goals
    repeat refine Fields.Mixes.seq ?_ (.field _ _ _ _)
    exact (Fields.Mixes.field _ _ _ _).map _

theorem Layout.fields?_mixes {child : Decoder Child} {tag : String} {fields : Fields (Layout Child)}
    (hfields : Layout.fields? child tag = some fields) : fields.Mixes := by
  unfold fields? at hfields
  split at hfields <;> cases hfields
  all_goals
    repeat refine Fields.Mixes.seq ?_ (.field _ _ _ _)
    exact (Fields.Mixes.field _ _ _ _).map _

/-! ## Members of any tag -/

namespace Body

variable {child : Decoder Child} {tag : String} {first second members : Members} {a b : Body Child}

theorem ReadsKnown.mixed (ha : ReadsKnown child tag first a) (hb : ReadsKnown child tag second b)
    (hfirst : first.Ascending) (hsecond : second.Ascending) (hmembers : members.Ascending)
    (hdraws : members.DrawsFrom first second) : ∃ c, ReadsKnown child tag members c := by
  have hnodup := hfirst.nodup_keys
  have hnodup' := hsecond.nodup_keys
  have hdistinct := hmembers.nodup_keys
  cases ha with
  | field hfields hown hshared =>
      obtain ⟨_, _, hown', hshared', rfl⟩ := hb.of_input hfields
      obtain ⟨_, howns⟩ :=
        Input.fields?_mixes hfields _ _ _ _ _ _ hnodup hnodup' hdistinct hdraws hown hown'
      obtain ⟨_, hshareds⟩ :=
        Field.fields_mixes _ _ _ _ _ _ hnodup hnodup' hdistinct hdraws hshared hshared'
      exact ⟨_, .field hfields howns hshareds⟩
  | display hinput hfields hown =>
      obtain ⟨_, hown', rfl⟩ := hb.of_display hinput hfields
      obtain ⟨_, howns⟩ :=
        Display.fields?_mixes hfields _ _ _ _ _ _ hnodup hnodup' hdistinct hdraws hown hown'
      exact ⟨_, .display hinput hfields howns⟩
  | container hinput hshown hfields hown =>
      obtain ⟨_, hown', rfl⟩ := hb.of_layout hinput hshown hfields
      obtain ⟨_, howns⟩ :=
        Layout.fields?_mixes hfields _ _ _ _ _ _ hnodup hnodup' hdistinct hdraws hown hown'
      exact ⟨_, .container hinput hshown hfields howns⟩

theorem ofMembers_mixed (ha : ofMembers child tag first = .ok a)
    (hb : ofMembers child tag second = .ok b) (hfirst : first.Ascending)
    (hsecond : second.Ascending) (hmembers : members.Ascending)
    (hdraws : members.DrawsFrom first second) : ∃ c, ofMembers child tag members = .ok c := by
  rcases ofMembers_eq_ok ha with hknown | ⟨hunknown, -⟩
  · rcases ofMembers_eq_ok hb with hknown' | ⟨hunknown, -⟩
    · obtain ⟨c, hc⟩ := hknown.mixed hknown' hfirst hsecond hmembers hdraws
      exact ⟨c, hc.ofMembers⟩
    · exact ⟨_, hunknown.ofMembers child members⟩
  · exact ⟨_, hunknown.ofMembers child members⟩

end Body

namespace Node

/-! ## Nodes -/

theorem frameFields_mixes : frameFields.Mixes := by
  repeat refine Fields.Mixes.seq ?_ (.field _ _ _ _)
  exact (Fields.Mixes.field _ _ _ _).map _

/-- Members drawn from two objects, with the tag of the first one.  The older name of a tag is from
the first one as well, unless the second one has the same tag. -/
structure Mixture (found first second : Members) : Prop where
  draws : found.DrawsFrom first second
  tag : found.get? "tag" = first.get? "tag"
  legacyTag : found.get? "type" = first.get? "type" ∨ found.get? "tag" = second.get? "tag"

section

variable {origin : Origin} {found first second : Members} {a b node : Node}

/-- Under every key there is what the first object has, or what the second one has and means. -/
theorem Mixture.source (h : Mixture found first second) (key : String) :
    found.get? key = first.get? key ∨ found.get? key = second.get? key ∧
      (key = "type" → found.get? "tag" = second.get? "tag") := by
  rcases h.draws key with hfirst | hsecond
  · exact Or.inl hfirst
  · rcases h.legacyTag with hlegacy | htag
    · by_cases hkey : key = "type"
      · exact Or.inl (hkey ▸ hlegacy)
      · exact Or.inr ⟨hsecond, fun heq => absurd heq hkey⟩
    · exact Or.inr ⟨hsecond, fun _ => htag⟩

/-- The frame of a mixture has the tag of the first object, and the older name of a tag from the
object whose tag it has. -/
theorem Mixture.exists_frame (h : Mixture found first second) (hfound : (found.map Prod.fst).Nodup)
    (hfirst : (first.map Prod.fst).Nodup) (hsecond : (second.map Prod.fst).Nodup)
    {frame frame' : Frame} (hframe : frameFields.Reads origin first frame)
    (hframe' : frameFields.Reads origin second frame') :
    ∃ mixed, frameFields.Reads origin found mixed ∧ mixed.tag = frame.tag ∧
      (mixed.legacyTag = frame.legacyTag ∨
        mixed.legacyTag = frame'.legacyTag ∧ mixed.tag = frame'.tag) := by
  obtain ⟨mixed, hmixed⟩ :=
    frameFields_mixes _ _ _ _ _ _ hfirst hsecond hfound h.draws hframe hframe'
  have hown := frameFields_alike "tag" _ _ _ _ _ hfound hfirst h.tag hmixed hframe
  refine ⟨mixed, hmixed, hown.tag rfl, ?_⟩
  rcases h.source "type" with htype | ⟨htype, hbeside⟩
  · have hlegacy := frameFields_alike "type" _ _ _ _ _ hfound hfirst htype hmixed hframe
    exact Or.inl (hlegacy.legacyTag rfl)
  · have hlegacy := frameFields_alike "type" _ _ _ _ _ hfound hsecond htype hmixed hframe'
    have hnamed := frameFields_alike "tag" _ _ _ _ _ hfound hsecond (hbeside rfl) hmixed hframe'
    exact Or.inr ⟨hlegacy.legacyTag rfl, hnamed.tag rfl⟩

/-- Two objects that are read to nodes of one tag can be mixed. -/
theorem exists_decode_of_mixture (h : Mixture found first second) (hfound : found.Ascending)
    (hfirst : first.Ascending) (hsecond : second.Ascending)
    (ha : decode origin (.object first) = .ok a) (hb : decode origin (.object second) = .ok b)
    (htags : a.tag = b.tag) : ∃ c, decode origin (.object found) = .ok c ∧ c.tag = a.tag := by
  obtain ⟨frame, tag, members, hframe, hmembers, hbody, -⟩ := decode_eq_ok ha
  obtain ⟨frame', tag', members', hframe', hmembers', hbody', -⟩ := decode_eq_ok hb
  obtain ⟨htag, hsorted, hget⟩ := get?_of_tagAndMembers hfirst.nodup_keys hmembers
  obtain ⟨htag', hsorted', hget'⟩ := get?_of_tagAndMembers hsecond.nodup_keys hmembers'
  have hsame : tag = tag' := by
    rw [← Body.tag_of_ofMembers hbody, ← Body.tag_of_ofMembers hbody']
    exact htags
  subst hsame
  obtain ⟨mixed, hmixed, hown, hlegacy⟩ :=
    h.exists_frame hfound.nodup_keys hfirst.nodup_keys hsecond.nodup_keys hframe hframe'
  have hnamed : mixed.tag.or mixed.legacyTag = some tag := by
    rcases hlegacy with htype | ⟨htype, hbeside⟩
    · rw [hown, htype, htag]
    · rw [hbeside, htype, htag']
  obtain ⟨drawn, hdrawn⟩ := exists_tagAndMembers mixed hnamed
    (found.filter fun entry => !frameKeys.contains entry.1)
  obtain ⟨-, hsorted'', hget''⟩ := get?_of_tagAndMembers hfound.nodup_keys hdrawn
  have hdraws : drawn.DrawsFrom members members' := by
    intro key
    rw [hget, hget', hget'']
    by_cases hkey : key = "type"
    · rw [if_pos hkey, if_pos hkey, if_pos hkey]
      rcases hlegacy with htype | ⟨htype, hbeside⟩
      · exact Or.inl (by rw [hown, htype])
      · exact Or.inr (by rw [hbeside, htype])
    · rw [if_neg hkey, if_neg hkey, if_neg hkey]
      by_cases hframed : key ∈ frameKeys
      · exact Or.inl (by rw [if_pos hframed, if_pos hframed])
      · rw [if_neg hframed, if_neg hframed, if_neg hframed]
        exact (h.draws key).imp (congrArg _) (congrArg _)
  obtain ⟨body, hread⟩ := Body.ofMembers_mixed hbody hbody' hsorted hsorted' hsorted'' hdraws
  refine ⟨_, decode_of_frame hmixed hdrawn hread, ?_⟩
  exact (Body.tag_of_ofMembers hread).trans (Body.tag_of_ofMembers hbody).symm

/-- Two objects that are read to one node can be mixed, and give that node again. -/
theorem decode_of_mixture (h : Mixture found first second) (hfound : found.Ascending)
    (hfirst : first.Ascending) (hsecond : second.Ascending)
    (ha : decode origin (.object first) = .ok node)
    (hb : decode origin (.object second) = .ok node) :
    decode origin (.object found) = .ok node := by
  obtain ⟨c, hc, htags⟩ := exists_decode_of_mixture h hfound hfirst hsecond ha hb rfl
  have hmembers : c.members = node.members := by
    apply c.ascending_members.ext node.ascending_members
    intro key
    rcases h.source key with hsame | ⟨hsame, hbeside⟩
    · exact members_of_reads hc ha hfound.nodup_keys hfirst.nodup_keys htags hsame fun _ => h.tag
    · exact members_of_reads hc hb hfound.nodup_keys hsecond.nodup_keys htags hsame hbeside
  have hself := (decode_ensures _ _ _ hc).decode_members origin
  rw [hmembers, (decode_ensures _ _ _ ha).decode_members origin] at hself
  cases hself
  exact hc

end

end Node

end Forms
