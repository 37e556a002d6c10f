import Forms.Proofs.Codec.Schema
import Forms.Proofs.Reading.Nesting

/-!
# How deep written schemas nest

Every record of a schema is shallow, conditions and nodes with all that is inside them included, so
a schema as a whole is: it is written at most one level deeper than what it was read from.
-/

namespace Forms

/-! ## Conditions -/

namespace Condition

theorem depthMembers_rulesEntry_le {rules : List Json} {bound : Nat}
    (h : Json.depthItems rules ≤ bound) : Json.depthMembers (rulesEntry rules) ≤ bound + 1 := by
  cases rules with
  | nil => exact Nat.zero_le _
  | cons rule rules => simpa [rulesEntry, Json.depth] using h

theorem decodeWithin_shallow (depth : Nat) : (decodeWithin depth).Shallow toJson := by
  induction depth with
  | zero =>
      intro origin value result hresult
      simp [decodeWithin] at hresult
  | succ depth ih =>
      rw [decodeWithin_succ]
      refine Decode.record_shallow (fun bound => ?_) _
      have hoperand : (Fields.defaulting "value" Decode.any .null).EnsuresWithin bound
          fun operand => operand.depth ≤ bound := by
        refine .field (fun origin value result hvalue hread => ?_) _ ?_ ?_
        · cases hread
          exact (Json.depth_canonical_le value).trans hvalue
        · rintro operand ⟨⟩
          exact Nat.zero_le bound
        · rintro operand ⟨⟩
          exact Nat.zero_le bound
      have hoperator : (Operator.ofName <$> Fields.required "operator" Decode.string).EnsuresWithin
          bound fun _ => True :=
        (Fields.EnsuresWithin.trivial ..).map fun _ _ => True.intro
      refine (Fields.EnsuresWithin.trivial ..).map ?_ |>.seq hoperator
        |>.seq hoperand |>.seq (.trivial ..) |>.seq (.listed ih _)
      intro _ _ _ _ operand hoperand _ _ rules hrules
      rw [← toJsonOf_eq_map] at hrules
      simpa [toJson, Json.depth] using
        ⟨Nat.le_succ_of_le hoperand, depthMembers_rulesEntry_le hrules⟩

theorem decode_shallow : decode.Shallow toJson :=
  fun origin value => decodeWithin_shallow value.depth origin value

end Condition

/-! ## Fields -/

theorem Rule.decode_shallow : decode.Shallow toJson := by
  refine Decode.record_shallow (fun bound => ?_) _
  refine (Fields.EnsuresWithin.trivial ..).map ?_ |>.seq (.omissible .any _) |>.seq (.trivial ..)
  intro _ _ operand hoperand _ _
  simpa [toJson, Json.depth] using hoperand

theorem Choice.decode_shallow : decode.Shallow toJson := by
  refine .flat _ (fun _ => rfl) fun ⟨value, _, _, _⟩ bound => ?_
  cases value <;> simp [ChoiceValue.toJson, Json.depth]

namespace ChoiceSource

theorem depth_headersJson (headers : Entries String) (bound : Nat) :
    (headersJson headers).depth ≤ bound + 1 := by
  rw [headersJson, Json.depth, Nat.succ_le_succ_iff, Json.depthMembers_le_iff, List.forall_mem_map]
  exact fun _ _ => Nat.zero_le bound

theorem decode_shallow : decode.Shallow toJson := by
  refine Decode.record_shallow (fun bound => ?_) _
  refine (Fields.EnsuresWithin.trivial ..).map ?_ |>.seq (.trivial ..) |>.seq (.trivial ..)
    |>.seq (.omissible .members _) |>.seq (.trivial ..) |>.seq (.trivial ..)
  intro _ _ _ _ headers _ params hparams _ _ _ _
  simpa [toJson, Json.depth, depth_headersJson] using hparams

end ChoiceSource

theorem Field.fields_nest (bound : Nat) : Field.fields.EnsuresWithin bound
    fun field => Json.depthMembers field.entries ≤ bound + 1 := by
  refine (Fields.EnsuresWithin.trivial ..).map ?_ |>.seq (.trivial ..) |>.seq (.trivial ..)
    |>.seq (.optional .any _) |>.seq (.trivial ..) |>.seq (.trivial ..) |>.seq (.trivial ..)
    |>.seq (.listed Rule.decode_shallow _)
  intro _ _ _ _ _ _ value hvalue _ _ _ _ _ _ rules hrules
  have hvalidation : Json.depthMembers (if rules = [] then [] else
      [("validation", Json.array (rules.map Rule.toJson))]) ≤ bound + 1 := by
    split
    · exact Nat.zero_le _
    · simpa [Json.depth] using hrules
  simpa [Field.entries, Json.depth] using ⟨hvalue, hvalidation⟩

theorem Input.fields?_nest {tag : String} {fields : Fields Input}
    (hfields : fields? tag = some fields) (bound : Nat) :
    fields.EnsuresWithin bound fun input => Json.depthMembers input.entries ≤ bound + 1 := by
  unfold fields? at hfields
  split at hfields
  · cases hfields
    refine (Fields.EnsuresWithin.optional .any _).map ?_ |>.seq (.optional .any _)
      |>.seq (.optional .any _) |>.seq (.trivial ..) |>.seq (.trivial ..) |>.seq (.trivial ..)
    intro min hmin max hmax step hstep _ _ _ _ _ _
    simpa [Input.entries, Json.depth, count32Json] using ⟨hmin, hmax, hstep⟩
  -- The tags that are not of the text family, in the order in which `fields?` has them.
  · split at hfields <;> cases hfields
    case h_1 =>
      refine (Fields.EnsuresWithin.trivial ..).map ?_ |>.seq (.trivial ..) |>.seq (.trivial ..)
        |>.seq (.trivial ..) |>.seq (.trivial ..)
      intro _ _ _ _ _ _ _ _ _ _
      simp [Input.entries, Json.depth, count32Json]
    case h_2 =>
      refine (Fields.EnsuresWithin.listed Choice.decode_shallow _).map ?_ |>.seq (.trivial ..)
        |>.seq (.optional ChoiceSource.decode_shallow _)
      intro choices hchoices _ _ source hsource
      simpa [Input.entries, choicesJson, Json.depth] using ⟨hchoices, hsource⟩
    case h_3 =>
      refine (Fields.EnsuresWithin.listed Choice.decode_shallow _).map fun choices hchoices => ?_
      simpa [Input.entries, choicesJson, Json.depth] using hchoices
    case h_4 =>
      refine (Fields.EnsuresWithin.optional Choice.decode_shallow.list _).map ?_
        |>.seq (.trivial ..)
      intro choices hchoices _ _
      simpa [Input.entries, choicesJson, Json.depth] using hchoices
    case h_5 =>
      refine (Fields.EnsuresWithin.trivial ..).map ?_ |>.seq (.trivial ..) |>.seq (.trivial ..)
        |>.seq (.trivial ..)
      intro _ _ _ _ _ _ _ _
      simp [Input.entries, Json.depth, count32Json, count64Json]

/-! ## Displays -/

theorem TableColumn.decode_shallow : decode.Shallow toJson := by
  refine Decode.record_shallow (fun bound => ?_) _
  refine (Fields.EnsuresWithin.trivial ..).map ?_ |>.seq (.trivial ..) |>.seq (.trivial ..)
    |>.seq (.optional .any _)
  intro _ _ _ _ _ _ width hwidth
  simpa [toJson, Json.depth] using hwidth

theorem Pagination.decode_shallow : decode.Shallow toJson := by
  refine .flat _ (fun _ => rfl) fun _ bound => ?_
  simp [count32Json, count64Json, Json.depth]

theorem Crumb.decode_shallow : decode.Shallow toJson := by
  refine .flat _ (fun _ => rfl) fun _ bound => ?_
  simp [Json.depth]

theorem Chip.decode_shallow : decode.Shallow toJson := by
  refine Decode.record_shallow (fun bound => ?_) _
  refine (Fields.EnsuresWithin.trivial ..).map ?_ |>.seq (.trivial ..) |>.seq (.optional .any _)
    |>.seq (.trivial ..)
  intro _ _ _ _ value hvalue _ _
  simpa [toJson, Json.depth] using hvalue

theorem Display.fields?_nest {tag : String} {fields : Fields Display}
    (hfields : fields? tag = some fields) (bound : Nat) :
    fields.EnsuresWithin bound fun shown => Json.depthMembers shown.entries ≤ bound + 1 := by
  unfold fields? at hfields
  -- One case for each tag, in the order in which `fields?` has them.
  split at hfields <;> cases hfields
  case h_1 =>
    refine (Fields.EnsuresWithin.trivial ..).map ?_ |>.seq (.trivial ..) |>.seq (.trivial ..)
      |>.seq (.trivial ..) |>.seq (.trivial ..) |>.seq (.trivial ..) |>.seq (.trivial ..)
    intro _ _ _ _ _ _ _ _ _ _ _ _ _ _
    simp [Display.entries, Json.depth]
  case h_2 =>
    refine (Fields.EnsuresWithin.listed TableColumn.decode_shallow _).map ?_
      |>.seq (.listed .any _) |>.seq (.trivial ..) |>.seq (.optional Pagination.decode_shallow _)
      |>.seq (.trivial ..)
    intro columns hcolumns data hdata _ _ pagination hpagination _ _
    rw [List.map_id] at hdata
    simpa [Display.entries, Json.depth] using ⟨hcolumns, hdata, hpagination⟩
  case h_3 =>
    refine (Fields.EnsuresWithin.trivial ..).map ?_ |>.seq (.trivial ..) |>.seq (.trivial ..)
      |>.seq (.trivial ..) |>.seq (.trivial ..)
    intro _ _ _ _ _ _ _ _ _ _
    simp [Display.entries, Display.doubleJson, Json.depth]
  case h_4 =>
    refine (Fields.EnsuresWithin.trivial ..).map ?_ |>.seq (.trivial ..) |>.seq (.trivial ..)
      |>.seq (.trivial ..) |>.seq (.trivial ..)
    intro _ _ _ _ _ _ _ _ _ _
    simp [Display.entries, count64Json, Json.depth]
  case h_5 =>
    refine (Fields.EnsuresWithin.trivial ..).map ?_ |>.seq (.trivial ..) |>.seq (.trivial ..)
    intro _ _ _ _ _ _
    simp [Display.entries, Json.depth]
  case h_6 =>
    refine (Fields.EnsuresWithin.listed Crumb.decode_shallow _).map ?_ |>.seq (.trivial ..)
      |>.seq (.trivial ..)
    intro items hitems _ _ _ _
    simpa [Display.entries, count32Json, Json.depth] using hitems
  case h_7 =>
    refine (Fields.EnsuresWithin.listed Chip.decode_shallow _).map ?_ |>.seq (.trivial ..)
      |>.seq (.trivial ..) |>.seq (.trivial ..)
    intro items hitems _ _ _ _ _ _
    simpa [Display.entries, Json.depth] using hitems

/-! ## Layouts -/

variable {Child : Type} {child : Decoder Child} {toJson : Child → Json}

theorem Section.decode_shallow {Extras : Type} {extras : Fields Extras}
    {entries : Extras → List (String × Json)} (hchild : child.Shallow toJson)
    (hextras : ∀ bound, extras.EnsuresWithin bound fun _ => True)
    (hentries : ∀ value bound, Json.depthMembers (entries value) ≤ bound)
    (name headingKey : String) :
    (decode name headingKey extras child).Shallow
      fun part => (part.map toJson).toJson headingKey entries := by
  refine Decode.record_shallow (fun bound => ?_) _
  refine (Fields.EnsuresWithin.trivial ..).map ?_ |>.seq (.trivial ..) |>.seq (.listed hchild _)
    |>.seq (hextras bound)
  intro _ _ _ _ content hcontent value _
  simpa [Section.toJson, Section.map, Json.depth, hentries] using hcontent

theorem Layout.fields?_nest (hchild : child.Shallow toJson) {tag : String}
    {fields : Fields (Layout Child)} (hfields : fields? child tag = some fields) (bound : Nat) :
    fields.EnsuresWithin bound fun layout =>
      Json.depthMembers (layout.map toJson).entries ≤ bound + 1 := by
  have htab (bound : Nat) : TabExtras.fields.EnsuresWithin bound fun _ => True :=
    (Fields.EnsuresWithin.trivial ..).map (fun _ _ _ _ => True.intro) |>.seq (.trivial ..)
  have hstep (bound : Nat) : StepExtras.fields.EnsuresWithin bound fun _ => True :=
    (Fields.EnsuresWithin.trivial ..).map (fun _ _ _ _ => True.intro) |>.seq (.trivial ..)
  have hpanel (bound : Nat) : PanelExtras.fields.EnsuresWithin bound fun _ => True :=
    (Fields.EnsuresWithin.trivial ..).map fun _ _ => True.intro
  have htabs := Section.decode_shallow hchild htab
    (show ∀ extras bound, Json.depthMembers (TabExtras.entries extras) ≤ bound by
      simp [TabExtras.entries, Json.depth]) "TabItem" "label"
  have hsteps := Section.decode_shallow hchild hstep
    (show ∀ extras bound, Json.depthMembers (StepExtras.entries extras) ≤ bound by
      simp [StepExtras.entries, Json.depth]) "StepItem" "label"
  have hpanels := Section.decode_shallow hchild hpanel
    (show ∀ extras bound, Json.depthMembers (PanelExtras.entries extras) ≤ bound by
      simp [PanelExtras.entries, Json.depth]) "AccordionPanel" "title"
  unfold fields? at hfields
  -- One case for each tag, in the order in which `fields?` has them.
  split at hfields <;> cases hfields
  case h_1 =>
    refine (Fields.EnsuresWithin.listed htabs _).map ?_ |>.seq (.trivial ..)
    intro sections hsections _ _
    simpa [Layout.entries, Layout.map, Json.depth, Function.comp_def] using hsections
  case h_2 =>
    refine (Fields.EnsuresWithin.listed hsteps _).map ?_ |>.seq (.trivial ..) |>.seq (.trivial ..)
    intro steps hsteps _ _ _ _
    simpa [Layout.entries, Layout.map, count32Json, Json.depth, Function.comp_def] using hsteps
  case h_3 =>
    refine (Fields.EnsuresWithin.listed hpanels _).map ?_ |>.seq (.trivial ..) |>.seq (.trivial ..)
    intro panels hpanels _ _ _ _
    simpa [Layout.entries, Layout.map, Json.depth, Function.comp_def] using hpanels
  case h_4 =>
    refine (Fields.EnsuresWithin.optional hchild _).map ?_ |>.seq (.listed hchild _)
      |>.seq (.optional hchild _) |>.seq (.trivial ..)
    intro header hheader content hcontent footer hfooter _ _
    simpa [Layout.entries, Layout.map, Json.depth] using ⟨hheader, hcontent, hfooter⟩
  case h_5 =>
    refine (Fields.EnsuresWithin.required hchild _).map ?_ |>.seq (.trivial ..)
      |>.seq (.listed hchild _) |>.seq (.trivial ..) |>.seq (.trivial ..)
    intro trigger htrigger _ _ content hcontent _ _ _ _
    simpa [Layout.entries, Layout.map, Json.depth] using ⟨htrigger, hcontent⟩
  case h_6 =>
    refine (Fields.EnsuresWithin.required .any _).map ?_ |>.seq (.optional .any _)
      |>.seq (.listed hchild _)
    intro columns hcolumns gap hgap nodes hnodes
    simpa [Layout.entries, Layout.map, Json.depth] using ⟨hcolumns, hgap, hnodes⟩
  case h_7 =>
    refine (Fields.EnsuresWithin.trivial ..).map ?_ |>.seq (.required hchild _)
      |>.seq (.trivial ..) |>.seq (.trivial ..)
    intro _ _ node hnode _ _ _ _
    simpa [Layout.entries, Layout.map, Json.depth] using hnode

/-! ## Nodes -/

namespace Body

theorem depthMembers_members_le {body : Body Json} {bound : Nat}
    (h : Json.depthMembers body.entries ≤ bound) : Json.depthMembers body.members ≤ bound := by
  have hsorted := Json.depth_canonical_le (.object body.entries)
  rw [Json.canonical_object, Json.depth, Json.depth, Nat.succ_le_succ_iff] at hsorted
  cases body with
  | field | display | container => exact hsorted.trans h
  | unknown tag fields => exact h

theorem ReadsKnown.nest (hchild : child.Shallow toJson) {tag : String} {members : Members}
    {bound : Nat} (hmembers : ∀ member ∈ members, member.2.depth ≤ bound) {body : Body Child}
    (hbody : ReadsKnown child tag members body) :
    Json.depthMembers (body.map toJson).entries ≤ bound + 1 := by
  cases hbody with
  | field hfields hown hshared =>
      rw [map, entries, Json.depthMembers_append_le]
      exact ⟨(Input.fields?_nest hfields bound).byName _ _ _ hmembers hown,
        (Field.fields_nest bound).byName _ _ _ hmembers hshared⟩
  | display _ hfields hown =>
      exact (Display.fields?_nest hfields bound).byName _ _ _ hmembers hown
  | container _ _ hfields hown =>
      exact (Layout.fields?_nest hchild hfields bound).byName _ _ _ hmembers hown

theorem ofMembers_nest (hchild : child.Shallow toJson) {tag : String} {members : Members}
    {bound : Nat} (hmembers : ∀ member ∈ members, member.2.depth ≤ bound) {body : Body Child}
    (hbody : ofMembers child tag members = .ok body) :
    Json.depthMembers (body.map toJson).members ≤ bound + 1 := by
  rcases ofMembers_eq_ok hbody with hknown | ⟨-, rfl⟩
  · exact depthMembers_members_le (hknown.nest hchild hmembers)
  · exact (Json.depthMembers_le_iff.mpr hmembers).trans (Nat.le_succ _)

end Body

namespace Node

theorem frameFields_nest (bound : Nat) : frameFields.EnsuresWithin bound fun frame =>
    (∀ condition ∈ frame.visibleIf, condition.toJson.depth ≤ bound + 1) ∧
      (∀ held ∈ frame.style, held.depth ≤ bound + 1) ∧
      (∀ held ∈ frame.className, held.depth ≤ bound + 1) ∧
      ∀ held ∈ frame.styleConfig, held.depth ≤ bound + 1 := by
  refine (Fields.EnsuresWithin.trivial ..).map ?_ |>.seq (.trivial ..) |>.seq (.trivial ..)
    |>.seq (.optional Condition.decode_shallow _) |>.seq (.optional .any _)
    |>.seq (.optional .any _) |>.seq (.optional .any _)
  intro _ _ _ _ _ _ visibleIf hvisible style hstyle className hclass styleConfig hconfig
  exact ⟨hvisible, hstyle, hclass, hconfig⟩

theorem decodeWithin_shallow (depth : Nat) : (decodeWithin depth).Shallow Node.toJson := by
  induction depth with
  | zero =>
      intro origin value node hnode
      simp [decodeWithin] at hnode
  | succ depth ih =>
      intro origin value node hnode
      simp only [decodeWithin_succ, decodeOver, Outcome.bind_eq_ok_iff,
        Outcome.mapError_eq_ok_iff, ofFrame] at hnode
      obtain ⟨⟨frame, rest⟩, hopen, ⟨tag, members⟩, hmembers, body, hbody, heq⟩ := hnode
      cases heq
      obtain ⟨entries, rfl, hframe, rfl⟩ := openRecord_eq_ok_iff.mp hopen
      have hentries : ∀ entry ∈ entries, entry.2.depth ≤ Json.depthMembers entries :=
        Json.depthMembers_le_iff.mp le_rfl
      obtain ⟨hvisible, hstyle, hclass, hconfig⟩ :=
        (frameFields_nest _).byName _ _ _ hentries hframe
      have hmembers := depth_le_of_tagAndMembers
        (fun entry hentry => hentries entry (List.mem_of_mem_filter hentry)) hmembers
      have hbody := Body.ofMembers_nest ih hmembers hbody
      simpa [toJson_eq, written, frameEntries, Json.depth] using
        ⟨hbody, hvisible, hstyle, hclass, hconfig⟩

theorem decode_shallow : decode.Shallow Node.toJson :=
  fun origin value => decodeWithin_shallow value.depth origin value

end Node

theorem Schema.decode_shallow : decode.Shallow Schema.toJson := by
  refine Decode.record_shallow (fun bound => ?_) _
  refine (Fields.EnsuresWithin.trivial ..).map ?_ |>.seq (.trivial ..)
    |>.seq (.listed Node.decode_shallow _) |>.seq (.omissible .members _)
  intro _ _ _ _ nodes hnodes values hvalues
  simp only [Json.depth, Nat.add_le_add_iff_right] at hvalues
  simpa [Schema.toJson, Json.depth] using ⟨hnodes, hvalues⟩

end Forms
