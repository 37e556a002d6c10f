import Forms.Node.Layout
import Forms.Proofs.Codec.Display
import Forms.Proofs.Reading.Depth

/-!
# Layouts in JSON

A layout is restored from its members when each of its children is restored from its written form.
Everything here holds for any way in which children are read and written, so it says nothing about
nodes and needs no induction over them.
-/

namespace Forms

variable {Child Result : Type}

/-! ## Sections -/

namespace Section

variable {Extras : Type} {name headingKey : String} {extras : Fields Extras} {child : Decoder Child}

theorem decode_ensures {property : Child → Prop} (hchild : child.Ensures property) :
    Decoder.Ensures (decode name headingKey extras child)
      fun part => ∀ held ∈ part.content, property held := by
  have hcontent := Fields.Ensures.listed hchild "content"
  apply Decode.record_ensures
  refine (Fields.Ensures.trivial _).map ?_ |>.seq (.trivial _) |>.seq hcontent |>.seq (.trivial _)
  intro _ _ _ _ content hcontent _ _
  exact hcontent

theorem decode_agreeWithin {depth : Nat} {first second : Decoder Child}
    (h : first.AgreeWithin depth second) (hextras : extras.AgreeWithin depth extras) :
    Decoder.AgreeWithin depth (decode name headingKey extras first)
      (decode name headingKey extras second) := by
  have hcontent := Fields.AgreeWithin.field h.list ["content"] (some []) (some [])
  refine Decoder.AgreeWithin.mono ?_ depth.le_succ
  exact Decode.record_agreeWithin ((Fields.AgreeWithin.refl ..).map Section.mk |>.seq (.refl ..)
    |>.seq hcontent |>.seq hextras) _

theorem restores {toJson : Child → Json} {entries : Extras → List (String × Json)}
    {part : Section Extras Child} (hheading : headingKey ≠ "id" ∧ headingKey ≠ "content")
    (hextras : extras.ReadsBeside ["id", headingKey, "content"] (entries part.extras) part.extras)
    (hcontent : ∀ held ∈ part.content, child.Restores toJson held) :
    Decoder.Restores (decode name headingKey extras child)
      (fun part => (part.map toJson).toJson headingKey entries) part := by
  obtain ⟨hid, hcontentKey⟩ := hheading
  have hapart := hextras.apart
  simp only [List.mem_cons, List.not_mem_nil, or_false, forall_eq_or_imp, forall_eq] at hapart
  apply Decode.record_restores (by rfl)
  intro origin found hcarries
  refine (Fields.Reads.required hcarries ?_ (.string part.id)).map Section.mk
    |>.seq (.required hcarries ?_ (.string part.heading))
    |>.seq (.defaulting hcarries ?_ (.list hcontent) [])
    |>.seq (hextras.reads origin found _ hcarries ?_)
  · simp [map, hapart, hid.symm]
  · simp [map, hapart, hcontentKey]
  · simp [map, hapart]
  · intro key hkey
    simp only [List.mem_cons, List.not_mem_nil, or_false, not_or] at hkey
    simp [map, hkey]

end Section

theorem TabExtras.readsBeside (extras : TabExtras) :
    TabExtras.fields.ReadsBeside ["id", "label", "content"] extras.entries extras where
  apart key hkey := by
    simp only [List.mem_cons, List.not_mem_nil, or_false] at hkey
    rcases hkey with rfl | rfl | rfl <;> simp [entries]
  reads origin entries written hcarries hwritten := by
    refine (Fields.Reads.optional_boolean hcarries ?_).map TabExtras.mk
      |>.seq (.optional_string hcarries ?_)
    all_goals
      rw [hwritten _ (by simp)]
      simp [TabExtras.entries]

theorem StepExtras.readsBeside (extras : StepExtras) :
    StepExtras.fields.ReadsBeside ["id", "label", "content"] extras.entries extras where
  apart key hkey := by
    simp only [List.mem_cons, List.not_mem_nil, or_false] at hkey
    rcases hkey with rfl | rfl | rfl <;> simp [entries]
  reads origin entries written hcarries hwritten := by
    refine (Fields.Reads.optional_boolean hcarries ?_).map StepExtras.mk
      |>.seq (.optional_boolean hcarries ?_)
    all_goals
      rw [hwritten _ (by simp)]
      simp [StepExtras.entries]

theorem PanelExtras.readsBeside (extras : PanelExtras) :
    PanelExtras.fields.ReadsBeside ["id", "title", "content"] extras.entries extras where
  apart key hkey := by
    simp only [List.mem_cons, List.not_mem_nil, or_false] at hkey
    rcases hkey with rfl | rfl | rfl <;> simp [entries]
  reads origin entries written hcarries hwritten := by
    refine (Fields.Reads.optional_boolean hcarries ?_).map PanelExtras.mk
    rw [hwritten _ (by simp)]
    simp [PanelExtras.entries]

namespace Layout

/-- The tags of containers. -/
def tags : List String := ["tabs", "stepper", "accordion", "card", "modal", "grid", "tooltip"]

theorem fields?_eq_none_iff (child : Decoder Child) (tag : String) :
    fields? child tag = none ↔ tag ∉ tags := by
  unfold fields?
  split <;> simp_all [tags]

/-! ## Children -/

@[simp]
theorem children_tabs (sections : List (Section TabExtras Child)) (defaultTab : Option String) :
    (tabs sections defaultTab).children = sections.flatMap Section.content := by
  simp [children, regions, List.flatMap_map, Section.region]

@[simp]
theorem children_stepper (steps : List (Section StepExtras Child)) (currentStep : UInt32)
    (allowSkip : Option Bool) :
    (stepper steps currentStep allowSkip).children = steps.flatMap Section.content := by
  simp [children, regions, List.flatMap_map, Section.region]

@[simp]
theorem children_accordion (panels : List (Section PanelExtras Child))
    (defaultOpen : Option (List String)) (allowMultiple : Option Bool) :
    (accordion panels defaultOpen allowMultiple).children = panels.flatMap Section.content := by
  simp [children, regions, List.flatMap_map, Section.region]

@[simp]
theorem children_card (header footer : Option Child) (content : List Child)
    (variant : Option String) :
    (card header content footer variant).children =
      header.toList ++ content ++ footer.toList := by
  cases header <;> cases footer <;> simp [children, regions, filledRegion]

@[simp]
theorem children_modal (trigger : Child) (title : Option String) (content : List Child)
    (size : Option String) (closeOnOverlay : Option Bool) :
    (modal trigger title content size closeOnOverlay).children = trigger :: content := by
  simp [children, regions]

@[simp]
theorem children_grid (columns : Json) (gap : Option Json) (nodes : List Child) :
    (grid columns gap nodes).children = nodes := by
  simp [children, regions]

@[simp]
theorem children_tooltip (content : String) (node : Child) (position trigger : Option String) :
    (tooltip content node position trigger).children = [node] := by
  simp [children, regions]

/-! ## Members of one kind of layout -/

/-- What reading gives beside children: the measures of a grid are sorted. -/
def IsNormal : Layout Child → Prop
  | .grid columns gap _ => columns.IsCanonical ∧ Json.Settled gap
  | _ => True

theorem fields?_ensures {child : Decoder Child} {property : Child → Prop}
    (hchild : child.Ensures property) {tag : String} {fields : Fields (Layout Child)}
    (hfields : fields? child tag = some fields) :
    fields.Ensures fun layout => layout.IsNormal ∧ ∀ held ∈ layout.children, property held := by
  have hnodes (key : String) := Fields.Ensures.listed hchild key
  have hnode (key : String) : (Fields.optional key child).Ensures
      fun node => ∀ held ∈ node, property held := .optional hchild.optional _ (by simp)
  have hsections {Extras : Type} (key name headingKey : String) (extras : Fields Extras) :
      (Fields.defaulting key (Decode.list (Section.decode name headingKey extras child)) []).Ensures
        fun sections => ∀ held ∈ sections.flatMap Section.content, property held := by
    refine .defaulting ((Section.decode_ensures hchild).list.mono ?_) _ (by simp)
    intro sections hsections held hheld
    obtain ⟨part, hpart, hinside⟩ := List.mem_flatMap.mp hheld
    exact hsections part hpart held hinside
  unfold fields? at hfields
  -- One case for each tag, in the order in which `fields?` has them.
  split at hfields <;> cases hfields
  case h_1 =>
    refine (hsections ..).map ?_ |>.seq (.trivial _)
    intro sections hsections _ _
    exact ⟨True.intro, by rwa [children_tabs]⟩
  case h_2 =>
    refine (hsections ..).map ?_ |>.seq (.trivial _) |>.seq (.trivial _)
    intro steps hsteps _ _ _ _
    exact ⟨True.intro, by rwa [children_stepper]⟩
  case h_3 =>
    refine (hsections ..).map ?_ |>.seq (.trivial _) |>.seq (.trivial _)
    intro panels hpanels _ _ _ _
    exact ⟨True.intro, by rwa [children_accordion]⟩
  case h_4 =>
    refine (hnode _).map ?_ |>.seq (hnodes _) |>.seq (hnode _) |>.seq (.trivial _)
    intro header hheader content hcontent footer hfooter _ _
    simp only [IsNormal, children_card, List.mem_append, Option.mem_toList, true_and]
    rintro held ((hheld | hheld) | hheld)
    · exact hheader held hheld
    · exact hcontent held hheld
    · exact hfooter held hheld
  case h_5 =>
    refine (Fields.Ensures.required hchild _).map ?_ |>.seq (.trivial _) |>.seq (hnodes _)
      |>.seq (.trivial _) |>.seq (.trivial _)
    intro trigger htrigger _ _ content hcontent _ _ _ _
    simpa [IsNormal] using ⟨htrigger, hcontent⟩
  case h_6 =>
    have hcolumns := Fields.Ensures.required Decode.any_ensures "columns"
    have hgap := Fields.Ensures.optional_any "gap"
    refine hcolumns.map ?_ |>.seq hgap |>.seq (hnodes _)
    intro columns hcolumns gap hgap nodes hnodes
    simpa [IsNormal] using ⟨⟨hcolumns, hgap⟩, hnodes⟩
  case h_7 =>
    refine (Fields.Ensures.trivial _).map ?_ |>.seq (.required hchild _) |>.seq (.trivial _)
      |>.seq (.trivial _)
    intro _ _ node hnode _ _ _ _
    simpa [IsNormal] using hnode

theorem fields?_agreeWithin {depth : Nat} {first second : Decoder Child}
    (h : first.AgreeWithin depth second) (tag : String) :
    Option.Rel (Fields.AgreeWithin depth) (fields? first tag) (fields? second tag) := by
  have hnodes (key : String) := Fields.AgreeWithin.field h.list [key] (some []) (some [])
  have hnode (key : String) := Fields.AgreeWithin.field h [key] none none
  have hheld (key : String) := Fields.AgreeWithin.field h.optional [key] (some none) none
  have hsections {Extras : Type} {extras : Fields Extras}
      (hextras : extras.AgreeWithin depth extras) (key name headingKey : String) :=
    Fields.AgreeWithin.field
      (show (Section.decode name headingKey extras first).AgreeWithin depth
        (Section.decode name headingKey extras second) from
        Section.decode_agreeWithin h hextras).list [key] (some []) (some [])
  have htab : TabExtras.fields.AgreeWithin depth TabExtras.fields :=
    (Fields.AgreeWithin.refl ..).map TabExtras.mk |>.seq (.refl ..)
  have hstep : StepExtras.fields.AgreeWithin depth StepExtras.fields :=
    (Fields.AgreeWithin.refl ..).map StepExtras.mk |>.seq (.refl ..)
  have hpanel : PanelExtras.fields.AgreeWithin depth PanelExtras.fields :=
    (Fields.AgreeWithin.refl ..).map PanelExtras.mk
  unfold fields?
  split
  · exact .some ((hsections htab ..).map Layout.tabs |>.seq (.refl ..))
  · exact .some ((hsections hstep ..).map Layout.stepper |>.seq (.refl ..) |>.seq (.refl ..))
  · exact .some ((hsections hpanel ..).map Layout.accordion |>.seq (.refl ..) |>.seq (.refl ..))
  · exact .some ((hheld _).map Layout.card |>.seq (hnodes _) |>.seq (hheld _) |>.seq (.refl ..))
  · exact .some ((hnode _).map Layout.modal |>.seq (.refl ..) |>.seq (hnodes _) |>.seq (.refl ..)
      |>.seq (.refl ..))
  · exact .some ((Fields.AgreeWithin.refl ..).map Layout.grid |>.seq (.refl ..)
      |>.seq (hnodes _))
  · exact .some ((Fields.AgreeWithin.refl ..).map Layout.tooltip |>.seq (hnode _)
      |>.seq (.refl ..) |>.seq (.refl ..))
  · exact .none

/-- The members of a layout are read from entries that carry them, when its children can be
restored. -/
theorem IsNormal.reads {layout : Layout Child} (h : layout.IsNormal) {child : Decoder Child}
    {toJson : Child → Json} (hnull : ∀ held, toJson held ≠ .null)
    (hchildren : ∀ held ∈ layout.children, child.Restores toJson held) :
    ∃ fields, fields? child layout.tag = some fields ∧ ∀ origin entries,
      Json.Carries entries (layout.map toJson).entries → fields.Reads origin entries layout := by
  cases layout with
  | tabs sections defaultTab =>
      rw [children_tabs] at hchildren
      refine ⟨_, rfl, fun origin entries hcarries => ?_⟩
      refine (Fields.Reads.defaulting hcarries ?_
          (.list fun part hpart => part.restores (by simp) part.extras.readsBeside
            fun held hheld => hchildren held (List.mem_flatMap.mpr ⟨part, hpart, hheld⟩)) []).map
          Layout.tabs
        |>.seq (.optional_string hcarries ?_)
      all_goals simp [Layout.entries, Layout.map]
  | stepper steps currentStep allowSkip =>
      rw [children_stepper] at hchildren
      refine ⟨_, rfl, fun origin entries hcarries => ?_⟩
      refine (Fields.Reads.defaulting hcarries ?_
          (.list fun part hpart => part.restores (by simp) part.extras.readsBeside
            fun held hheld => hchildren held (List.mem_flatMap.mpr ⟨part, hpart, hheld⟩)) []).map
          Layout.stepper
        |>.seq (.defaulting hcarries ?_ (count32_restores currentStep) 0)
        |>.seq (.optional_boolean hcarries ?_)
      all_goals simp [Layout.entries, Layout.map]
  | accordion panels defaultOpen allowMultiple =>
      rw [children_accordion] at hchildren
      refine ⟨_, rfl, fun origin entries hcarries => ?_⟩
      refine (Fields.Reads.defaulting hcarries ?_
          (.list fun part hpart => part.restores (by simp) part.extras.readsBeside
            fun held hheld => hchildren held (List.mem_flatMap.mpr ⟨part, hpart, hheld⟩)) []).map
          Layout.accordion
        |>.seq (.optional hcarries ?_ fun texts _ => ⟨ofStrings_restores texts, nofun⟩)
        |>.seq (.optional_boolean hcarries ?_)
      all_goals simp [Layout.entries, Layout.map]
  | card header content footer variant =>
      simp only [children_card, List.mem_append, Option.mem_toList, or_imp, forall_and] at hchildren
      obtain ⟨⟨hheader, hcontent⟩, hfooter⟩ := hchildren
      refine ⟨_, rfl, fun origin entries hcarries => ?_⟩
      refine (Fields.Reads.optional hcarries ?_ fun held hheld =>
          ⟨hheader held hheld, hnull held⟩).map Layout.card
        |>.seq (.defaulting hcarries ?_ (.list hcontent) [])
        |>.seq (.optional hcarries ?_ fun held hheld => ⟨hfooter held hheld, hnull held⟩)
        |>.seq (.optional_string hcarries ?_)
      all_goals simp [Layout.entries, Layout.map]
  | modal trigger title content size closeOnOverlay =>
      rw [children_modal, List.forall_mem_cons] at hchildren
      obtain ⟨htrigger, hcontent⟩ := hchildren
      refine ⟨_, rfl, fun origin entries hcarries => ?_⟩
      refine (Fields.Reads.required hcarries ?_ htrigger).map Layout.modal
        |>.seq (.optional_string hcarries ?_)
        |>.seq (.defaulting hcarries ?_ (.list hcontent) [])
        |>.seq (.optional_string hcarries ?_)
        |>.seq (.optional_boolean hcarries ?_)
      all_goals simp [Layout.entries, Layout.map]
  | grid columns gap nodes =>
      rw [children_grid] at hchildren
      obtain ⟨hcolumns, hgap⟩ := h
      refine ⟨_, rfl, fun origin entries hcarries => ?_⟩
      refine (Fields.Reads.required hcarries ?_ (.any hcolumns)).map Layout.grid
        |>.seq (.optional_any hcarries ?_ hgap)
        |>.seq (.defaulting hcarries ?_ (.list hchildren) [])
      all_goals simp [Layout.entries, Layout.map]
  | tooltip content node position trigger =>
      rw [children_tooltip, List.forall_mem_singleton] at hchildren
      refine ⟨_, rfl, fun origin entries hcarries => ?_⟩
      refine (Fields.Reads.required hcarries ?_ (.string content)).map Layout.tooltip
        |>.seq (.required hcarries ?_ hchildren)
        |>.seq (.optional_string hcarries ?_)
        |>.seq (.optional_string hcarries ?_)
      all_goals simp [Layout.entries, Layout.map]

end Layout

end Forms
