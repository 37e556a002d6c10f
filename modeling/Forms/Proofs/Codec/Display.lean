import Forms.Node.Display
import Forms.Proofs.Codec.Field

/-!
# Displays in JSON

Columns, page counts, crumbs and chips are records.  A display is restored from its members once
what it holds of any shape is sorted, and reading gives nothing else.
-/

namespace Forms

/-! ## Parts of displays -/

namespace TableColumn

def IsNormal (column : TableColumn) : Prop := Json.Settled column.width

theorem decode_ensures : Decoder.Ensures decode IsNormal := by
  apply Decode.record_ensures
  refine (Fields.Ensures.trivial _).map ?_ |>.seq (.trivial _) |>.seq (.trivial _)
    |>.seq (.optional_any _)
  intro _ _ _ _ _ _ width hwidth
  exact hwidth

theorem IsNormal.restores {column : TableColumn} (h : column.IsNormal) :
    Decoder.Restores decode toJson column := by
  apply Decode.record_restores (by rfl)
  intro origin entries hcarries
  refine (Fields.Reads.required hcarries ?_ (.string column.key)).map TableColumn.mk
    |>.seq (.required hcarries ?_ (.string column.title))
    |>.seq (.optional_boolean hcarries ?_)
    |>.seq (.optional_any hcarries ?_ h)
  all_goals simp

end TableColumn

theorem Pagination.restores (pagination : Pagination) :
    Decoder.Restores Pagination.decode Pagination.toJson pagination := by
  apply Decode.record_restores (by rfl)
  intro origin entries hcarries
  refine (Fields.Reads.required hcarries ?_ (count32_restores pagination.pageSize)).map
      Pagination.mk
    |>.seq (.optional_count32 hcarries ?_)
    |>.seq (.optional_count64 hcarries ?_)
  all_goals simp

theorem Crumb.restores (crumb : Crumb) : Decoder.Restores Crumb.decode Crumb.toJson crumb := by
  apply Decode.record_restores (by rfl)
  intro origin entries hcarries
  refine (Fields.Reads.required hcarries ?_ (.string crumb.label)).map Crumb.mk
    |>.seq (.optional_string hcarries ?_)
    |>.seq (.optional_boolean hcarries ?_)
  all_goals simp

namespace Chip

def IsNormal (chip : Chip) : Prop := Json.Settled chip.value

theorem decode_ensures : Decoder.Ensures decode IsNormal := by
  apply Decode.record_ensures
  refine (Fields.Ensures.trivial _).map ?_ |>.seq (.trivial _) |>.seq (.optional_any _)
    |>.seq (.trivial _)
  intro _ _ _ _ value hvalue _ _
  exact hvalue

theorem IsNormal.restores {chip : Chip} (h : chip.IsNormal) :
    Decoder.Restores decode toJson chip := by
  apply Decode.record_restores (by rfl)
  intro origin entries hcarries
  refine (Fields.Reads.required hcarries ?_ (.string chip.id)).map Chip.mk
    |>.seq (.required hcarries ?_ (.string chip.label))
    |>.seq (.optional_any hcarries ?_ h)
    |>.seq (.optional_boolean hcarries ?_)
  all_goals simp

end Chip

theorem ofStrings_restores (texts : List String) :
    Decoder.Restores (Decode.list Decode.string) Json.ofStrings texts :=
  .list fun text _ => .string text

namespace Display

theorem doubleJson_restores (value : Double) : Decoder.Restores Decode.double doubleJson value :=
  .double value

/-! ## Members of one kind of display -/

/-- What reading gives: cells, widths and values of chips are sorted. -/
def IsNormal : Display → Prop
  | .table columns data _ _ _ =>
      (∀ column ∈ columns, column.IsNormal) ∧ ∀ row ∈ data, row.IsCanonical
  | .chips items _ _ _ => ∀ chip ∈ items, chip.IsNormal
  | _ => True

theorem fields?_ensures {tag : String} {fields : Fields Display}
    (hfields : fields? tag = some fields) : fields.Ensures IsNormal := by
  unfold fields? at hfields
  -- One case for each tag, in the order in which `fields?` has them.
  split at hfields <;> cases hfields
  case h_1 =>
    exact (Fields.Ensures.trivial _).map (fun _ _ _ _ _ _ _ _ _ _ _ _ _ _ => True.intro)
      |>.seq (.trivial _) |>.seq (.trivial _) |>.seq (.trivial _) |>.seq (.trivial _)
      |>.seq (.trivial _) |>.seq (.trivial _)
  case h_2 =>
    have hcolumns := Fields.Ensures.listed TableColumn.decode_ensures "columns"
    have hdata := Fields.Ensures.listed Decode.any_ensures "data"
    refine hcolumns.map ?_ |>.seq hdata |>.seq (.trivial _) |>.seq (.trivial _)
      |>.seq (.trivial _)
    intro columns hcolumns data hdata _ _ _ _ _ _
    exact ⟨hcolumns, hdata⟩
  case h_3 =>
    exact (Fields.Ensures.trivial _).map (fun _ _ _ _ _ _ _ _ _ _ => True.intro)
      |>.seq (.trivial _) |>.seq (.trivial _) |>.seq (.trivial _) |>.seq (.trivial _)
  case h_4 =>
    exact (Fields.Ensures.trivial _).map (fun _ _ _ _ _ _ _ _ _ _ => True.intro)
      |>.seq (.trivial _) |>.seq (.trivial _) |>.seq (.trivial _) |>.seq (.trivial _)
  case h_5 =>
    exact (Fields.Ensures.trivial _).map (fun _ _ _ _ _ _ => True.intro)
      |>.seq (.trivial _) |>.seq (.trivial _)
  case h_6 =>
    exact (Fields.Ensures.trivial _).map (fun _ _ _ _ _ _ => True.intro)
      |>.seq (.trivial _) |>.seq (.trivial _)
  case h_7 =>
    have hitems := Fields.Ensures.listed Chip.decode_ensures "items"
    exact hitems.map (fun _ hitems _ _ _ _ _ _ => hitems)
      |>.seq (.trivial _) |>.seq (.trivial _) |>.seq (.trivial _)

/-- The members of a display are read from entries that carry them. -/
theorem IsNormal.reads {shown : Display} (h : shown.IsNormal) :
    ∃ fields, fields? shown.tag = some fields ∧ ∀ origin entries,
      Json.Carries entries shown.entries → fields.Reads origin entries shown := by
  cases shown with
  | button label variant size buttonType loading icon iconPosition =>
      refine ⟨_, rfl, fun origin entries hcarries => ?_⟩
      refine (Fields.Reads.required hcarries ?_ (.string label)).map Display.button
        |>.seq (.optional_string hcarries ?_)
        |>.seq (.optional_string hcarries ?_)
        |>.seq (.optional_string hcarries ?_)
        |>.seq (.optional_boolean hcarries ?_)
        |>.seq (.optional_string hcarries ?_)
        |>.seq (.optional_string hcarries ?_)
      all_goals simp [Display.entries]
  | table columns data sortable pagination selectable =>
      obtain ⟨hcolumns, hdata⟩ := h
      refine ⟨_, rfl, fun origin entries hcarries => ?_⟩
      refine (Fields.Reads.defaulting hcarries ?_
          (.list fun column hcolumn => (hcolumns column hcolumn).restores) []).map Display.table
        |>.seq (.defaulting hcarries ?_ (.list fun row hrow => .any (hdata row hrow)) [])
        |>.seq (.optional_boolean hcarries ?_)
        |>.seq (.optional hcarries ?_ fun pagination _ => ⟨pagination.restores, nofun⟩)
        |>.seq (.optional_boolean hcarries ?_)
      all_goals simp [Display.entries]
  | progressBar value max label variant showPercentage =>
      refine ⟨_, rfl, fun origin entries hcarries => ?_⟩
      refine (Fields.Reads.required hcarries ?_ (doubleJson_restores value)).map
          Display.progressBar
        |>.seq (.optional hcarries ?_ fun value _ => ⟨doubleJson_restores value, nofun⟩)
        |>.seq (.optional_string hcarries ?_)
        |>.seq (.optional_string hcarries ?_)
        |>.seq (.optional_boolean hcarries ?_)
      all_goals simp [Display.entries]
  | notification message title variant duration position =>
      refine ⟨_, rfl, fun origin entries hcarries => ?_⟩
      refine (Fields.Reads.required hcarries ?_ (.string message)).map Display.notification
        |>.seq (.optional_string hcarries ?_)
        |>.seq (.required hcarries ?_ (.string variant))
        |>.seq (.optional_count64 hcarries ?_)
        |>.seq (.optional_string hcarries ?_)
      all_goals simp [Display.entries]
  | badge text variant size =>
      refine ⟨_, rfl, fun origin entries hcarries => ?_⟩
      refine (Fields.Reads.required hcarries ?_ (.string text)).map Display.badge
        |>.seq (.optional_string hcarries ?_)
        |>.seq (.optional_string hcarries ?_)
      all_goals simp [Display.entries]
  | breadcrumbs items separator maxItems =>
      refine ⟨_, rfl, fun origin entries hcarries => ?_⟩
      refine (Fields.Reads.defaulting hcarries ?_ (.list fun crumb _ => crumb.restores) []).map
          Display.breadcrumbs
        |>.seq (.optional_string hcarries ?_)
        |>.seq (.optional_count32 hcarries ?_)
      all_goals simp [Display.entries]
  | chips items selectable selected variant =>
      refine ⟨_, rfl, fun origin entries hcarries => ?_⟩
      refine (Fields.Reads.defaulting hcarries ?_
          (.list fun chip hchip => (h chip hchip).restores) []).map Display.chips
        |>.seq (.optional_boolean hcarries ?_)
        |>.seq (.optional hcarries ?_ fun texts _ => ⟨ofStrings_restores texts, nofun⟩)
        |>.seq (.optional_string hcarries ?_)
      all_goals simp [Display.entries]

end Display

end Forms
