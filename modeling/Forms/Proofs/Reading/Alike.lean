import Forms.Proofs.Reading.Restores

/-!
# What a single member decides

A record is read field by field, each from the member of its own name.  So of two objects that agree
under a key the field of that name is read alike, whatever else the objects hold, and what is
written of it is the same.
-/

namespace Forms

variable {α β : Type}

/-! ## Writing -/

namespace Entries

/-- Both sequences of writes leave the same under the key. -/
def AgreeAt (key : String) (first second : List (String × α)) : Prop :=
  (ofWrites first).get? key = (ofWrites second).get? key

namespace AgreeAt

variable {key own : String} {first second firsts seconds : List (String × α)}

theorem append (h : AgreeAt key first second) (hs : AgreeAt key firsts seconds) :
    AgreeAt key (first ++ firsts) (second ++ seconds) := by
  rw [AgreeAt, get?_ofWrites_append, get?_ofWrites_append, h, hs]

theorem cons {a b : α} (h : key = own → a = b) (hs : AgreeAt key firsts seconds) :
    AgreeAt key ((own, a) :: firsts) ((own, b) :: seconds) := by
  rw [AgreeAt, get?_ofWrites_cons, get?_ofWrites_cons, hs]
  split
  · rename_i hkey
    rw [h hkey]
  · rfl

theorem single {a b : α} (h : key = own → a = b) : AgreeAt key [(own, a)] [(own, b)] :=
  cons h rfl

theorem optional {toJson : β → Json} {a b : Option β} (h : key = own → a = b) :
    AgreeAt key (optionalEntry own toJson a) (optionalEntry own toJson b) := by
  rw [AgreeAt, get?_ofWrites_optionalEntry, get?_ofWrites_optionalEntry]
  split
  · rename_i hkey
    rw [h hkey]
  · rfl

end AgreeAt

end Entries

/-! ## Reading -/

namespace Fields

/-- What is read from two objects that agree under the key is related. -/
def Alike (fields : Fields α) (key : String) (related : α → α → Prop) : Prop :=
  ∀ origin first second a b, (first.map Prod.fst).Nodup → (second.map Prod.fst).Nodup →
    Entries.get? first key = Entries.get? second key →
    fields.Reads origin first a → fields.Reads origin second b → related a b

/-- A field of one name is read from the member of the name, or it is absent. -/
theorem reads_field_iff {own : String} {decoder : Decoder α} {absent defaulted : Option α}
    {origin : Origin} {entries : List (String × Json)}
    (hdistinct : (entries.map Prod.fst).Nodup) {value : α} :
    (Fields.field [own] decoder absent defaulted).Reads origin entries value ↔
      match Entries.get? entries own with
      | none => absent = some value
      | some found => decoder origin found = .ok value := by
  cases hget : Entries.get? entries own with
  | none =>
      have hnone : occurrences [own] entries = [] := occurrences_eq_nil (by simpa using hget)
      simp only [Reads, field, hnone]
      cases absent <;> simp
  | some found =>
      obtain ⟨place, hplace⟩ : ∃ place, occurrences [own] entries = [(place, found)] :=
        occurrences_eq_singleton hdistinct List.mem_cons_self hget (by simp)
      simp only [Reads, field, hplace]
      cases decoder origin found <;> simp

namespace Alike

variable {fields : Fields α} {key : String} {related : α → α → Prop} {target : β → β → Prop}

theorem map (h : fields.Alike key related) {f : α → β}
    (himp : ∀ a b, related a b → target (f a) (f b)) : (f <$> fields).Alike key target := by
  intro origin first second _ _ hfirst hsecond hsame ha hb
  obtain ⟨a, hfound, rfl⟩ := reads_map_iff.mp ha
  obtain ⟨b, hmet, rfl⟩ := reads_map_iff.mp hb
  exact himp a b (h origin first second a b hfirst hsecond hsame hfound hmet)

theorem seq {functions : Fields (α → β)}
    (hfunctions : functions.Alike key fun f g => ∀ a b, related a b → target (f a) (g b))
    (hfields : fields.Alike key related) : (functions <*> fields).Alike key target := by
  intro origin first second _ _ hfirst hsecond hsame ha hb
  obtain ⟨f, hf, a, hread, rfl⟩ := reads_seq_iff.mp ha
  obtain ⟨g, hg, b, hread', rfl⟩ := reads_seq_iff.mp hb
  exact hfunctions origin first second f g hfirst hsecond hsame hf hg a b
    (hfields origin first second a b hfirst hsecond hsame hread hread')

/-- A field is the same when the objects agree under its name. -/
theorem field (own : String) (decoder : Decoder α) (absent defaulted : Option α) :
    (Fields.field [own] decoder absent defaulted).Alike key fun a b => key = own → a = b := by
  rintro origin first second a b hfirst hsecond hsame ha hb rfl
  rw [reads_field_iff hfirst, hsame] at ha
  rw [reads_field_iff hsecond] at hb
  revert ha hb
  cases Entries.get? second key with
  | none => exact fun ha hb => Option.some.inj (ha.symm.trans hb)
  | some found => exact fun ha hb => Except.ok.inj (ha.symm.trans hb)

end Alike

end Fields

end Forms
