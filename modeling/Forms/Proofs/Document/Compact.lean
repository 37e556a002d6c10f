import Forms.Proofs.Document.Reading

/-!
# A value printed on one line

Text on one line has the tokens of the value it was printed from, like the text with line breaks, and
reads back as that value.  So two values are never printed alike: quotes and marks inside a string are
escaped, an integer has neither point nor exponent, and a double always has one of them.
-/

namespace Forms

open Token

namespace Json

theorem endsNumber_compactItems (items : List Json) (rest : List Char) :
    EndsNumber (compactItems items ++ rest) := by
  cases items <;> simp [compactItems, EndsNumber, isDigit]

theorem endsNumber_compactMembers (members : List (String × Json)) (rest : List Char) :
    EndsNumber (compactMembers members ++ rest) := by
  rcases members with - | ⟨⟨key, value⟩, members⟩ <;> simp [compactMembers, EndsNumber, isDigit]

/-- Scanning the value on its line goes through it and gives its tokens. -/
def ScansOnLine (value : Json) : Prop :=
  ∀ rest, EndsNumber rest →
    scan (compactChars value ++ rest) = (scan rest).map (value.tokens ++ ·)

theorem scan_compactItems {items : List Json} (hitems : ∀ item ∈ items, item.ScansOnLine)
    (rest : List Char) :
    scan (compactItems items ++ rest) = (scan rest).map (itemTokens items ++ ·) := by
  induction items with
  | nil => exact scan_first (c := ']') (by decide) rfl le_rfl
  | cons item items ih =>
      have hitem := hitems item List.mem_cons_self _ (endsNumber_compactItems items rest)
      have hrest := ih fun other hother => hitems other (List.mem_cons_of_mem _ hother)
      rw [compactItems, List.cons_append, scan_first (by decide) rfl le_rfl, List.append_assoc,
        hitem, hrest, map_append_map]
      exact map_append_map [.comma] _ _

/-- A member on the line, up to the end of its value. -/
theorem scan_memberOnLine (key : String) {value : Json} (hvalue : value.ScansOnLine)
    {rest : List Char} (hrest : EndsNumber rest) :
    scan (quoted key ++ ':' :: (compactChars value ++ rest)) =
      (scan rest).map (.string (some key) :: .colon :: value.tokens ++ ·) := by
  rw [scan_quoted, scan_first (c := ':') (by decide) rfl le_rfl, hvalue rest hrest,
    Option.map_map, Option.map_map]
  rfl

theorem scan_compactMembers {members : List (String × Json)}
    (hmembers : ∀ member ∈ members, member.2.ScansOnLine) (rest : List Char) :
    scan (compactMembers members ++ rest) = (scan rest).map (memberTokens members ++ ·) := by
  induction members with
  | nil => exact scan_first (c := '\x7d') (by decide) rfl le_rfl
  | cons member members ih =>
      obtain ⟨key, value⟩ := member
      have hmember := scan_memberOnLine key (hmembers (key, value) List.mem_cons_self)
        (endsNumber_compactMembers members rest)
      have hrest := ih fun other hother => hmembers other (List.mem_cons_of_mem _ hother)
      rw [hrest, map_append_map] at hmember
      rw [compactMembers, List.cons_append, scan_first (by decide) rfl le_rfl]
      simp only [List.append_assoc, List.cons_append]
      rw [hmember]
      exact map_append_map [.comma] _ _

theorem scansOnLine (value : Json) : value.ScansOnLine := by
  -- Line breaks stand inside containers only, so any other value is scanned as it is with them.
  induction value using induct with
  | null => exact scansAlone .null 0
  | bool flag => exact scansAlone (.bool flag) 0
  | number value => exact scansAlone (.number value) 0
  | string text => exact scansAlone (.string text) 0
  | array items ih =>
      intro rest _
      cases items with
      | nil => exact scansAlone (.array []) 0 rest ‹_›
      | cons item items =>
          have hitem := ih item List.mem_cons_self _ (endsNumber_compactItems items rest)
          have hitems := scan_compactItems
            (fun other hother => ih other (List.mem_cons_of_mem _ hother)) rest
          rw [compactChars, List.cons_append, scan_first (by decide) rfl le_rfl, List.append_assoc,
            hitem, hitems, map_append_map]
          exact map_append_map [.openBracket] _ _
  | object members ih =>
      intro rest _
      cases members with
      | nil => exact scansAlone (.object []) 0 rest ‹_›
      | cons member members =>
          obtain ⟨key, value⟩ := member
          have hmember := scan_memberOnLine key (ih (key, value) List.mem_cons_self)
            (endsNumber_compactMembers members rest)
          have hmembers := scan_compactMembers
            (fun other hother => ih other (List.mem_cons_of_mem _ hother)) rest
          rw [hmembers, map_append_map] at hmember
          rw [compactChars, List.cons_append, scan_first (by decide) rfl le_rfl]
          simp only [List.append_assoc, List.cons_append]
          rw [hmember]
          exact map_append_map [.openBrace] _ _

/-- A value has the same tokens on one line. -/
theorem scan_compact (value : Json) : scan value.compact.toList = some value.tokens := by
  have hscan := value.scansOnLine [] (by simp [EndsNumber])
  rw [List.append_nil, scan, Option.map_some, List.append_nil] at hscan
  rw [compact, String.toList_ofList, hscan]

end Json

namespace Written

/-- A value printed on one line is read as it was written. -/
theorem ofText?_compact (value : Json) : ofText? value.compact = some (ofJson value) :=
  ofText?_of_scan value.scan_compact

theorem ofItems_injective {items : List Json} (hitems : ∀ item ∈ items, ∀ other,
    ofJson item = ofJson other → item = other) {others : List Json}
    (heq : ofItems items = ofItems others) : items = others := by
  induction items generalizing others with
  | nil =>
      cases others with
      | nil => rfl
      | cons other others => cases heq
  | cons item items ih =>
      cases others with
      | nil => cases heq
      | cons other others =>
          rw [ofItems, ofItems, List.cons.injEq] at heq
          rw [hitems item List.mem_cons_self other heq.1,
            ih (fun held hheld => hitems held (List.mem_cons_of_mem _ hheld)) heq.2]

theorem ofMembers_injective {members : List (String × Json)}
    (hmembers : ∀ member ∈ members, ∀ other, ofJson member.2 = ofJson other → member.2 = other)
    {others : List (String × Json)} (heq : ofMembers members = ofMembers others) :
    members = others := by
  induction members generalizing others with
  | nil =>
      cases others with
      | nil => rfl
      | cons other others => cases heq
  | cons member members ih =>
      cases others with
      | nil => cases heq
      | cons other others =>
          obtain ⟨key, value⟩ := member
          rw [ofMembers, ofMembers, List.cons.injEq, Prod.mk.injEq, Option.some.injEq] at heq
          obtain ⟨⟨hkey, hvalue⟩, hrest⟩ := heq
          have hsame : value = other.2 := hmembers (key, value) List.mem_cons_self _ hvalue
          rw [ih (fun held hheld => hmembers held (List.mem_cons_of_mem _ hheld)) hrest, hkey, hsame]

/-- What was written tells which value it was; of a number it tells the literal, and no other number
is printed as that. -/
theorem ofJson_injective : Function.Injective ofJson := by
  intro left
  induction left using Json.induct with
  | null | bool | string =>
      intro right heq
      cases right <;> cases heq
      rfl
  | number value =>
      intro right heq
      cases right with
      | number other =>
          rw [ofJson, ofJson, Written.number.injEq] at heq
          rw [Number.literal_injective heq]
      | null | bool | string | array | object => cases heq
  | array items ih =>
      intro right heq
      cases right with
      | array others =>
          rw [ofJson, ofJson, Written.array.injEq] at heq
          rw [ofItems_injective ih heq]
      | null | bool | string | number | object => cases heq
  | object members ih =>
      intro right heq
      cases right with
      | object others =>
          rw [ofJson, ofJson, Written.object.injEq] at heq
          rw [ofMembers_injective ih heq]
      | null | bool | string | number | array => cases heq

end Written

/-- No two values are printed alike. -/
theorem Json.compact_injective : Function.Injective Json.compact := by
  intro left right heq
  have hread : some (Written.ofJson left) = some (Written.ofJson right) := by
    rw [← Written.ofText?_compact, heq, Written.ofText?_compact]
  exact Written.ofJson_injective (Option.some.inj hread)

end Forms
