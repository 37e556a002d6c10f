import Forms.Proofs.Canonical
import Forms.Proofs.Escaping
import Forms.Proofs.Numbers.Text

/-!
# The tokens of a printed value

Scanning a printed value gives the tokens that one expects of it.  Blanks give none, every mark and
every string gives its own token whatever follows, and only a number has to be told where it ends;
the printer always sets a mark or a line break behind it.
-/

namespace Forms

open Token

namespace Json

mutual
/-- The tokens that a value is written with. -/
def tokens : Json → List Token
  | .null => [.null]
  | .bool flag => [.bool flag]
  | .number value => [.number value.literal]
  | .string text => [.string (some text)]
  | .array [] => [.openBracket, .closeBracket]
  | .array (item :: items) => .openBracket :: (tokens item ++ itemTokens items)
  | .object [] => [.openBrace, .closeBrace]
  | .object ((key, value) :: members) =>
    .openBrace :: .string (some key) :: .colon :: (tokens value ++ memberTokens members)

/-- The tokens behind an item, up to the closing bracket. -/
def itemTokens : List Json → List Token
  | [] => [.closeBracket]
  | item :: items => .comma :: (tokens item ++ itemTokens items)

/-- The tokens behind a member, up to the closing brace. -/
def memberTokens : List (String × Json) → List Token
  | [] => [.closeBrace]
  | (key, value) :: members =>
    .comma :: .string (some key) :: .colon :: (tokens value ++ memberTokens members)
end

end Json

namespace Token

/-! ## Blanks and single tokens -/

theorem scan_blank {c : Char} (hc : isBlank c = true) (rest : List Char) :
    scan (c :: rest) = scan rest := by
  rw [scan, if_pos hc]

theorem scan_lineBreak (level : Nat) (rest : List Char) :
    scan (Json.lineBreak level ++ rest) = scan rest := by
  rw [Json.lineBreak, List.cons_append, scan_blank (by decide)]
  generalize 2 * level = count
  induction count with
  | zero => rfl
  | succ count ih => rw [List.replicate_succ, List.cons_append, scan_blank (by decide), ih]

/-- A token is taken off the text. -/
theorem scan_first {c : Char} {rest after : List Char} {token : Token} (hc : isBlank c = false)
    (hfirst : first? c rest = some (token, after)) (hlength : after.length ≤ rest.length) :
    scan (c :: rest) = (scan after).map (token :: ·) := by
  rw [scan, hc]
  simp only [Bool.false_eq_true, if_false, hfirst, hlength, dif_pos]

theorem scan_quoted (text : String) (rest : List Char) :
    scan (Json.quoted text ++ rest) = (scan rest).map (.string (some text) :: ·) := by
  rw [Json.quoted, List.cons_append, List.append_assoc, List.singleton_append]
  refine scan_first (by decide) ?_ ?_
  · simp only [first?, pieces_flatMap_escaped, Option.map_some, characters?_map_pieceOf,
      String.ofList_toList]
  · simp only [List.length_append, List.length_cons]
    omega

/-- A character that starts a number starts no other token. -/
theorem first?_number {c : Char} (hc : c = '-' ∨ isDigit c = true) (rest : List Char) :
    first? c rest = (number? (c :: rest)).map fun (literal, after) => (.number literal, after) := by
  unfold first?
  split
  all_goals first
    | rfl
    | exact absurd hc (by decide)

theorem scan_number (number : Number) {rest : List Char} (hrest : EndsNumber rest) :
    scan (number.text ++ rest) = (scan rest).map (.number number.literal :: ·) := by
  obtain ⟨c, others, htext, hc⟩ := number.exists_text_eq_cons
  have hread := number.literal_spec.2 hrest
  rw [htext] at hread ⊢
  rw [List.cons_append] at hread ⊢
  refine scan_first ?_ (by rw [first?_number hc, hread]; rfl) ?_
  · rcases hc with rfl | hdigit
    · rfl
    · cases hblank : isBlank c with
      | false => rfl
      | true =>
          simp only [isBlank, Bool.or_eq_true, beq_iff_eq] at hblank
          rcases hblank with ((rfl | rfl) | rfl) | rfl <;> cases hdigit
  · rw [List.length_append]
    omega

end Token

namespace Json

/-! ## A whole value -/

theorem map_append_map (first second : List Token) (scanned : Option (List Token)) :
    (scanned.map (second ++ ·)).map (first ++ ·) = scanned.map (first ++ second ++ ·) := by
  cases scanned with
  | none => rfl
  | some tokens => simp

theorem endsNumber_prettyItems (level : Nat) (items : List Json) (rest : List Char) :
    EndsNumber (prettyItems level items ++ rest) := by
  cases items <;> simp [prettyItems, lineBreak, EndsNumber, isDigit]

theorem endsNumber_prettyMembers (level : Nat) (members : List (String × Json))
    (rest : List Char) : EndsNumber (prettyMembers level members ++ rest) := by
  rcases members with - | ⟨⟨key, value⟩, members⟩ <;>
    simp [prettyMembers, lineBreak, EndsNumber, isDigit]

/-- Scanning the value goes through it and gives its tokens. -/
def ScansAlone (value : Json) : Prop :=
  ∀ level rest, EndsNumber rest →
    scan (prettyChars level value ++ rest) = (scan rest).map (value.tokens ++ ·)

theorem scan_prettyItems {items : List Json} (hitems : ∀ item ∈ items, item.ScansAlone)
    (level : Nat) (rest : List Char) :
    scan (prettyItems level items ++ rest) = (scan rest).map (itemTokens items ++ ·) := by
  induction items with
  | nil =>
      rw [prettyItems, List.append_assoc, scan_lineBreak, List.singleton_append,
        scan_first (by decide) rfl le_rfl]
      rfl
  | cons item items ih =>
      have hrest := ih fun other hother => hitems other (List.mem_cons_of_mem _ hother)
      rw [prettyItems, List.cons_append, scan_first (by decide) rfl le_rfl, List.append_assoc,
        List.append_assoc, scan_lineBreak, hitems item List.mem_cons_self _ _
          (endsNumber_prettyItems level items rest), hrest, map_append_map]
      exact map_append_map [.comma] _ _

/-- A member on its line, up to the end of its value. -/
theorem scan_member (key : String) {value : Json} (hvalue : value.ScansAlone) (level : Nat)
    {rest : List Char} (hrest : EndsNumber rest) :
    scan (lineBreak level ++ (quoted key ++ ':' :: ' ' :: (prettyChars level value ++ rest))) =
      (scan rest).map (.string (some key) :: .colon :: value.tokens ++ ·) := by
  rw [scan_lineBreak, scan_quoted, scan_first (c := ':') (by decide) rfl le_rfl,
    scan_blank (by decide), hvalue level rest hrest, Option.map_map, Option.map_map]
  rfl

theorem scan_prettyMembers {members : List (String × Json)}
    (hmembers : ∀ member ∈ members, member.2.ScansAlone) (level : Nat) (rest : List Char) :
    scan (prettyMembers level members ++ rest) =
      (scan rest).map (memberTokens members ++ ·) := by
  induction members with
  | nil =>
      rw [prettyMembers, List.append_assoc, scan_lineBreak, List.singleton_append,
        scan_first (by decide) rfl le_rfl]
      rfl
  | cons member members ih =>
      obtain ⟨key, value⟩ := member
      have hrest := ih fun other hother => hmembers other (List.mem_cons_of_mem _ hother)
      have hmember := scan_member key (hmembers (key, value) List.mem_cons_self) (level + 1)
        (endsNumber_prettyMembers level members rest)
      rw [hrest, map_append_map] at hmember
      rw [prettyMembers, List.cons_append, scan_first (by decide) rfl le_rfl]
      simp only [List.append_assoc, List.cons_append]
      rw [hmember]
      exact map_append_map [.comma] _ _

theorem scansAlone (value : Json) : value.ScansAlone := by
  induction value using induct with
  | null =>
      intro level rest _
      exact scan_first (c := 'n') (by decide) rfl (List.suffix_append _ rest).length_le
  | bool flag =>
      intro level rest _
      cases flag with
      | false => exact scan_first (c := 'f') (by decide) rfl (List.suffix_append _ rest).length_le
      | true => exact scan_first (c := 't') (by decide) rfl (List.suffix_append _ rest).length_le
  | number value =>
      intro level rest hrest
      exact scan_number value hrest
  | string text =>
      intro level rest _
      exact scan_quoted text rest
  | array items ih =>
      intro level rest _
      cases items with
      | nil =>
          rw [prettyChars]
          simp only [List.cons_append, List.nil_append]
          rw [scan_first (by decide) rfl le_rfl, scan_first (by decide) rfl le_rfl,
            Option.map_map]
          rfl
      | cons item items =>
          have hitems := scan_prettyItems
            (fun other hother => ih other (List.mem_cons_of_mem _ hother)) level rest
          have hitem := ih item List.mem_cons_self (level + 1) _
            (endsNumber_prettyItems level items rest)
          rw [prettyChars, List.cons_append, scan_first (by decide) rfl le_rfl, List.append_assoc,
            List.append_assoc, scan_lineBreak, hitem, hitems, map_append_map]
          exact map_append_map [.openBracket] _ _
  | object members ih =>
      intro level rest _
      cases members with
      | nil =>
          rw [prettyChars]
          simp only [List.cons_append, List.nil_append]
          rw [scan_first (by decide) rfl le_rfl, scan_first (by decide) rfl le_rfl,
            Option.map_map]
          rfl
      | cons member members =>
          obtain ⟨key, value⟩ := member
          have hmembers := scan_prettyMembers
            (fun other hother => ih other (List.mem_cons_of_mem _ hother)) level rest
          have hmember := scan_member key (ih (key, value) List.mem_cons_self) (level + 1)
            (endsNumber_prettyMembers level members rest)
          rw [hmembers, map_append_map] at hmember
          rw [prettyChars, List.cons_append, scan_first (by decide) rfl le_rfl]
          simp only [List.append_assoc, List.cons_append]
          rw [hmember]
          exact map_append_map [.openBrace] _ _

/-- Scanning a printed value gives its tokens. -/
theorem scan_pretty (value : Json) : scan value.pretty.toList = some value.tokens := by
  have hscan := value.scansAlone 0 [] (by simp [EndsNumber])
  rw [List.append_nil, scan, Option.map_some, List.append_nil] at hscan
  rw [pretty, String.toList_ofList, hscan]

end Json

end Forms
