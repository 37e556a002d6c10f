import Forms.Proofs.Numbers.Whole
import Forms.Proofs.Pattern.Charset
import Forms.Proofs.Pattern.Matching
import Forms.Rule.Validation

/-!
# Email addresses

An email rule asks for a shape: no blanks, one at sign, something before it, and behind it a point
that is neither the first character nor the last.  The rule is checked by a pattern of three
repetitions between fixed marks, and a text of that shape is one that can be cut at the marks into
three parts, whichever of its points the last cut is made at.
-/

namespace Forms

/-! ## The shape -/

/-- What stands behind the first at sign of a text. -/
def behindAt (text : List Char) : List Char := text.drop (text.idxOf '@' + 1)

structure EmailShaped (text : List Char) : Prop where
  unblank : ∀ c ∈ text, Unicode.isBlank c = false
  single : text.count '@' = 1
  named : 0 < text.idxOf '@'
  /-- The first and the last character behind the at sign do not count. -/
  pointed : '.' ∈ (behindAt text).tail.dropLast

instance (text : List Char) : Decidable (EmailShaped text) :=
  -- The characters of the text are asked, not all characters there are.
  haveI := List.decidableBAll (fun c => Unicode.isBlank c = false) text
  decidable_of_iff ((∀ c ∈ text, Unicode.isBlank c = false) ∧ text.count '@' = 1 ∧
      0 < text.idxOf '@' ∧ '.' ∈ (behindAt text).tail.dropLast)
    ⟨fun ⟨hunblank, hsingle, hnamed, hpointed⟩ => ⟨hunblank, hsingle, hnamed, hpointed⟩,
      fun ⟨hunblank, hsingle, hnamed, hpointed⟩ => ⟨hunblank, hsingle, hnamed, hpointed⟩⟩

/-- A part of an address: some characters, none of them blank or an at sign. -/
def IsPart (part : List Char) : Prop :=
  part ≠ [] ∧ ∀ c ∈ part, Unicode.isBlank c = false ∧ c ≠ '@'

/-- Whether a text can be cut into three parts at an at sign and a point. -/
def SplitsAtMarks (text : List Char) : Prop :=
  ∃ name host top, text = name ++ '@' :: (host ++ '.' :: top) ∧
    IsPart name ∧ IsPart host ∧ IsPart top

theorem IsPart.not_mem_at {part : List Char} (h : IsPart part) : '@' ∉ part :=
  fun hat => (h.2 '@' hat).2 rfl

/-- What stands before and behind the first at sign is told by any cut at a first one. -/
theorem behindAt_append {name : List Char} (hname : '@' ∉ name) (rest : List Char) :
    (name ++ '@' :: rest).idxOf '@' = name.length ∧ behindAt (name ++ '@' :: rest) = rest := by
  have hidx : (name ++ '@' :: rest).idxOf '@' = name.length := by
    rw [List.idxOf_append_of_notMem hname, List.idxOf_cons_self, Nat.add_zero]
  refine ⟨hidx, ?_⟩
  rw [behindAt, hidx, ← List.drop_drop, List.drop_left, List.drop_one, List.tail_cons]

/-- An inner point is one with something on both sides. -/
theorem mem_tail_dropLast_iff {c : Char} {text : List Char} :
    c ∈ text.tail.dropLast ↔ ∃ before after, before ≠ [] ∧ after ≠ [] ∧
      text = before ++ c :: after := by
  constructor
  · intro hc
    cases text with
    | nil => cases hc
    | cons first rest =>
        rcases List.eq_nil_or_concat rest with rfl | ⟨inner, last, rfl⟩
        · cases hc
        · rw [List.tail_cons, List.concat_eq_append, List.dropLast_concat] at hc
          obtain ⟨before, after, rfl⟩ := List.append_of_mem hc
          refine ⟨first :: before, after ++ [last], List.cons_ne_nil _ _, by simp, ?_⟩
          simp
  · rintro ⟨before, after, hbefore, hafter, rfl⟩
    obtain ⟨first, before, rfl⟩ := List.exists_cons_of_ne_nil hbefore
    rw [List.cons_append, List.tail_cons, List.dropLast_append_of_ne_nil (List.cons_ne_nil _ _),
      List.dropLast_cons_of_ne_nil hafter]
    exact List.mem_append_right _ List.mem_cons_self

theorem splitsAtMarks_iff (text : List Char) : SplitsAtMarks text ↔ EmailShaped text := by
  constructor
  · rintro ⟨name, host, top, rfl, hname, hhost, htop⟩
    obtain ⟨hidx, hbehind⟩ := behindAt_append hname.not_mem_at (host ++ '.' :: top)
    refine ⟨?_, ?_, ?_, ?_⟩
    · have hblank {part : List Char} (hpart : IsPart part) :
          ∀ c ∈ part, Unicode.isBlank c = false := fun c hc => (hpart.2 c hc).1
      simp only [List.forall_mem_append, List.forall_mem_cons]
      exact ⟨hblank hname, by decide, hblank hhost, by decide, hblank htop⟩
    · rw [List.count_append, List.count_cons_self, List.count_append, List.count_cons_of_ne
        (by decide), List.count_eq_zero.mpr hname.not_mem_at,
        List.count_eq_zero.mpr hhost.not_mem_at, List.count_eq_zero.mpr htop.not_mem_at]
    · rw [hidx]
      exact List.length_pos_iff.mpr hname.1
    · rw [hbehind]
      exact mem_tail_dropLast_iff.mpr ⟨host, top, hhost.1, htop.1, rfl⟩
  · rintro ⟨hunblank, hsingle, hnamed, hpointed⟩
    have hat : '@' ∈ text := List.count_pos_iff.mp (hsingle ▸ Nat.one_pos)
    obtain ⟨name, rest, rfl, hfree⟩ := List.eq_append_cons_of_mem hat
    obtain ⟨hidx, hbehind⟩ := behindAt_append hfree rest
    rw [hidx] at hnamed
    rw [hbehind] at hpointed
    obtain ⟨host, top, hhost, htop, rfl⟩ := mem_tail_dropLast_iff.mp hpointed
    -- The only at sign is the one of the cut.
    have hrest : '@' ∉ host ++ '.' :: top := by
      rw [List.count_append, List.count_cons_self] at hsingle
      exact List.count_eq_zero.mp (by omega)
    have hpart {part : List Char} (hsome : part ≠ []) (hclean : '@' ∉ part)
        (hinside : ∀ c ∈ part, c ∈ name ++ '@' :: (host ++ '.' :: top)) : IsPart part :=
      ⟨hsome, fun c hc => ⟨hunblank c (hinside c hc), fun heq => hclean (heq ▸ hc)⟩⟩
    refine ⟨name, host, top, rfl, hpart (List.length_pos_iff.mp hnamed) hfree ?_,
      hpart hhost ?_ ?_, hpart htop ?_ ?_⟩ <;> grind

/-! ## The pattern -/

namespace Pattern

/-- Neither a blank nor an at sign. -/
def partChars : Charset :=
  Charset.complement .unicode
    (Charset.ofRanges (Unicode.blankRanges ++ Charset.single '@'.toNat))

theorem partChars_eq :
    partChars = [(0x0, 0x8), (0xE, 0x1F), (0x21, 0x3F), (0x41, 0x84), (0x86, 0x9F), (0xA1, 0x167F),
      (0x1681, 0x1FFF), (0x200B, 0x2027), (0x202A, 0x202E), (0x2030, 0x205E), (0x2060, 0x2FFF),
      (0x3001, 0x10FFFF)] := by
  simp [partChars, Charset.complement, Charset.gaps, Charset.ofRanges, Charset.join,
    Charset.joinFrom, Charset.single, Unicode.blankRanges, List.mergeSort, Alphabet.last]

theorem contains_single_iff (c mark : Char) :
    Unicode.Ranges.contains (Charset.single mark.toNat) c.toNat = true ↔ c = mark := by
  rw [← Char.toNat_inj]
  simp [Unicode.Ranges.contains, Charset.single]
  omega

theorem contains_partChars_iff (c : Char) :
    partChars.contains c.toNat = true ↔ Unicode.isBlank c = false ∧ c ≠ '@' := by
  have hranges : ∀ range ∈ Unicode.blankRanges ++ Charset.single '@'.toNat, range.1 ≤ range.2 := by
    decide
  rw [partChars, Charset.contains_complement (Charset.ordered_ofRanges hranges)
    (Alphabet.toNat_le_last c), Charset.contains_ofRanges hranges, contains_append, Unicode.isBlank,
    Bool.not_or, Bool.and_eq_true, Bool.not_eq_true', Bool.not_eq_true']
  refine and_congr_right fun _ => ?_
  rw [← Bool.not_eq_true, contains_single_iff]

def emailPart : Expr := .iterate (.chars partChars) 1 none

def mark (c : Char) : Expr := .chars (Charset.single c.toNat)

/-- What the pattern of an email rule stands for behind the start of the text. -/
def emailBody : Expr :=
  .concat emailPart (.concat (mark '@') (.concat emailPart (.concat (mark '.')
    (.concat emailPart (.assertion .textEnd)))))

theorem emailPattern_eq : emailPattern = some ⟨.concat (.assertion .textStart) emailBody⟩ := by
  have hparse : parse? "^[^\\s@]+@[^\\s@]+\\.[^\\s@]+$".toList =
      some (.concat (.assertion .textStart) emailBody) := rfl
  have hfits : (Expr.concat (.assertion .textStart) emailBody).fitsProgram = true := by
    rw [emailBody, emailPart, partChars_eq]
    decide
  rw [emailPattern, compile?, hparse, Option.bind_eq_bind, Option.bind_some, if_pos hfits]

theorem bounded_emailBody : emailBody.Bounded := by
  simp [emailBody, emailPart, mark, Expr.Bounded]

theorem language_emailPart_iff (before after : Option Char) (part : List Char) :
    emailPart.language before part after ↔ IsPart part := by
  simp only [emailPart, Expr.language_oneOrMore_iff, contains_partChars_iff, IsPart]

theorem language_mark_followedBy_iff (c : Char) (rest : Language) (before after : Option Char)
    (part : List Char) :
    (mark c).language.followedBy rest before part after ↔
      ∃ right, part = c :: right ∧ rest (some c) right after := by
  constructor
  · rintro ⟨_, right, rfl, ⟨d, hd, rfl⟩, hrest⟩
    cases (contains_single_iff d c).mp hd
    exact ⟨right, rfl, hrest⟩
  · rintro ⟨right, rfl, hrest⟩
    exact ⟨[c], right, rfl, ⟨c, (contains_single_iff c c).mpr rfl, rfl⟩, hrest⟩

theorem language_emailBody_iff (before after : Option Char) (part : List Char) :
    emailBody.language before part after ↔ SplitsAtMarks part ∧ after = none := by
  constructor
  · rintro ⟨name, _, rfl, hname, hrest⟩
    obtain ⟨_, rfl, host, _, rfl, hhost, hrest⟩ :=
      (language_mark_followedBy_iff '@' _ _ _ _).mp hrest
    obtain ⟨_, rfl, top, _, rfl, htop, rfl, hend⟩ :=
      (language_mark_followedBy_iff '.' _ _ _ _).mp hrest
    rw [List.append_nil]
    exact ⟨⟨name, host, top, rfl, (language_emailPart_iff _ _ _).mp hname,
      (language_emailPart_iff _ _ _).mp hhost, (language_emailPart_iff _ _ _).mp htop⟩,
      Option.isNone_iff_eq_none.mp hend⟩
  · rintro ⟨⟨name, host, top, rfl, hname, hhost, htop⟩, rfl⟩
    refine ⟨name, _, rfl, (language_emailPart_iff _ _ _).mpr hname,
      (language_mark_followedBy_iff '@' _ _ _ _).mpr ⟨_, rfl, host, _, rfl,
        (language_emailPart_iff _ _ _).mpr hhost,
        (language_mark_followedBy_iff '.' _ _ _ _).mpr ⟨_, rfl, top, [], ?_,
          (language_emailPart_iff _ _ _).mpr htop, rfl, rfl⟩⟩⟩
    rw [List.append_nil]

/-- The pattern matches the whole text or nothing, and it matches by cutting the text. -/
theorem matchesIn_email_iff (text : List Char) :
    (Expr.concat (.assertion .textStart) emailBody).matchesIn text = true ↔
      EmailShaped text := by
  rw [Expr.matchesIn_textStart_iff bounded_emailBody, ← splitsAtMarks_iff]
  simp only [Expr.MatchesPrefix, language_emailBody_iff, List.head?_eq_none_iff]
  constructor
  · rintro ⟨part, _, rfl, hsplits, rfl⟩
    rwa [List.append_nil]
  · intro hsplits
    exact ⟨text, [], (List.append_nil _).symm, hsplits, rfl⟩

end Pattern

/-! ## The rule -/

/-- The values that count as not filled in: null, false, zero of either sign, and the empty text. -/
inductive Json.Unfilled : Json → Prop where
  | null : Unfilled .null
  | no : Unfilled (.bool false)
  | zero {number : Number} (hzero : number.toDouble.units = 0) : Unfilled (.number number)
  | empty : Unfilled (.string "")

theorem Json.isPresent_eq_false_iff (value : Json) :
    value.isPresent = false ↔ value.Unfilled := by
  constructor
  · intro hpresent
    cases value with
    | null => exact .null
    | bool flag =>
        cases hpresent
        exact .no
    | number number =>
        rw [isPresent, Bool.not_eq_false', Number.isZero, Double.isZero, beq_iff_eq] at hpresent
        exact .zero ((Double.mantissa_eq_zero_iff _).mp hpresent)
    | string content =>
        rw [isPresent, Bool.not_eq_false', String.isEmpty_iff] at hpresent
        rw [hpresent]
        exact .empty
    | array items => cases hpresent
    | object members => cases hpresent
  · rintro (_ | _ | hzero | _)
    · rfl
    · rfl
    · rw [isPresent, Bool.not_eq_false', Number.isZero, Double.isZero, beq_iff_eq]
      exact (Double.mantissa_eq_zero_iff _).mpr hzero
    · rfl

/-- An email rule, whatever operand it carries, accepts a value that is not filled in, and of the
others exactly those that read as a text of the shape of an address. -/
theorem Rule.email_accepts_iff (operand : Option Json) (message : NonBlank)
    (predicate : Option (Json → Bool)) (value : Json) :
    (Rule.mk .email operand message predicate).accepts value = true ↔
      value.Unfilled ∨ EmailShaped value.readingText.toList := by
  have haccepts : (Rule.mk .email operand message predicate).accepts value =
      (!value.isPresent || Pattern.isMatch ⟨.concat (.assertion .textStart) Pattern.emailBody⟩
        value.readingText) := by
    simp only [accepts, Pattern.emailPattern_eq]
  rw [haccepts, Bool.or_eq_true, Bool.not_eq_true', Json.isPresent_eq_false_iff, Pattern.isMatch,
    Pattern.matchesIn_email_iff]

/-- Of several points only an inner one counts. -/
example : EmailShaped "a@.b.c.".toList ∧ ¬EmailShaped "a@.b".toList := by decide

end Forms
