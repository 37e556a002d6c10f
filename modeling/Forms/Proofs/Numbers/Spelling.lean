import Forms.Proofs.Numbers.Text
import Forms.Quantity
import Mathlib.Data.List.TakeWhile

/-!
# The spellings of a quantity

A text without blanks at its ends measures something in three cases: it is empty, it is a decimal
number, or it is one of the two words for infinity, the last two with a sign or without one.  The
reader takes every such text for what it says, and every other text measures nothing.
-/

namespace Forms

namespace Token

/-! ## Signs -/

/-- What may stand in front of a number, and behind the mark of an exponent. -/
inductive Sign where
  | absent
  | plus
  | minus
deriving DecidableEq

namespace Sign

def chars : Sign → List Char
  | absent => []
  | plus => ['+']
  | minus => ['-']

def isMinus (sign : Sign) : Bool := sign == minus

end Sign

/-- What a text holds behind its sign. -/
def behindSign (chars : List Char) : List Char :=
  if chars.head? == some '-' || chars.head? == some '+' then chars.drop 1 else chars

theorem exists_sign (chars : List Char) :
    ∃ sign : Sign, sign.chars ++ behindSign chars = chars ∧
      (chars.head? == some '-') = sign.isMinus := by
  by_cases hminus : chars.head? = some '-'
  · obtain ⟨rest, rfl⟩ := List.head?_eq_some_iff.mp hminus
    exact ⟨.minus, rfl, rfl⟩
  · by_cases hplus : chars.head? = some '+'
    · obtain ⟨rest, rfl⟩ := List.head?_eq_some_iff.mp hplus
      exact ⟨.plus, rfl, rfl⟩
    · refine ⟨.absent, ?_, ?_⟩
      · simp [Sign.chars, behindSign, hminus, hplus]
      · simp [Sign.isMinus, hminus]

/-- The text does not begin with a sign of its own. -/
def Unsigned (chars : List Char) : Prop := ∀ c ∈ chars.head?, c ≠ '-' ∧ c ≠ '+'

theorem behindSign_append (sign : Sign) {chars : List Char} (hchars : Unsigned chars) :
    behindSign (sign.chars ++ chars) = chars := by
  cases sign with
  | plus | minus => rfl
  | absent =>
      have hminus : chars.head? ≠ some '-' := fun h => (hchars _ h).1 rfl
      have hplus : chars.head? ≠ some '+' := fun h => (hchars _ h).2 rfl
      simp [Sign.chars, behindSign, hminus, hplus]

theorem head?_sign_append (sign : Sign) {chars : List Char} (hchars : Unsigned chars) :
    ((sign.chars ++ chars).head? == some '-') = sign.isMinus := by
  cases sign with
  | plus | minus => rfl
  | absent => exact beq_eq_false_iff_ne.mpr fun h => (hchars _ h).1 rfl

theorem not_sign_of_isDigit {c : Char} (hdigit : isDigit c = true) : c ≠ '-' ∧ c ≠ '+' := by
  constructor <;> · rintro rfl; cases hdigit

theorem AllDigits.unsigned {digits : List Char} (hdigits : AllDigits digits) : Unsigned digits :=
  fun c hc => not_sign_of_isDigit (hdigits c (List.mem_of_mem_head? hc))

theorem allDigits_takeWhile (chars : List Char) : AllDigits (chars.takeWhile isDigit) :=
  fun _ hc => List.mem_takeWhile_imp hc

/-! ## Exponents -/

/-- An exponent as it is written: its mark, a sign, and digits. -/
structure ExponentText where
  mark : Char
  sign : Sign
  digits : List Char
  mark_eq : mark = 'e' ∨ mark = 'E'
  all_digits : AllDigits digits
  ne_nil : digits ≠ []

namespace ExponentText

def chars (exponent : ExponentText) : List Char :=
  exponent.mark :: (exponent.sign.chars ++ exponent.digits)

def value (exponent : ExponentText) : Int :=
  if exponent.sign.isMinus then -(digitsValue exponent.digits : Int)
  else digitsValue exponent.digits

/-- An exponent that may be missing. -/
def optional (exponent : Option ExponentText) : List Char := (exponent.map chars).getD []

theorem head?_optional (exponent : Option ExponentText) :
    ∀ c ∈ (optional exponent).head?, isDigit c = false ∧ c ≠ '.' := by
  cases exponent with
  | none => exact fun c hc => nomatch hc
  | some exponent =>
      intro c hc
      cases hc
      rcases exponent.mark_eq with hmark | hmark <;> rw [hmark] <;> decide

/-- Behind its mark an exponent is a sign and digits. -/
theorem exponent?_cons {mark : Char} (hmark : mark = 'e' ∨ mark = 'E') (rest : List Char) :
    exponent? (mark :: rest) =
      if ((behindSign rest).takeWhile isDigit).isEmpty then none
      else some (some (if rest.head? == some '-' then
          -(digitsValue ((behindSign rest).takeWhile isDigit) : Int)
        else digitsValue ((behindSign rest).takeWhile isDigit)),
        (behindSign rest).dropWhile isDigit) := by
  rw [exponent?, if_pos hmark]
  rfl

theorem exponent?_optional (exponent : Option ExponentText) :
    exponent? (optional exponent) = some (exponent.map value, []) := by
  cases exponent with
  | none => rfl
  | some exponent =>
      obtain ⟨mark, sign, digits, hmark, hdigits, hsome⟩ := exponent
      have hempty : ¬digits.isEmpty = true := by simpa using hsome
      have htake : (digits ++ []).takeWhile isDigit = digits := takeWhile_isDigit hdigits nofun
      have hdrop : (digits ++ []).dropWhile isDigit = [] := dropWhile_isDigit hdigits nofun
      rw [List.append_nil] at htake hdrop
      simp only [optional, Option.map_some, Option.getD_some, chars, value]
      rw [exponent?_cons hmark, behindSign_append sign hdigits.unsigned,
        head?_sign_append sign hdigits.unsigned, htake, hdrop, if_neg hempty]

/-- A text is an exponent, present or missing, when nothing is left behind the exponent in it. -/
theorem exists_of_exponent? {chars : List Char} {value : Option Int}
    (hread : exponent? chars = some (value, [])) :
    ∃ exponent : Option ExponentText, optional exponent = chars ∧
      exponent.map ExponentText.value = value := by
  cases chars with
  | nil =>
      cases hread
      exact ⟨none, rfl, rfl⟩
  | cons mark rest =>
      by_cases hmark : mark = 'e' ∨ mark = 'E'
      · obtain ⟨sign, hrest, hminus⟩ := exists_sign rest
        rw [exponent?_cons hmark, hminus] at hread
        split at hread
        · cases hread
        · rename_i hsome
          rw [Option.some.injEq, Prod.mk.injEq] at hread
          obtain ⟨rfl, hleft⟩ := hread
          have hall : (behindSign rest).takeWhile isDigit = behindSign rest := by
            have hsplit := List.takeWhile_append_dropWhile (p := isDigit) (l := behindSign rest)
            rwa [hleft, List.append_nil] at hsplit
          have hdigits := allDigits_takeWhile (behindSign rest)
          rw [hall] at hsome hdigits ⊢
          exact ⟨some ⟨mark, sign, behindSign rest, hmark, hdigits, by simpa using hsome⟩,
            congrArg (mark :: ·) hrest, rfl⟩
      · rw [exponent?, if_neg hmark] at hread
        cases hread

end ExponentText

/-! ## Decimal numbers -/

/-- A decimal number behind its sign, as it is written: digits with at most one point, at least one
digit, and perhaps an exponent. -/
structure DecimalText where
  whole : List Char
  /-- The digits behind the point; none when there is no point. -/
  decimals : Option (List Char)
  exponent : Option ExponentText
  whole_digits : AllDigits whole
  decimals_digits : AllDigits (decimals.getD [])
  some_digit : whole ++ decimals.getD [] ≠ []

namespace DecimalText

/-- Decimals behind their point, also when there are no digits among them. -/
def pointed (decimals : Option (List Char)) : List Char := (decimals.map ('.' :: ·)).getD []

def chars (number : DecimalText) : List Char :=
  number.whole ++ (pointed number.decimals ++ ExponentText.optional number.exponent)

def literal (number : DecimalText) (negative : Bool) : NumberLiteral :=
  ⟨negative, number.whole, number.decimals.getD [], number.exponent.map ExponentText.value⟩

/-- A number begins with a digit or with its point. -/
theorem exists_chars_eq_cons (number : DecimalText) :
    ∃ c rest, number.chars = c :: rest ∧ (isDigit c = true ∨ c = '.') := by
  obtain ⟨whole, decimals, exponent, hwhole, hdecimals, hsome⟩ := number
  cases whole with
  | cons c whole => exact ⟨c, _, rfl, .inl (hwhole c List.mem_cons_self)⟩
  | nil =>
      cases decimals with
      | none => exact absurd rfl hsome
      | some decimals => exact ⟨'.', _, rfl, .inr rfl⟩

theorem unsigned_chars (number : DecimalText) : Unsigned number.chars := by
  obtain ⟨c, rest, hchars, hhead⟩ := number.exists_chars_eq_cons
  rw [hchars]
  intro d hd
  cases hd
  exact hhead.elim not_sign_of_isDigit fun hpoint => hpoint ▸ by decide

theorem unsigned?_chars (number : DecimalText) (negative : Bool) :
    Quantity.unsigned? negative number.chars = some (number.literal negative) := by
  obtain ⟨whole, decimals, exponent, hwhole, hdecimals, hsome⟩ := number
  have hexponent := ExponentText.head?_optional exponent
  have hbehind : ∀ c ∈ (pointed decimals ++ ExponentText.optional exponent).head?,
      isDigit c = false := by
    cases decimals with
    | none => exact fun c hc => (hexponent c hc).1
    | some decimals =>
        intro c hc
        cases hc
        rfl
  have htake := takeWhile_isDigit hwhole hbehind
  have hdrop := dropWhile_isDigit hwhole hbehind
  simp only [Quantity.unsigned?, chars, literal, htake, hdrop]
  cases decimals with
  | none =>
      have hpoint : ((ExponentText.optional exponent).head? == some '.') = false :=
        beq_eq_false_iff_ne.mpr fun h => (hexponent _ h).2 rfl
      have hempty : whole.isEmpty = false := by simpa using hsome
      simp [pointed, hpoint, hempty, ExponentText.exponent?_optional]
  | some decimals =>
      have htake := takeWhile_isDigit hdecimals fun c hc => (hexponent c hc).1
      have hdrop := dropWhile_isDigit hdecimals fun c hc => (hexponent c hc).1
      have hempty : (whole.isEmpty && decimals.isEmpty) = false := by
        simpa [← Bool.not_eq_true, List.append_eq_nil_iff] using hsome
      rw [Option.getD_some] at htake hdrop
      simp [pointed, htake, hdrop, hempty, ExponentText.exponent?_optional]

/-- Only decimal numbers are read as one. -/
theorem exists_of_unsigned? {negative : Bool} {chars : List Char} {literal : NumberLiteral}
    (hread : Quantity.unsigned? negative chars = some literal) :
    ∃ number : DecimalText, number.chars = chars ∧ number.literal negative = literal := by
  have hchars := List.takeWhile_append_dropWhile (p := isDigit) (l := chars)
  have hwhole := allDigits_takeWhile chars
  simp only [Quantity.unsigned?] at hread
  generalize chars.takeWhile isDigit = whole at hread hchars hwhole
  generalize chars.dropWhile isDigit = rest at hread hchars
  -- The decimals, with the point or without one, and what is left for the exponent.
  obtain ⟨decimals, tail, hrest, hdecimals, htaken, hleft⟩ : ∃ (decimals : Option (List Char))
      (tail : List Char), rest = pointed decimals ++ tail ∧ AllDigits (decimals.getD []) ∧
      (if rest.head? == some '.' then (rest.drop 1).takeWhile isDigit else [])
        = decimals.getD [] ∧
      (if rest.head? == some '.' then (rest.drop 1).dropWhile isDigit else rest) = tail := by
    by_cases hpoint : rest.head? = some '.'
    · obtain ⟨behind, rfl⟩ := List.head?_eq_some_iff.mp hpoint
      exact ⟨some (behind.takeWhile isDigit), behind.dropWhile isDigit,
        congrArg ('.' :: ·) List.takeWhile_append_dropWhile.symm, allDigits_takeWhile behind, rfl,
        rfl⟩
    · refine ⟨none, rest, rfl, fun c hc => (nomatch hc), ?_, ?_⟩ <;> simp [hpoint]
  rw [htaken, hleft] at hread
  split at hread
  · cases hread
  · rename_i hsome
    cases hexponent : exponent? tail with
    | none =>
        rw [hexponent] at hread
        cases hread
    | some read =>
        obtain ⟨value, left⟩ := read
        simp only [hexponent, Option.bind_eq_bind, Option.bind_some] at hread
        split at hread
        · rename_i hend
          rw [List.isEmpty_iff.mp hend] at hexponent
          obtain ⟨exponent, rfl, rfl⟩ := ExponentText.exists_of_exponent? hexponent
          have hdigit : whole ++ decimals.getD [] ≠ [] := by
            simpa [List.append_eq_nil_iff] using hsome
          rw [hrest] at hchars
          exact ⟨⟨whole, decimals, exponent, hwhole, hdecimals, hdigit⟩, hchars,
            Option.some.inj hread⟩
        · cases hread

end DecimalText

end Token

/-! ## Quantities -/

namespace Quantity

open Token

/-- The words for infinity, in any case. -/
def IsInfinity (word : List Char) : Prop :=
  String.ofList (word.map Char.toLower) = "inf" ∨ String.ofList (word.map Char.toLower) = "infinity"

instance (word : List Char) : Decidable (IsInfinity word) := inferInstanceAs (Decidable (_ ∨ _))

/-- The texts without blanks at their ends that measure something, and what they measure. -/
inductive Spells : List Char → Quantity → Prop where
  | blank : Spells [] zero
  | decimal (sign : Sign) (number : DecimalText) :
      Spells (sign.chars ++ number.chars) (ofLiteral (number.literal sign.isMinus))
  | infinity (sign : Sign) {word : List Char} (hword : IsInfinity word) :
      Spells (sign.chars ++ word) (.infinite sign.isMinus)

theorem ofWord?_of_isInfinity {word : List Char} (hword : IsInfinity word) (negative : Bool) :
    ofWord? negative word = some (.infinite negative) := by
  rcases hword with hword | hword <;> rw [ofWord?, hword] <;> rfl

theorem IsInfinity.exists_cons {word : List Char} (hword : IsInfinity word) :
    ∃ c rest, word = c :: rest ∧ c.toLower = 'i' := by
  cases word with
  | nil => exact absurd hword (by decide)
  | cons c rest =>
      refine ⟨c, rest, rfl, ?_⟩
      rcases hword with hword | hword
      all_goals
        have hchars := congrArg String.toList hword
        rw [String.toList_ofList, List.map_cons] at hchars
        exact (List.cons.inj hchars).1

theorem IsInfinity.unsigned {word : List Char} (hword : IsInfinity word) : Unsigned word := by
  obtain ⟨c, rest, rfl, hlower⟩ := hword.exists_cons
  intro d hd
  cases hd
  constructor <;> · rintro rfl; revert hlower; decide

theorem toLower_of_isDigit {c : Char} (hdigit : isDigit c = true) : c.toLower = c := by
  have hrange : 48 ≤ c.toNat ∧ c.toNat ≤ 57 := by
    simpa [isDigit, Char.le_def, UInt32.le_iff_toNat_le] using hdigit
  refine dif_neg fun hupper => ?_
  have hleast : 65 ≤ c.toNat := hupper.1
  omega

/-- A word for infinity is no number. -/
theorem IsInfinity.unsigned?_eq_none {word : List Char} (hword : IsInfinity word)
    (negative : Bool) : unsigned? negative word = none := by
  rw [Option.eq_none_iff_forall_ne_some]
  intro literal hread
  obtain ⟨number, hnumber, -⟩ := DecimalText.exists_of_unsigned? hread
  obtain ⟨c, rest, hword, hlower⟩ := hword.exists_cons
  obtain ⟨d, behind, hchars, hhead⟩ := number.exists_chars_eq_cons
  rw [← hnumber, hchars, List.cons.injEq] at hword
  rw [← hword.1] at hlower
  rcases hhead with hdigit | rfl
  · rw [toLower_of_isDigit hdigit] at hlower
    rw [hlower] at hdigit
    cases hdigit
  · exact absurd hlower (by decide)

/-- The reader tries a number first, then a word. -/
theorem ofTrimmed_eq (chars : List Char) :
    ofTrimmed chars =
      match unsigned? (chars.head? == some '-') (behindSign chars) with
      | some literal => ofLiteral literal
      | none => (ofWord? (chars.head? == some '-') (behindSign chars)).getD .undefined := rfl

theorem ofTrimmed_of_spells {chars : List Char} {quantity : Quantity} (hsome : chars ≠ [])
    (hspells : Spells chars quantity) : ofTrimmed chars = quantity := by
  cases hspells with
  | blank => exact absurd rfl hsome
  | decimal sign number =>
      rw [ofTrimmed_eq, head?_sign_append sign number.unsigned_chars,
        behindSign_append sign number.unsigned_chars, number.unsigned?_chars]
  | infinity sign hword =>
      rw [ofTrimmed_eq, head?_sign_append sign hword.unsigned,
        behindSign_append sign hword.unsigned, hword.unsigned?_eq_none,
        ofWord?_of_isInfinity hword]
      rfl

theorem ofWord?_of_not_isInfinity {word : List Char} (hword : ¬IsInfinity word)
    (negative : Bool) : (ofWord? negative word).getD .undefined = .undefined := by
  rw [ofWord?]
  split
  · rename_i hinf
    exact absurd (.inl hinf) hword
  · rename_i hinfinity
    exact absurd (.inr hinfinity) hword
  · rfl
  · rfl

theorem spells_of_ofTrimmed {chars : List Char} (hsome : ofTrimmed chars ≠ .undefined) :
    Spells chars (ofTrimmed chars) := by
  obtain ⟨sign, hchars, hminus⟩ := exists_sign chars
  rw [ofTrimmed_eq, hminus] at hsome ⊢
  cases hread : unsigned? sign.isMinus (behindSign chars) with
  | some literal =>
      obtain ⟨number, hnumber, rfl⟩ := DecimalText.exists_of_unsigned? hread
      have hspells := Spells.decimal sign number
      rwa [hnumber, hchars] at hspells
  | none =>
      rw [hread] at hsome
      by_cases hword : IsInfinity (behindSign chars)
      · have hspells := Spells.infinity sign hword
        rwa [hchars, ← Option.getD_some (a := Quantity.infinite sign.isMinus) (b := .undefined),
          ← ofWord?_of_isInfinity hword] at hspells
      · exact absurd (ofWord?_of_not_isInfinity hword _) hsome

theorem spells_nil_iff {quantity : Quantity} : Spells [] quantity ↔ quantity = zero := by
  constructor
  · intro hspells
    generalize hchars : ([] : List Char) = chars at hspells
    cases hspells with
    | blank => rfl
    | decimal sign number =>
        obtain ⟨c, rest, hnumber, -⟩ := number.exists_chars_eq_cons
        rw [hnumber] at hchars
        exact absurd hchars.symm (List.append_ne_nil_of_right_ne_nil _ (List.cons_ne_nil _ _))
    | infinity sign hword =>
        obtain ⟨c, rest, rfl, -⟩ := hword.exists_cons
        exact absurd hchars.symm (List.append_ne_nil_of_right_ne_nil _ (List.cons_ne_nil _ _))
  · rintro rfl
    exact .blank

/-- What a text measures is what its spelling says, and a text that is spelled in no such way
measures nothing. -/
theorem ofText_eq_iff {quantity : Quantity} (hdefined : quantity ≠ .undefined) (text : String) :
    ofText text = quantity ↔ Spells (Unicode.trimChars text.toList) quantity := by
  rw [ofText]
  generalize Unicode.trimChars text.toList = chars
  by_cases hempty : chars = []
  · subst hempty
    rw [spells_nil_iff]
    exact eq_comm
  · rw [if_neg (by simpa using hempty)]
    constructor
    · rintro rfl
      exact spells_of_ofTrimmed hdefined
    · exact ofTrimmed_of_spells hempty

end Quantity

end Forms
