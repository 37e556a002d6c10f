import Forms.Proofs.Numbers.Text
import Forms.Readings
import Mathlib.Data.List.TakeWhile

/-!
# What the text of a number measures

A text measures what a decimal reader makes of it.  The text of a number measures the number itself,
whether it is printed like an integer or not, and a text with a comma or a brace in it measures
nothing at all.
-/

namespace Forms

namespace Unicode

/-- Trimming leaves a text as it is when none of its characters is blank. -/
theorem trimChars_eq_self {chars : List Char} (hchars : ∀ c ∈ chars, isBlank c = false) :
    trimChars chars = chars := by
  have hdrop : ∀ kept : List Char, (∀ c ∈ kept, isBlank c = false) →
      kept.dropWhile isBlank = kept := by
    intro kept hkept
    cases kept with
    | nil => rfl
    | cons c kept => exact List.dropWhile_cons_of_neg (by simp [hkept c List.mem_cons_self])
  rw [trimChars, hdrop chars hchars, hdrop _ (fun c hc => hchars c (List.mem_reverse.mp hc)),
    List.reverse_reverse]

theorem mem_dropWhile {chars : List Char} {c : Char} (hc : c ∈ chars) {test : Char → Bool}
    (htest : test c = false) : c ∈ chars.dropWhile test := by
  rw [← List.takeWhile_append_dropWhile (p := test) (l := chars), List.mem_append] at hc
  refine hc.resolve_left fun hbefore => ?_
  rw [List.mem_takeWhile_imp hbefore] at htest
  cases htest

theorem mem_trimChars {chars : List Char} {c : Char} (hc : c ∈ chars) (hblank : isBlank c = false) :
    c ∈ trimChars chars := by
  rw [trimChars, List.mem_reverse]
  exact mem_dropWhile (List.mem_reverse.mpr (mem_dropWhile hc hblank)) hblank

end Unicode

/-! ## Texts that measure nothing -/

namespace Quantity

open Unicode (mem_dropWhile mem_trimChars)

/-- Characters that stand in no number and in no word for one. -/
def strangers : List Char := [',', '\x7b']

theorem forall_strangers {P : Char → Prop} : (∀ c ∈ strangers, P c) ↔ P ',' ∧ P '\x7b' := by
  rw [strangers, List.forall_mem_cons, List.forall_mem_singleton]

theorem mem_drop_one {c : Char} {chars : List Char} (hc : c ∈ chars) {mark : Char}
    (hmark : chars.head? = some mark) (hne : c ≠ mark) : c ∈ chars.drop 1 := by
  cases chars with
  | nil => cases hmark
  | cons first rest =>
      cases hmark
      exact (List.mem_cons.mp hc).resolve_left hne

/-- Only a sign is dropped. -/
theorem mem_behind_sign {c : Char} {chars : List Char} (hc : c ∈ chars)
    (hsign : c ≠ '-' ∧ c ≠ '+') :
    c ∈ if chars.head? == some '-' || chars.head? == some '+' then chars.drop 1 else chars := by
  split
  · rename_i hhead
    rw [Bool.or_eq_true, beq_iff_eq, beq_iff_eq] at hhead
    rcases hhead with hminus | hplus
    · exact mem_drop_one hc hminus hsign.1
    · exact mem_drop_one hc hplus hsign.2
  · exact hc

theorem isDigit_stranger : ∀ c ∈ strangers, Token.isDigit c = false :=
  forall_strangers.mpr (by decide)

theorem sign_stranger : ∀ c ∈ strangers, c ≠ '-' ∧ c ≠ '+' := forall_strangers.mpr (by decide)

section

variable {c : Char} {chars : List Char} (hstranger : c ∈ strangers) (hc : c ∈ chars)
include hstranger hc

theorem mem_of_exponent? {exponent : Option Int} {rest : List Char}
    (hexponent : Token.exponent? chars = some (exponent, rest)) : c ∈ rest := by
  have hmark : ∀ c ∈ strangers, ¬(c = 'e' ∨ c = 'E') := forall_strangers.mpr (by decide)
  cases chars with
  | nil => cases hc
  | cons first others =>
      rw [Token.exponent?] at hexponent
      split at hexponent
      · rename_i hfirst
        have hothers : c ∈ others := by
          refine (List.mem_cons.mp hc).resolve_left ?_
          rintro rfl
          exact hmark _ hstranger hfirst
        have hbody := mem_behind_sign hothers (sign_stranger c hstranger)
        dsimp only at hexponent
        generalize (if others.head? == some '-' || others.head? == some '+' then others.drop 1
          else others) = body at hbody hexponent
        split at hexponent
        · cases hexponent
        · cases hexponent
          exact mem_dropWhile hbody (isDigit_stranger c hstranger)
      · cases hexponent
        exact hc

theorem unsigned?_of_mem (negative : Bool) : unsigned? negative chars = none := by
  have hpoint : ∀ c ∈ strangers, c ≠ '.' := forall_strangers.mpr (by decide)
  have hrest := mem_dropWhile hc (isDigit_stranger c hstranger)
  have hbehind : c ∈ if (chars.dropWhile Token.isDigit).head? == some '.' then
      ((chars.dropWhile Token.isDigit).drop 1).dropWhile Token.isDigit
      else chars.dropWhile Token.isDigit := by
    split
    · rename_i hhead
      have hdropped := mem_drop_one hrest (beq_iff_eq.mp hhead) (hpoint c hstranger)
      exact mem_dropWhile hdropped (isDigit_stranger c hstranger)
    · exact hrest
  simp only [unsigned?]
  generalize (if (chars.dropWhile Token.isDigit).head? == some '.' then
      ((chars.dropWhile Token.isDigit).drop 1).dropWhile Token.isDigit
      else chars.dropWhile Token.isDigit) = tail at hbehind ⊢
  have hleft : ∀ read, Token.exponent? tail = some read → ¬read.2.isEmpty = true := by
    rintro ⟨exponent, left⟩ hexponent
    rw [List.isEmpty_iff]
    exact List.ne_nil_of_mem (mem_of_exponent? hstranger hbehind hexponent)
  by_cases hdigits : (chars.takeWhile Token.isDigit).isEmpty && (if
      (chars.dropWhile Token.isDigit).head? == some '.' then
      ((chars.dropWhile Token.isDigit).drop 1).takeWhile Token.isDigit else []).isEmpty
  · exact if_pos hdigits
  · refine (if_neg hdigits).trans ?_
    cases hexponent : Token.exponent? tail with
    | none => rfl
    | some read => exact if_neg (hleft read hexponent)

theorem ofWord?_of_mem (negative : Bool) : ofWord? negative chars = none := by
  have hwords : ∀ c ∈ strangers, ∀ word ∈ ["inf", "infinity", "nan"], c.toLower ∉ word.toList :=
    forall_strangers.mpr (by decide)
  have hlower : c.toLower ∈ (String.ofList (chars.map Char.toLower)).toList := by
    rw [String.toList_ofList]
    exact List.mem_map_of_mem hc
  rw [ofWord?]
  split
  · rename_i hword
    rw [hword] at hlower
    exact absurd hlower (hwords c hstranger "inf" (by decide))
  · rename_i hword
    rw [hword] at hlower
    exact absurd hlower (hwords c hstranger "infinity" (by decide))
  · rename_i hword
    rw [hword] at hlower
    exact absurd hlower (hwords c hstranger "nan" (by decide))
  · rfl

/-- A text with such a character in it measures nothing. -/
theorem ofText_of_mem {text : String} (htext : text.toList = chars) :
    ofText text = .undefined := by
  have hblank : ∀ c ∈ strangers, Unicode.isBlank c = false := forall_strangers.mpr (by decide)
  have htrimmed := mem_trimChars hc (hblank c hstranger)
  have hempty : (Unicode.trimChars chars).isEmpty = false := by
    rw [List.isEmpty_eq_false_iff]
    exact List.ne_nil_of_mem htrimmed
  have hbody := mem_behind_sign htrimmed (sign_stranger c hstranger)
  rw [ofText, htext]
  simp only [hempty, Bool.false_eq_true, if_false, ofTrimmed]
  rw [unsigned?_of_mem hstranger hbody, ofWord?_of_mem hstranger hbody]
  rfl

end

end Quantity

/-! ## Texts of numbers -/

namespace Token

theorem isBlank_of_isDigit {c : Char} (hdigit : isDigit c = true) :
    Unicode.isBlank c = false := by
  have hrange : 48 ≤ c.toNat ∧ c.toNat ≤ 57 := by
    simpa [isDigit, Char.le_def, UInt32.le_iff_toNat_le] using hdigit
  have hnone : ∀ code < 58, 48 ≤ code → Unicode.blankRanges.contains code = false := by decide
  exact hnone c.toNat (by omega) hrange.1

namespace NumberParts

theorem isBlank_of_mem (parts : NumberParts) : ∀ c ∈ parts.chars, Unicode.isBlank c = false := by
  have hdigits {chars : List Char} (hchars : AllDigits chars) :
      ∀ c ∈ chars, Unicode.isBlank c = false := fun c hc => isBlank_of_isDigit (hchars c hc)
  have hfraction : ∀ c ∈ fractionChars parts.decimals, Unicode.isBlank c = false := by
    rw [fractionChars]
    split
    · exact List.forall_mem_nil _
    · exact List.forall_mem_cons.mpr ⟨by decide, hdigits parts.decimals_digits⟩
  have hexponent : ∀ c ∈ exponentChars parts.exponent, Unicode.isBlank c = false := by
    cases parts.exponent with
    | none => exact List.forall_mem_nil _
    | some exponent =>
        rw [exponentChars]
        refine List.forall_mem_cons.mpr ⟨by decide, List.forall_mem_cons.mpr ⟨?_, ?_⟩⟩
        · split <;> decide
        · exact hdigits (allDigits_toDigits _)
  rw [chars, unsigned]
  refine List.forall_mem_append.mpr ⟨?_, List.forall_mem_append.mpr
    ⟨hdigits parts.whole_digits, List.forall_mem_append.mpr ⟨hfraction, hexponent⟩⟩⟩
  split
  · exact List.forall_mem_singleton.mpr (by decide)
  · exact List.forall_mem_nil _

/-- Behind the sign a number is read as it is in a document. -/
theorem unsigned?_unsigned (parts : NumberParts) (negative : Bool) :
    Quantity.unsigned? negative parts.unsigned =
      some { parts.literal with negative } := by
  obtain ⟨sign, whole, decimals, exponent, hwhole, hsome, hlead, hdecimals⟩ := parts
  have hend : EndsNumber [] := by simp [EndsNumber]
  have hread := exponent?_exponentChars exponent hend
  rw [List.append_nil] at hread
  have hexponent : ∀ c ∈ (exponentChars exponent).head?, isDigit c = false ∧ c ≠ '.' := by
    cases exponent with
    | none => simp [exponentChars]
    | some exponent => simp [exponentChars, isDigit]
  have hfraction : ∀ c ∈ (fractionChars decimals ++ exponentChars exponent).head?,
      isDigit c = false := by
    cases decimals with
    | nil => exact fun c hc => (hexponent c hc).1
    | cons c decimals => simp [fractionChars, isDigit]
  have hdigits := takeWhile_isDigit hwhole hfraction
  have hafter := dropWhile_isDigit hwhole hfraction
  simp only [Quantity.unsigned?, unsigned, literal, hdigits, hafter]
  have hwhole : whole.isEmpty = false := by simpa using hsome
  cases decimals with
  | nil =>
      have hpoint : ((exponentChars exponent).head? == some '.') = false := by
        rw [beq_eq_false_iff_ne]
        intro hhead
        exact (hexponent '.' hhead).2 rfl
      simp [fractionChars, hpoint, hread, hwhole]
  | cons c decimals =>
      have hbehind : ∀ c ∈ (exponentChars exponent).head?, isDigit c = false :=
        fun c hc => (hexponent c hc).1
      have htake := takeWhile_isDigit hdecimals hbehind
      have hdrop := dropWhile_isDigit hdecimals hbehind
      rw [List.cons_append] at htake hdrop
      simp [fractionChars, hread, hwhole, htake, hdrop]

/-- Without its sign a number begins with a digit. -/
theorem head?_unsigned (parts : NumberParts) :
    ∃ c, parts.unsigned.head? = some c ∧ isDigit c = true := by
  obtain ⟨lead, others, hwhole⟩ := List.exists_cons_of_ne_nil parts.whole_ne_nil
  refine ⟨lead, ?_, parts.whole_digits lead (by simp [hwhole])⟩
  rw [unsigned, hwhole, List.cons_append, List.head?_cons]

theorem ofTrimmed_chars (parts : NumberParts) :
    Quantity.ofTrimmed parts.chars = Quantity.ofLiteral parts.literal := by
  have hliteral (negative : Bool) (hnegative : parts.negative = negative) :
      Quantity.ofLiteral { parts.literal with negative } = Quantity.ofLiteral parts.literal := by
    rw [← hnegative]
    rfl
  obtain ⟨lead, hlead, hdigit⟩ := parts.head?_unsigned
  cases hnegative : parts.negative with
  | true =>
      have hchars : parts.chars = '-' :: parts.unsigned := by
        rw [chars, hnegative]
        rfl
      rw [hchars, ← hliteral true hnegative]
      simp [Quantity.ofTrimmed, unsigned?_unsigned]
  | false =>
      have hchars : parts.chars = parts.unsigned := by
        rw [chars, hnegative]
        rfl
      have hminus : (lead == '-') = false := by
        rw [beq_eq_false_iff_ne]
        rintro rfl
        cases hdigit
      have hplus : (lead == '+') = false := by
        rw [beq_eq_false_iff_ne]
        rintro rfl
        cases hdigit
      rw [hchars, ← hliteral false hnegative]
      simp [Quantity.ofTrimmed, hlead, hminus, hplus, unsigned?_unsigned]

/-- A number measures what its literal stands for. -/
theorem ofText_chars (parts : NumberParts) :
    Quantity.ofText (String.ofList parts.chars) = Quantity.ofLiteral parts.literal := by
  have hempty : parts.chars.isEmpty = false := by
    obtain ⟨first, others, hfirst, -⟩ := parts.exists_chars_eq_cons
    rw [hfirst]
    rfl
  rw [Quantity.ofText, String.toList_ofList, Unicode.trimChars_eq_self parts.isBlank_of_mem]
  simp only [hempty, Bool.false_eq_true, if_false, ofTrimmed_chars]

end NumberParts

end Token

/-! ## Numbers -/

namespace Double

theorem units_of_isZero {d : Double} (hzero : d.mantissa = 0) : d.units = 0 := by
  simp [units, magnitude, hzero]

theorem roundHalfEven_near (numerator denominator : Nat) :
    numerator / denominator ≤ roundHalfEven numerator denominator ∧
      roundHalfEven numerator denominator ≤ numerator / denominator + 1 := by
  simp only [roundHalfEven]
  split <;> omega

/-- A number of units of moderate length is rounded to a double. -/
theorem exists_ofParts? (negative : Bool) {scaled bits : Nat} (hbits : 53 ≤ bits ∧ bits ≤ 1900)
    (hlow : 2 ^ bits ≤ scaled) (hhigh : scaled < 2 ^ (bits + 64)) :
    ∃ d, (if roundHalfEven scaled (2 ^ (scaled.log2 - 52)) = 2 ^ 53 then
        ofParts? negative (2 ^ 52) (scaled.log2 - 52 + 1)
      else ofParts? negative (roundHalfEven scaled (2 ^ (scaled.log2 - 52)))
        (scaled.log2 - 52)) = some d := by
  have hpos : scaled ≠ 0 := Nat.ne_of_gt (Nat.lt_of_lt_of_le (Nat.two_pow_pos bits) hlow)
  have hleast : bits ≤ scaled.log2 := (Nat.le_log2 hpos).mpr hlow
  have hmost : scaled.log2 < bits + 64 := (Nat.log2_lt hpos).mpr hhigh
  have hbegin := Nat.log2_self_le hpos
  have hend : scaled < 2 ^ (scaled.log2 + 1) := Nat.lt_log2_self
  obtain ⟨exponent, hexponent⟩ : ∃ exponent, scaled.log2 = 52 + exponent :=
    ⟨scaled.log2 - 52, by omega⟩
  rw [hexponent, Nat.pow_add] at hbegin
  rw [hexponent, Nat.add_right_comm, Nat.pow_add] at hend
  rw [hexponent, Nat.add_sub_cancel_left]
  have hquotient : 2 ^ 52 ≤ scaled / 2 ^ exponent ∧ scaled / 2 ^ exponent < 2 ^ 53 :=
    ⟨(Nat.le_div_iff_mul_le (Nat.two_pow_pos _)).mpr hbegin,
      (Nat.div_lt_iff_lt_mul (Nat.two_pow_pos _)).mpr hend⟩
  have hround := roundHalfEven_near scaled (2 ^ exponent)
  split
  · refine ⟨_, dif_pos ⟨by decide, by omega, Or.inr (Nat.le_refl _)⟩⟩
  · rename_i hcarry
    simp only [ofParts?, Canonical, Nat.pow_eq]
    refine ⟨_, dif_pos ⟨by omega, by omega, Or.inr (by omega)⟩⟩

/-- Every integer of a document lies within the range of doubles. -/
theorem exists_ofRatio? (negative : Bool) {value : Nat} (hpos : 0 < value)
    (hvalue : value < 2 ^ 64) : ∃ d, ofRatio? negative value 1 = some d := by
  have hunit : 53 ≤ unitBits ∧ unitBits ≤ 1900 := by decide
  simp only [ofRatio?, Nat.pow_eq, Nat.div_one, Nat.one_mul]
  generalize unitBits = bits at hunit ⊢
  have hlow : 2 ^ bits ≤ value * 2 ^ bits := Nat.le_mul_of_pos_left _ hpos
  have hhigh : value * 2 ^ bits < 2 ^ (bits + 64) := by
    rw [Nat.pow_add, Nat.mul_comm (2 ^ bits)]
    exact Nat.mul_lt_mul_of_pos_right hvalue (Nat.two_pow_pos _)
  have hlarge : 2 ^ 53 ≤ value * 2 ^ bits :=
    Nat.le_trans (Nat.pow_le_pow_right (by decide) hunit.1) hlow
  rw [if_neg (Nat.not_lt_of_le hlarge)]
  exact exists_ofParts? negative hunit hlow hhigh

theorem ofInt?_zero : ofInt? 0 = some zero := by
  simp [ofInt?, ofRatio?, roundHalfEven, ofParts?, Canonical, zero]

/-- Whole numbers are read from their digits. -/
theorem exists_ofScientific? (negative : Bool) {value : Nat} (hvalue : value < 2 ^ 64) :
    ∃ d, ofScientific? negative value 0 = some d ∧
      d.units = ((ofInt? (if negative then -(value : Int) else value)).getD zero).units := by
  rcases Nat.eq_zero_or_pos value with rfl | hpos
  · refine ⟨{ zero with negative }, rfl, ?_⟩
    have hsigned : (if negative then -((0 : Nat) : Int) else (0 : Nat)) = 0 := by
      cases negative <;> rfl
    rw [hsigned, ofInt?_zero, Option.getD_some, units_of_isZero rfl, units_of_isZero rfl]
  · have hsigned : ofInt? (if negative then -(value : Int) else value) =
        ofRatio? negative value 1 := by
      cases negative with
      | true =>
          have hsign : decide (-(value : Int) < 0) = true := decide_eq_true (by omega)
          rw [if_pos rfl, ofInt?, hsign, Int.natAbs_neg, Int.natAbs_natCast]
      | false =>
          have hsign : decide ((value : Int) < 0) = false := decide_eq_false (by omega)
          rw [if_neg Bool.false_ne_true, ofInt?, hsign, Int.natAbs_natCast]
    obtain ⟨d, hd⟩ := exists_ofRatio? negative hpos hvalue
    refine ⟨d, ?_, ?_⟩
    · rw [ofScientific?, if_neg (Nat.ne_of_gt hpos), ← hd]
      simp
    · rw [hsigned, hd, Option.getD_some]

/-- A double without a fraction is a whole number of ones. -/
theorem magnitude_of_isIntegral {d : Double} (hintegral : d.isIntegral = true) :
    d.magnitude = d.wholePart * 2 ^ unitBits := by
  simp only [isIntegral, wholePart, beq_iff_eq, Nat.pow_eq] at hintegral ⊢
  generalize 2 ^ unitBits = one at hintegral ⊢
  exact (Nat.div_mul_cancel (Nat.dvd_of_mod_eq_zero hintegral)).symm

theorem absorbs_magnitude {d : Double} (hnonzero : d.mantissa ≠ 0) :
    d.absorbs (4 * d.magnitude) 1 = true := by
  have hlower := d.lowerGap_pos
  have hupper := Nat.two_pow_pos d.exponent
  rw [absorbs_iff Nat.one_pos hnonzero, upperGap_eq]
  omega

/-- A double without a fraction is read back from its whole part. -/
theorem exists_ofScientific?_wholePart {value : Double} (hintegral : value.isIntegral = true) :
    ∃ d, ofScientific? value.negative value.wholePart 0 = some d ∧ d.units = value.units := by
  have hmagnitude := magnitude_of_isIntegral hintegral
  rcases Nat.eq_zero_or_pos value.wholePart with hwhole | hwhole
  · refine ⟨{ zero with negative := value.negative }, ?_, ?_⟩
    · rw [hwhole]
      rfl
    · rw [hwhole, Nat.zero_mul] at hmagnitude
      rw [units_of_isZero rfl, units, hmagnitude]
      simp
  · have hnonzero : value.mantissa ≠ 0 := by
      intro hzero
      rw [wholePart, magnitude, hzero, Nat.zero_mul, Nat.zero_div] at hwhole
      exact absurd hwhole (Nat.lt_irrefl 0)
    refine ⟨value, ?_, rfl⟩
    have hratio : ofRatio? value.negative value.wholePart 1 = some value := by
      apply ofRatio?_of_absorbs Nat.one_pos hnonzero
      rw [← hmagnitude]
      exact absorbs_magnitude hnonzero
    rw [ofScientific?, if_neg (Nat.ne_of_gt hwhole), ← hratio]
    simp

end Double

namespace Number

/-- What is written without point and exponent is a whole number. -/
theorem exponent_of_plain {literal : NumberLiteral} (hplain : literal.plain = true) :
    literal.exponent = 0 := by
  rw [NumberLiteral.plain, Bool.and_eq_true, List.isEmpty_iff,
    Option.isNone_iff_eq_none] at hplain
  rw [NumberLiteral.exponent, hplain.1, hplain.2]
  rfl

theorem lt_of_inRange {negative : Bool} {value : Nat}
    (hrange : InRange (if negative then -(value : Int) else value)) : value < 2 ^ 64 := by
  have hbound : (2 : Nat) ^ 64 = 18446744073709551616 := by norm_num
  rw [hbound]
  cases negative with
  | true =>
      rw [if_pos rfl] at hrange
      obtain ⟨hleast, -⟩ := hrange
      omega
  | false =>
      rw [if_neg Bool.false_ne_true] at hrange
      obtain ⟨-, hmost⟩ := hrange
      omega

/-- The literal that a number is nearest to measures as much as the number. -/
theorem exists_ofScientific?_of_nearest? {literal : NumberLiteral} {number : Number}
    (hnearest : nearest? literal = some number) :
    ∃ d, Double.ofScientific? literal.negative literal.digits literal.exponent = some d ∧
      d.units = number.toDouble.units := by
  have hdouble : (Double.ofScientific? literal.negative literal.digits literal.exponent).map
      Number.double = some number →
      ∃ d, Double.ofScientific? literal.negative literal.digits literal.exponent = some d ∧
        d.units = number.toDouble.units := by
    intro hmap
    obtain ⟨d, hd, rfl⟩ := Option.map_eq_some_iff.mp hmap
    exact ⟨d, hd, rfl⟩
  by_cases hplain : (literal.plain && !(literal.negative && literal.digits == 0)) = true
  · rw [nearest?, integerOr, if_pos hplain] at hnearest
    by_cases hrange : InRange (if literal.negative then -(literal.digits : Int) else literal.digits)
    · rw [dif_pos hrange] at hnearest
      cases hnearest
      rw [exponent_of_plain (Bool.and_eq_true_iff.mp hplain).1]
      exact Double.exists_ofScientific? _ (lt_of_inRange hrange)
    · rw [dif_neg hrange] at hnearest
      exact hdouble hnearest
  · rw [nearest?, integerOr, if_neg hplain] at hnearest
    exact hdouble hnearest

theorem exists_ofText_text (number : Number) :
    ∃ d, Quantity.ofText (String.ofList number.text) = .finite d ∧
      d.units = number.toDouble.units := by
  obtain ⟨parts, hnearest, hchars⟩ := number.exists_parts
  obtain ⟨d, hd, hunits⟩ := exists_ofScientific?_of_nearest? hnearest
  refine ⟨d, ?_, hunits⟩
  rw [← hchars, parts.ofText_chars, Quantity.ofLiteral, hd]

/-- The text that a number is read as measures the number. -/
theorem exists_ofText_readingText (number : Number) :
    ∃ d, Quantity.ofText (String.ofList number.readingText) = .finite d ∧
      d.units = number.toDouble.units := by
  cases number with
  | integer value inRange => exact exists_ofText_text (.integer value inRange)
  | double value =>
      by_cases hshort : (value.isIntegral && value.wholePart < Nat.pow 10 15) = true
      · rw [readingText, if_pos hshort]
        obtain ⟨d, hd, hunits⟩ :=
          Double.exists_ofScientific?_wholePart (Bool.and_eq_true_iff.mp hshort).1
        refine ⟨d, ?_, hunits⟩
        have hexponent : (wholeParts value.negative value.wholePart).literal.exponent = 0 :=
          exponent_of_plain rfl
        have hread : Double.ofScientific? (wholeParts value.negative value.wholePart).literal.negative
            (wholeParts value.negative value.wholePart).literal.digits
            (wholeParts value.negative value.wholePart).literal.exponent = some d := by
          rw [hexponent, digits_wholeParts]
          exact hd
        rw [← chars_wholeParts, Token.NumberParts.ofText_chars, Quantity.ofLiteral, hread]
      · rw [readingText, if_neg hshort]
        exact exists_ofText_text (.double value)

end Number

end Forms
