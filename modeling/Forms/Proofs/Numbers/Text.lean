import Forms.Json.Token
import Forms.Proofs.Numbers.Shortest
import Mathlib.Tactic.IntervalCases

/-!
# A printed number tells which one it is

Reading cuts a number into a sign, whole digits, decimals and an exponent.  The printer writes
nothing else, so what a printed number says can be told part by part: an integer says itself, and a
double its shortest decimal, or a whole multiple of a tenth when it is printed with `.0`.  No other
double is as near to that decimal, whatever a reader that rounds more than once makes of it.
-/

namespace Forms

namespace Token

/-- What may come behind a number without belonging to it. -/
def EndsNumber (rest : List Char) : Prop :=
  ∀ c ∈ rest.head?, isDigit c = false ∧ c ≠ '.' ∧ c ≠ 'e' ∧ c ≠ 'E'

/-! ## Digits -/

/-- A list of digits. -/
def AllDigits (chars : List Char) : Prop := ∀ c ∈ chars, isDigit c = true

theorem AllDigits.append {left right : List Char} (hleft : AllDigits left)
    (hright : AllDigits right) : AllDigits (left ++ right) :=
  fun c hc => (List.mem_append.mp hc).elim (hleft c) (hright c)

theorem allDigits_toDigits (value : Nat) : AllDigits (Nat.toDigits 10 value) := by
  intro c hc
  have hdigit := Nat.isDigit_of_mem_toDigits (by decide) (by decide) hc
  simpa [isDigit, Char.isDigit, Char.le_def] using hdigit

theorem allDigits_replicate (count : Nat) : AllDigits (List.replicate count '0') := by
  intro c hc
  rw [List.eq_of_mem_replicate hc]
  decide

theorem takeWhile_isDigit {digits tail : List Char} (hdigits : AllDigits digits)
    (htail : ∀ c ∈ tail.head?, isDigit c = false) :
    (digits ++ tail).takeWhile isDigit = digits := by
  rw [List.takeWhile_append_of_pos hdigits]
  cases tail with
  | nil => simp
  | cons c tail => simp [htail c rfl]

theorem dropWhile_isDigit {digits tail : List Char} (hdigits : AllDigits digits)
    (htail : ∀ c ∈ tail.head?, isDigit c = false) :
    (digits ++ tail).dropWhile isDigit = tail := by
  rw [List.dropWhile_append_of_pos hdigits]
  cases tail with
  | nil => simp
  | cons c tail => simp [htail c rfl]

theorem digitsValue_eq (digits : List Char) :
    digitsValue digits = Nat.ofDigitChars 10 digits 0 := by
  simp only [digitsValue, digitValue, Nat.ofDigitChars, Nat.mul_comm 10]

theorem digitsValue_toDigits (value : Nat) : digitsValue (Nat.toDigits 10 value) = value := by
  rw [digitsValue_eq, Nat.ofDigitChars_ten_toDigits]

theorem digitsValue_zeros_append (count : Nat) (digits : List Char) :
    digitsValue (List.replicate count '0' ++ digits) = digitsValue digits := by
  rw [digitsValue_eq, digitsValue_eq, Nat.ofDigitChars_append, Nat.ofDigitChars_replicate_zero,
    Nat.mul_zero]

theorem digitsValue_append_zeros (digits : List Char) (count : Nat) :
    digitsValue (digits ++ List.replicate count '0') = digitsValue digits * 10 ^ count := by
  rw [digitsValue_eq, digitsValue_eq, Nat.ofDigitChars_append, Nat.ofDigitChars_replicate_zero,
    Nat.mul_comm]

/-- Only zero is printed with a leading zero. -/
theorem head?_toDigits {value : Nat} (hvalue : value ≠ 0) :
    (Nat.toDigits 10 value).head? ≠ some '0' := by
  induction value using Nat.strongRecOn with
  | ind value ih =>
      rcases Nat.lt_or_ge value 10 with hsmall | hlarge
      · rw [Nat.toDigits_of_lt_base hsmall]
        interval_cases value <;> simp_all
      · have hshorter := ih (value / 10) (Nat.div_lt_self (by omega) (by decide)) (by omega)
        obtain ⟨lead, others, hdigits⟩ := List.exists_cons_of_ne_nil
          (show Nat.toDigits 10 (value / 10) ≠ [] from Nat.toDigits_ne_nil)
        rw [Nat.toDigits_of_base_le (by decide) hlarge]
        rw [hdigits] at hshorter ⊢
        exact hshorter

/-! ## The parts of a number -/

/-- Decimals behind their point. -/
def fractionChars (decimals : List Char) : List Char :=
  if decimals.isEmpty then [] else '.' :: decimals

/-- An exponent behind its mark, always with a sign. -/
def exponentChars : Option Int → List Char
  | none => []
  | some exponent =>
    'e' :: (if exponent < 0 then '-' else '+') :: Nat.toDigits 10 exponent.natAbs

theorem exponent?_exponentChars (exponent : Option Int) {rest : List Char}
    (hrest : EndsNumber rest) :
    exponent? (exponentChars exponent ++ rest) = some (exponent, rest) := by
  have hdigits (value : Nat) := takeWhile_isDigit (allDigits_toDigits value)
    fun c hc => (hrest c hc).1
  have hafter (value : Nat) := dropWhile_isDigit (allDigits_toDigits value)
    fun c hc => (hrest c hc).1
  cases exponent with
  | none =>
      match rest, hrest with
      | [], _ => rfl
      | c :: rest, hrest =>
          obtain ⟨-, -, hlower, hupper⟩ := hrest c rfl
          simp [exponentChars, exponent?, hlower, hupper]
  | some exponent =>
      have hempty : (Nat.toDigits 10 exponent.natAbs).isEmpty = false := by
        simp [Nat.toDigits_ne_nil]
      by_cases hneg : exponent < 0
      · simp [exponentChars, exponent?, hneg, hdigits, hafter, hempty, digitsValue_toDigits,
          abs_of_neg hneg]
      · simp [exponentChars, exponent?, hneg, hdigits, hafter, hempty, digitsValue_toDigits,
          abs_of_nonneg (not_lt.mp hneg)]

theorem fraction?_fractionChars {decimals tail : List Char} (hdecimals : AllDigits decimals)
    (htail : ∀ c ∈ tail.head?, isDigit c = false ∧ c ≠ '.') :
    fraction? (fractionChars decimals ++ tail) = some (decimals, tail) := by
  cases decimals with
  | nil =>
      match tail, htail with
      | [], _ => rfl
      | c :: tail, htail =>
          have hpoint := (htail c rfl).2
          simp only [fractionChars, List.isEmpty_nil, if_true, List.nil_append]
          rw [fraction?]
          intro _ heq
          exact hpoint (by cases heq; rfl)
  | cons c decimals =>
      have hdigits := takeWhile_isDigit hdecimals fun c hc => (htail c hc).1
      have hafter := dropWhile_isDigit hdecimals fun c hc => (htail c hc).1
      simp only [fractionChars, List.isEmpty_cons, Bool.false_eq_true, if_false, List.cons_append,
        fraction?] at *
      rw [hdigits, hafter]
      rfl

/-- What a number is written with. -/
structure NumberParts where
  negative : Bool
  whole : List Char
  decimals : List Char
  exponent : Option Int
  whole_digits : AllDigits whole
  whole_ne_nil : whole ≠ []
  /-- A zero leads only when it is the only digit. -/
  whole_lead : whole.head? ≠ some '0' ∨ whole.length = 1
  decimals_digits : AllDigits decimals

namespace NumberParts

def unsigned (parts : NumberParts) : List Char :=
  parts.whole ++ (fractionChars parts.decimals ++ exponentChars parts.exponent)

def chars (parts : NumberParts) : List Char :=
  (if parts.negative then ['-'] else []) ++ parts.unsigned

def literal (parts : NumberParts) : NumberLiteral :=
  ⟨parts.negative, parts.whole, parts.decimals, parts.exponent⟩

@[simp]
theorem digits_literal (parts : NumberParts) :
    parts.literal.digits = digitsValue (parts.whole ++ parts.decimals) := rfl

@[simp]
theorem exponent_literal (parts : NumberParts) :
    parts.literal.exponent = parts.exponent.getD 0 - parts.decimals.length := by
  rw [literal, NumberLiteral.exponent]

@[simp]
theorem plain_literal (parts : NumberParts) :
    parts.literal.plain = (parts.decimals.isEmpty && parts.exponent.isNone) := by
  rw [literal, NumberLiteral.plain]

/-- A number is read part by part. -/
theorem number?_chars (parts : NumberParts) {rest : List Char} (hrest : EndsNumber rest) :
    number? (parts.chars ++ rest) = some (parts.literal, rest) := by
  obtain ⟨negative, whole, decimals, exponent, hwhole, hsome, hlead, hdecimals⟩ := parts
  have hexponent : ∀ c ∈ (exponentChars exponent ++ rest).head?, isDigit c = false ∧ c ≠ '.' := by
    cases exponent with
    | none => exact fun c hc => ⟨(hrest c hc).1, (hrest c hc).2.1⟩
    | some exponent => simp [exponentChars, isDigit]
  have hfraction : ∀ c ∈ (fractionChars decimals ++ (exponentChars exponent ++ rest)).head?,
      isDigit c = false := by
    cases decimals with
    | nil => exact fun c hc => (hexponent c hc).1
    | cons c decimals => simp [fractionChars, isDigit]
  have hdigits := takeWhile_isDigit hwhole hfraction
  have hafter := dropWhile_isDigit hwhole hfraction
  have hread := fraction?_fractionChars hdecimals hexponent
  have hvalid : (whole.isEmpty || (whole.head? == some '0' && whole.length != 1)) = false := by
    simpa [hsome, or_iff_not_imp_left] using hlead
  simp only [chars, unsigned, literal, List.append_assoc]
  cases negative with
  | true =>
      simp [number?, hdigits, hafter, hread, hvalid, exponent?_exponentChars exponent hrest]
  | false =>
      have hsign : ((whole ++ (fractionChars decimals ++
          (exponentChars exponent ++ rest))).head? == some '-') = false := by
        obtain ⟨lead, others, rfl⟩ := List.exists_cons_of_ne_nil hsome
        have hdigit := hwhole lead (by simp)
        rw [List.cons_append, List.head?_cons]
        refine decide_eq_false fun hminus => ?_
        cases hminus
        cases hdigit
      simp only [number?, Bool.false_eq_true, if_false, List.nil_append, hsign, hdigits, hafter,
        hread, hvalid, Option.bind_eq_bind, Option.bind_some,
        exponent?_exponentChars exponent hrest]

theorem exists_chars_eq_cons (parts : NumberParts) :
    ∃ c others, parts.chars = c :: others ∧ (c = '-' ∨ isDigit c = true) := by
  cases hnegative : parts.negative with
  | true => exact ⟨'-', parts.unsigned, by simp [chars, hnegative], Or.inl rfl⟩
  | false =>
      obtain ⟨lead, others, hwhole⟩ := List.exists_cons_of_ne_nil parts.whole_ne_nil
      exact ⟨lead, _, by simp [chars, unsigned, hnegative, hwhole]; rfl,
        Or.inr (parts.whole_digits lead (by simp [hwhole]))⟩

end NumberParts

end Token

open Token

/-- The number nearest to what a literal writes: what it is read as where one rounding is enough. -/
def Number.nearest? (literal : NumberLiteral) : Option Number :=
  integerOr (Double.ofScientific? literal.negative literal.digits literal.exponent) literal

/-! ## Doubles -/

namespace Double

variable {d : Double}

theorem nearest?_of_takes (hnonzero : d.mantissa ≠ 0) {literal : NumberLiteral}
    (hnegative : literal.negative = d.negative) (hplain : literal.plain = false)
    (htakes : d.Takes ⟨literal.digits, literal.exponent⟩) :
    Number.nearest? literal = some (.double d) := by
  have hread := ofScientific?_of_takes hnonzero htakes
  simp only at hread
  simp only [Number.nearest?, Number.integerOr, hplain, hnegative, hread, Bool.false_and,
    Bool.false_eq_true, if_false, Option.map_some]

/-- Zero is held with mantissa and exponent zero. -/
theorem eq_zero (hzero : d.mantissa = 0) : d = { zero with negative := d.negative } := by
  obtain ⟨negative, mantissa, exponent, hcanonical⟩ := d
  simp only at hzero
  subst hzero
  have hexponent : exponent = 0 := hcanonical.2.2.resolve_right (by decide)
  subst hexponent
  rfl

/-- The digits of a number other than zero, with their value. -/
structure LeadingDigits (digits : List Char) (value : Nat) : Prop where
  all_digits : AllDigits digits
  ne_nil : digits ≠ []
  head?_ne : digits.head? ≠ some '0'
  digitsValue_eq : digitsValue digits = value

theorem leadingDigits_toDigits {value : Nat} (hvalue : value ≠ 0) :
    LeadingDigits (Nat.toDigits 10 value) value :=
  ⟨allDigits_toDigits value, Nat.toDigits_ne_nil, head?_toDigits hvalue, digitsValue_toDigits value⟩

/-- The text without its sign writes, behind the sign, a number that the double is nearest to. -/
def WrittenAs (d : Double) (text : List Char) : Prop :=
  ∃ parts : NumberParts, parts.negative = d.negative ∧
    Number.nearest? parts.literal = some (.double d) ∧ parts.unsigned = text

variable {digits : List Char} {value : Nat} {exponent : Int}

/-- A number below one: a zero stands before the point, and more of them behind it. -/
theorem writtenAs_small (hnonzero : d.mantissa ≠ 0) (hdigits : LeadingDigits digits value)
    (htakes : d.Takes ⟨value, exponent⟩) (hpoint : digits.length + exponent ≤ 0) :
    d.WrittenAs
      ('0' :: '.' :: (List.replicate (digits.length + exponent).natAbs '0' ++ digits)) := by
  refine ⟨⟨d.negative, ['0'], List.replicate (digits.length + exponent).natAbs '0' ++ digits, none,
    allDigits_replicate 1, by simp, by simp, (allDigits_replicate _).append hdigits.all_digits⟩,
    rfl, nearest?_of_takes hnonzero rfl ?_ ?_, ?_⟩
  · simp [hdigits.ne_nil]
  · have hvalue : digitsValue (List.replicate 1 '0' ++
        (List.replicate (digits.length + exponent).natAbs '0' ++ digits)) = value := by
      rw [digitsValue_zeros_append, digitsValue_zeros_append, hdigits.digitsValue_eq]
    have hexponent : (0 : Int) - (List.replicate (digits.length + exponent).natAbs '0'
        ++ digits).length = exponent := by
      rw [List.length_append, List.length_replicate]
      omega
    rw [List.replicate_one] at hvalue
    simp only [NumberParts.digits_literal, NumberParts.exponent_literal, Option.getD_none, hexponent,
      hvalue]
    exact htakes
  · simp [NumberParts.unsigned, fractionChars, exponentChars, hdigits.ne_nil]

/-- A whole number: zeros fill it up to the point, and one of them stands behind. -/
theorem writtenAs_whole (hnonzero : d.mantissa ≠ 0) (hdigits : LeadingDigits digits value)
    (htakes : d.Takes ⟨value, exponent⟩) (hpoint : 0 ≤ exponent) :
    d.WrittenAs (digits ++ List.replicate exponent.toNat '0' ++ ['.', '0']) := by
  refine ⟨⟨d.negative, digits ++ List.replicate exponent.toNat '0', ['0'], none,
    hdigits.all_digits.append (allDigits_replicate _), by simp [hdigits.ne_nil], ?_,
    allDigits_replicate 1⟩, rfl, nearest?_of_takes hnonzero rfl rfl ?_, ?_⟩
  · obtain ⟨lead, others, rfl⟩ := List.exists_cons_of_ne_nil hdigits.ne_nil
    exact Or.inl hdigits.head?_ne
  · have hvalue := digitsValue_append_zeros digits (exponent.toNat + 1)
    rw [← List.replicate_append_replicate, ← List.append_assoc, hdigits.digitsValue_eq] at hvalue
    simp only [NumberParts.digits_literal, NumberParts.exponent_literal, Option.getD_none]
    rw [show ['0'] = List.replicate 1 '0' from rfl, hvalue, takes_mul_pow]
    rwa [show (0 : Int) - (List.replicate 1 '0').length + (exponent.toNat + 1 : Nat) = exponent by
      rw [List.length_replicate]; omega]
  · simp [NumberParts.unsigned, fractionChars, exponentChars]

/-- A number with digits on both sides of the point. -/
theorem writtenAs_split (hnonzero : d.mantissa ≠ 0) (hdigits : LeadingDigits digits value)
    (htakes : d.Takes ⟨value, exponent⟩) {point : Nat}
    (hpoint : (point : Int) = digits.length + exponent) (hpos : 0 < point)
    (hless : point < digits.length) :
    d.WrittenAs (digits.take point ++ '.' :: digits.drop point) := by
  have hwhole : digits.take point ≠ [] := by
    simp [hdigits.ne_nil, Nat.ne_of_gt hpos]
  refine ⟨⟨d.negative, digits.take point, digits.drop point, none,
    fun c hc => hdigits.all_digits c (List.mem_of_mem_take hc), hwhole, ?_,
    fun c hc => hdigits.all_digits c (List.mem_of_mem_drop hc)⟩,
    rfl, nearest?_of_takes hnonzero rfl ?_ ?_, ?_⟩
  · rw [List.head?_take, if_neg (Nat.ne_of_gt hpos)]
    exact Or.inl hdigits.head?_ne
  · simpa using hless
  · simp only [NumberParts.digits_literal, NumberParts.exponent_literal, Option.getD_none,
      List.take_append_drop, hdigits.digitsValue_eq, List.length_drop]
    rwa [show (0 : Int) - (digits.length - point : Nat) = exponent by omega]
  · simp [NumberParts.unsigned, fractionChars, exponentChars, hless]

/-- A number with an exponent: one digit before the point, and no point when it is the only one. -/
theorem writtenAs_exponent (hnonzero : d.mantissa ≠ 0) (hdigits : LeadingDigits digits value)
    (htakes : d.Takes ⟨value, exponent⟩) :
    d.WrittenAs (digits.take 1 ++ (fractionChars (digits.drop 1) ++
      exponentChars (some (digits.length + exponent - 1)))) := by
  have hlength := List.length_pos_iff.mpr hdigits.ne_nil
  refine ⟨⟨d.negative, digits.take 1, digits.drop 1, some (digits.length + exponent - 1),
    fun c hc => hdigits.all_digits c (List.mem_of_mem_take hc), by simp [hdigits.ne_nil],
    Or.inr (by rw [List.length_take]; omega),
    fun c hc => hdigits.all_digits c (List.mem_of_mem_drop hc)⟩,
    rfl, nearest?_of_takes hnonzero rfl ?_ ?_, rfl⟩
  · simp
  · simp only [NumberParts.digits_literal, NumberParts.exponent_literal, Option.getD_some,
      List.take_append_drop, hdigits.digitsValue_eq, List.length_drop]
    rwa [show digits.length + exponent - 1 - ((digits.length - 1 : Nat) : Int) = exponent by omega]

theorem WrittenAs.exists_parts {text : List Char} (h : d.WrittenAs text) :
    ∃ parts : NumberParts, Number.nearest? parts.literal = some (.double d) ∧
      parts.chars = (if d.negative then ['-'] else []) ++ text := by
  obtain ⟨parts, hnegative, hread, rfl⟩ := h
  exact ⟨parts, hread, by rw [NumberParts.chars, hnegative]⟩

/-- The printer writes a double in one of the four ways, and zero in its own. -/
theorem exists_parts (d : Double) : ∃ parts : NumberParts,
    Number.nearest? parts.literal = some (.double d) ∧ parts.chars = d.text documentFormat := by
  by_cases hzero : d.mantissa = 0
  · refine ⟨⟨d.negative, ['0'], ['0'], none, allDigits_replicate 1, by simp, by simp,
      allDigits_replicate 1⟩, ?_, ?_⟩
    · have hread : ofScientific? d.negative 0 (-1) = some d := by
        rw [eq_zero hzero]
        rfl
      simp [Number.nearest?, Number.integerOr, NumberParts.literal, NumberLiteral.digits,
        NumberLiteral.exponent, NumberLiteral.plain, digitsValue, digitValue, hread]
    · simp [NumberParts.chars, NumberParts.unsigned, fractionChars, exponentChars, text, isZero,
        hzero]
  · have htakes := takes_shortest hzero
    have hdigits := leadingDigits_toDigits (htakes.digits_ne_zero hzero)
    have hlength := List.length_pos_iff.mpr hdigits.ne_nil
    have hsize : d.isZero = false := by simpa [isZero] using hzero
    simp only [text, hsize, Bool.false_eq_true, if_false]
    generalize Nat.toDigits 10 d.shortest.digits = digits at *
    generalize d.shortest = decimal at *
    obtain ⟨value, exponent⟩ := decimal
    refine WrittenAs.exists_parts ?_
    dsimp only
    split
    · split
      · rename_i hsmall
        exact writtenAs_small hzero hdigits htakes hsmall
      · split
        · rename_i hpositive hwhole
          rw [show (digits.length + exponent).natAbs - digits.length = exponent.toNat by omega]
          exact writtenAs_whole hzero hdigits htakes (by omega)
        · exact writtenAs_split hzero hdigits htakes (by omega) (by omega) (by omega)
    · have hparts := writtenAs_exponent hzero hdigits htakes
      by_cases hmark : digits.length + exponent - 1 < 0 <;>
        simpa [exponentChars, fractionChars, hmark] using hparts

end Double

/-! ## Integers -/

namespace Number

/-- A whole number with its sign. -/
def wholeParts (negative : Bool) (value : Nat) : NumberParts where
  negative := negative
  whole := Nat.toDigits 10 value
  decimals := []
  exponent := none
  whole_digits := allDigits_toDigits value
  whole_ne_nil := Nat.toDigits_ne_nil
  whole_lead := by
    rcases Nat.eq_zero_or_pos value with rfl | hpos
    · exact Or.inr rfl
    · exact Or.inl (head?_toDigits (Nat.ne_of_gt hpos))
  decimals_digits := fun _ hc => nomatch hc

theorem chars_wholeParts (negative : Bool) (value : Nat) :
    (wholeParts negative value).chars =
      (if negative then ['-'] else []) ++ Nat.toDigits 10 value := by
  cases negative <;> simp [wholeParts, NumberParts.chars, NumberParts.unsigned, fractionChars,
    exponentChars]

@[simp]
theorem digits_wholeParts (negative : Bool) (value : Nat) :
    (wholeParts negative value).literal.digits = value := by
  rw [NumberParts.digits_literal, wholeParts, List.append_nil, digitsValue_toDigits]

/-- How an integer is written. -/
def integerParts (value : Int) : NumberParts := wholeParts (decide (value < 0)) value.natAbs

theorem chars_integerParts {value : Int} (inRange : InRange value) :
    (integerParts value).chars = (Number.integer value inRange).text := by
  rw [integerParts, chars_wholeParts, text]
  by_cases hneg : value < 0 <;> simp [hneg]

/-- An integer is read as itself; what its digits are as a double does not matter. -/
theorem integerOr_integerParts {value : Int} (inRange : InRange value) (double : Option Double) :
    integerOr double (integerParts value).literal = some (.integer value inRange) := by
  have hdigits : (integerParts value).literal.digits = value.natAbs := digits_wholeParts _ _
  have hnegative : (integerParts value).literal.negative = decide (value < 0) := rfl
  have hplain : (integerParts value).literal.plain = true := rfl
  have hvalue : 0 ≤ value ∨ value ≠ 0 := by omega
  have hsigned : (if value < 0 then -(value.natAbs : Int) else value.natAbs) = value := by
    split <;> omega
  have hinteger : (true && !(decide (value < 0) && value.natAbs == 0)) = true := by
    simpa using hvalue
  simp only [integerOr, hdigits, hnegative, hplain, hinteger, if_true, decide_eq_true_eq, hsigned,
    inRange, dif_pos]

/-- What the printed number is read as. -/
def literal (number : Number) : NumberLiteral :=
  ((number? number.text).map Prod.fst).getD ⟨false, [], [], none⟩

theorem literal_of_chars {number : Number} {parts : NumberParts}
    (hchars : parts.chars = number.text) : number.literal = parts.literal := by
  have hread := parts.number?_chars (show EndsNumber [] by simp [EndsNumber])
  rw [List.append_nil, hchars] at hread
  rw [literal, hread]
  rfl

theorem exists_parts (number : Number) : ∃ parts : NumberParts,
    nearest? parts.literal = some number ∧ parts.chars = number.text := by
  cases number with
  | double value => exact value.exists_parts
  | integer value inRange =>
      exact ⟨_, integerOr_integerParts inRange _, chars_integerParts inRange⟩

theorem exists_text_eq_cons (number : Number) :
    ∃ c others, number.text = c :: others ∧ (c = '-' ∨ isDigit c = true) := by
  obtain ⟨parts, -, hchars⟩ := number.exists_parts
  rw [← hchars]
  exact parts.exists_chars_eq_cons

/-- A printed number is one literal, and the number is the nearest to it. -/
theorem literal_spec (number : Number) : nearest? number.literal = some number ∧
    ∀ {rest}, EndsNumber rest → number? (number.text ++ rest) = some (number.literal, rest) := by
  obtain ⟨parts, hnearest, hchars⟩ := number.exists_parts
  rw [literal_of_chars hchars]
  refine ⟨hnearest, fun hrest => ?_⟩
  rw [← hchars]
  exact parts.number?_chars hrest

/-- No two numbers are printed as the same literal. -/
theorem literal_injective : Function.Injective literal := by
  intro left right heq
  have hleft := left.literal_spec.1
  rw [heq, right.literal_spec.1] at hleft
  exact (Option.some.inj hleft).symm

end Number

end Forms
