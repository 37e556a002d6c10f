import Forms.Generation
import Forms.Proofs.Numbers.Measure
import Forms.Proofs.Pattern.Charset
import Forms.Proofs.Pattern.Matching

/-!
# Patterns that bound a length

A bound on the length of a text is written as a pattern: any characters, counted, between the two
ends of the text.  Such a pattern is always well formed, and it matches exactly the texts of the
right length.  The count is written out in its programs, so a large one does not compile.
-/

namespace Forms.Pattern

open Token (AllDigits)

/-! ## Reading the pattern -/

/-- Any character, line breaks among them. -/
def anyCharacter : Expr := .chars [(0, 0x10FFFF)]

/-- Any characters between the ends of the text, as often as the bounds allow.  Nothing is left of
the change of flags behind the start. -/
def counted (least : Nat) (most : Option Nat) : Expr :=
  .concat (.assertion .textStart)
    (.concat .empty (.concat (.iterate anyCharacter least most) (.assertion .textEnd)))

/-- The flags behind `(?s)`. -/
def dotAll : Flags := { dotAll := true }

theorem skip_dotAll (rest : List Char) : dotAll.skip rest = rest := rfl

/-- A count ends where its digits do. -/
theorem count?_toDigits (value : Nat) (hvalue : value < countLimit) {c : Char} {rest : List Char}
    (hdigit : Token.isDigit c = false) (hblank : Unicode.isBlank c = false) :
    count? dotAll (Nat.toDigits 10 value ++ c :: rest) = some (some value, c :: rest) := by
  have hdigits := Token.allDigits_toDigits value
  have htail : ∀ first ∈ (c :: rest).head?, Token.isDigit first = false := by
    simpa using hdigit
  have hstart : (Nat.toDigits 10 value ++ c :: rest).dropWhile Unicode.isBlank =
      Nat.toDigits 10 value ++ c :: rest := by
    obtain ⟨lead, others, hlead⟩ := List.exists_cons_of_ne_nil
      (show Nat.toDigits 10 value ≠ [] from Nat.toDigits_ne_nil)
    have hfirst := Token.isBlank_of_isDigit (hdigits lead (by simp [hlead]))
    rw [hlead, List.cons_append, List.dropWhile_cons_of_neg (by simp [hfirst])]
  have hend : (c :: rest).dropWhile Unicode.isBlank = c :: rest :=
    List.dropWhile_cons_of_neg (by simp [hblank])
  simp [count?, hstart, Token.takeWhile_isDigit hdigits htail,
    Token.dropWhile_isDigit hdigits htail, Flags.skip, dotAll, hend, Token.digitsValue_toDigits,
    hvalue, Nat.toDigits_ne_nil]

theorem bounds?_atMost {most : Nat} (hmost : most < countLimit) :
    bounds? dotAll ('0' :: ',' :: (Nat.toDigits 10 most ++ ['\x7d', '$'])) =
      some (0, some most, ['$']) := by
  have hleast : count? dotAll ('0' :: ',' :: (Nat.toDigits 10 most ++ ['\x7d', '$'])) =
      some (some 0, ',' :: (Nat.toDigits 10 most ++ ['\x7d', '$'])) :=
    count?_toDigits 0 (by decide) (by decide) (by decide)
  have hcount : count? dotAll (Nat.toDigits 10 most ++ ['\x7d', '$']) =
      some (some most, ['\x7d', '$']) := count?_toDigits most hmost (by decide) (by decide)
  obtain ⟨lead, others, hlead⟩ := List.exists_cons_of_ne_nil
    (show Nat.toDigits 10 most ≠ [] from Nat.toDigits_ne_nil)
  have hdigit := Token.allDigits_toDigits most lead (by simp [hlead])
  have hbrace : lead ≠ '\x7d' := by
    rintro rfl
    cases hdigit
  rw [hlead, List.cons_append] at hcount hleast ⊢
  simp only [bounds?, skip_dotAll, hleast, Option.bind_eq_bind, Option.bind_some]
  split
  · rename_i heq
    exact absurd (List.cons.inj heq).1 hbrace
  · simp only [hcount, Option.bind_some, Nat.zero_le, if_true]
    rfl

theorem bounds?_atLeast {least : Nat} (hleast : least < countLimit) :
    bounds? dotAll (Nat.toDigits 10 least ++ [',', '\x7d', '$']) = some (least, none, ['$']) := by
  have hcount : count? dotAll (Nat.toDigits 10 least ++ [',', '\x7d', '$']) =
      some (some least, [',', '\x7d', '$']) := count?_toDigits least hleast (by decide) (by decide)
  simp only [bounds?, skip_dotAll, hcount, Option.bind_eq_bind, Option.bind_some]
  rfl

/-- One part is read after the other. -/
theorem read?_cons {reader next : Reader} {c : Char} {rest left : List Char} (fuel : Nat)
    (hspaced : reader.flags.spaced = false) (hstep : step? reader c rest = some (next, left)) :
    read? (fuel + 1) reader (c :: rest) = read? fuel next left := by
  rw [read?, Flags.skip, hspaced]
  simp only [Bool.false_eq_true, if_false, hstep]

/-- A pattern of this form is read whatever its bounds are. -/
theorem parse?_counted {bounds : List Char} {least : Nat} {most : Option Nat}
    (hbounds : bounds? dotAll (bounds ++ ['\x7d', '$']) = some (least, most, ['$'])) :
    parse? ("^(?s).\x7b".toList ++ (bounds ++ ['\x7d', '$'])) = some (counted least most) := by
  let started : Reader := ⟨{}, [⟨.assertion .textStart, 0, true⟩], [], [], []⟩
  let flagged : Reader := ⟨dotAll, ⟨.empty, 0, false⟩ :: started.parts, [], [], []⟩
  let dotted : Reader := ⟨dotAll, ⟨anyCharacter, 0, true⟩ :: flagged.parts, [], [], []⟩
  let repeated : Reader :=
    ⟨dotAll, ⟨.iterate anyCharacter least most, 1, true⟩ :: flagged.parts, [], [], []⟩
  let ended : Reader := ⟨dotAll, ⟨.assertion .textEnd, 0, true⟩ :: repeated.parts, [], [], []⟩
  have hrepeat : step? dotted '\x7b' (bounds ++ ['\x7d', '$']) = some (repeated, ['$']) := by
    have hdotted : bounds? dotted.flags (bounds ++ ['\x7d', '$']) = some (least, most, ['$']) :=
      hbounds
    simp only [step?, hdotted, Option.bind_eq_bind, Option.bind_some]
    rfl
  have hlength : ("^(?s).\x7b".toList ++ (bounds ++ ['\x7d', '$'])).length + 1 =
      bounds.length + 9 + 1 := by
    simp
  calc
    parse? ("^(?s).\x7b".toList ++ (bounds ++ ['\x7d', '$']))
    _ = read? (bounds.length + 9 + 1) .start
        ('^' :: '(' :: '?' :: 's' :: ')' :: '.' :: '\x7b' :: (bounds ++ ['\x7d', '$'])) := by
      rw [parse?, hlength]
      rfl
    _ = read? (bounds.length + 8 + 1) started
        ('(' :: '?' :: 's' :: ')' :: '.' :: '\x7b' :: (bounds ++ ['\x7d', '$'])) :=
      read?_cons _ rfl rfl
    _ = read? (bounds.length + 7 + 1) flagged ('.' :: '\x7b' :: (bounds ++ ['\x7d', '$'])) :=
      read?_cons _ rfl rfl
    _ = read? (bounds.length + 6 + 1) dotted ('\x7b' :: (bounds ++ ['\x7d', '$'])) :=
      read?_cons _ rfl rfl
    _ = read? (bounds.length + 5 + 1) repeated ['$'] := read?_cons _ rfl hrepeat
    _ = read? (bounds.length + 4 + 1) ended [] := read?_cons _ rfl rfl
    _ = some (counted least most) := rfl

theorem toList_toString (length : UInt32) :
    (toString length).toList = Nat.toDigits 10 length.toNat :=
  Nat.toList_repr

theorem parse?_atMostPattern (most : UInt32) :
    parse? (atMostPattern most).toList = some (counted 0 (some most.toNat)) := by
  have hbounds := bounds?_atMost most.toNat_lt_size
  rw [← List.cons_append, ← List.cons_append] at hbounds
  rw [← parse?_counted hbounds]
  congr 1
  simp only [atMostPattern, String.toList_append, toList_toString, List.append_assoc]
  rfl

theorem parse?_atLeastPattern (least : UInt32) :
    parse? (atLeastPattern least).toList = some (counted least.toNat none) := by
  have hbounds := bounds?_atLeast least.toNat_lt_size
  rw [show [',', '\x7d', '$'] = [','] ++ ['\x7d', '$'] from rfl, ← List.append_assoc] at hbounds
  rw [← parse?_counted hbounds]
  congr 1
  simp only [atLeastPattern, String.toList_append, toList_toString, List.append_assoc]
  rfl

/-! ## What it matches -/

theorem contains_anyCharacter (c : Char) :
    Unicode.Ranges.contains [(0, 0x10FFFF)] c.toNat = true :=
  contains_iff.mpr ⟨(0, 0x10FFFF), List.mem_cons_self, Nat.zero_le _, Alphabet.toNat_le_last c⟩

/-- Every part of a text is that many characters. -/
theorem power_anyCharacter_iff (count : Nat) (before after : Option Char) (part : List Char) :
    anyCharacter.language.power count before part after ↔ part.length = count :=
  (Expr.power_chars_iff _ count before after part).trans
    (and_iff_left fun c _ => contains_anyCharacter c)

theorem matchesIn_counted (least : Nat) (most : Option Nat)
    (hbounds : ∀ bound ∈ most, least ≤ bound) (text : List Char) :
    (counted least most).matchesIn text = true ↔
      least ≤ text.length ∧ ∀ bound ∈ most, text.length ≤ bound := by
  have hbounded : (Expr.concat .empty
      (.concat (.iterate anyCharacter least most) (.assertion .textEnd))).Bounded :=
    ⟨True.intro, ⟨True.intro, hbounds⟩, True.intro⟩
  rw [counted, Expr.matchesIn_textStart_iff hbounded]
  have hskip (second : Expr) : (Expr.concat .empty second).MatchesPrefix none text ↔
      second.MatchesPrefix none text := by
    simp only [Expr.MatchesPrefix, Expr.language, Language.empty_followedBy]
  rw [hskip, Expr.matchesPrefix_textEnd_iff]
  simp only [Expr.language, power_anyCharacter_iff]
  constructor
  · rintro ⟨_, hleast, hmost, rfl⟩
    exact ⟨hleast, hmost⟩
  · rintro ⟨hleast, hmost⟩
    exact ⟨_, hleast, hmost, rfl⟩

/-! ## Which counts compile -/

/-- The largest upper bound whose pattern compiles. -/
def largestMost : Nat := 10443

/-- The largest lower bound whose pattern compiles. -/
def largestLeast : Nat := 10877

theorem roughSize_anyCharacter : Charset.roughSize [(0, 0x10FFFF)] = ⟨5120, 5120⟩ := rfl

theorem exactSize_anyCharacter : Charset.exactSize [(0, 0x10FFFF)] = ⟨416, 964⟩ := rfl

theorem size_counted (setSize : Charset → ProgramSize) (least : Nat) (most : Option Nat) :
    (counted least most).size setSize false =
      (ProgramSize.both stateBytes).add
        ((Expr.iterateSize (setSize [(0, 0x10FFFF)]) false least most).add (.both stateBytes)) :=
  rfl

theorem fitsProgram_atMost (most : Nat) :
    (counted 0 (some most)).fitsProgram = true ↔ most ≤ largestMost := by
  have hlimit : programLimit = 10485760 := rfl
  rw [Expr.fitsProgram, size_counted, size_counted, roughSize_anyCharacter, exactSize_anyCharacter]
  match most with
  | 0 => decide
  | 1 => decide
  | most + 2 =>
      simp only [Expr.iterateSize, ProgramSize.fits, ProgramSize.add, ProgramSize.times,
        ProgramSize.both, Expr.frameSize, stateBytes, forkBytes, linkBytes, hlimit, largestMost,
        Bool.or_eq_true, Bool.and_eq_true, decide_eq_true_eq]
      omega

theorem fitsProgram_atLeast (least : Nat) :
    (counted least none).fitsProgram = true ↔ least ≤ largestLeast := by
  have hlimit : programLimit = 10485760 := rfl
  rw [Expr.fitsProgram, size_counted, size_counted, roughSize_anyCharacter, exactSize_anyCharacter]
  match least with
  | 0 => decide
  | least + 1 =>
      simp only [Expr.iterateSize, ProgramSize.fits, ProgramSize.add, ProgramSize.times,
        ProgramSize.both, Expr.frameSize, stateBytes, forkBytes, linkBytes, hlimit, largestLeast,
        Bool.or_eq_true, Bool.and_eq_true, decide_eq_true_eq]
      omega

theorem compile?_eq {text : String} {expr : Expr} (hparse : parse? text.toList = some expr) :
    compile? text = if expr.fitsProgram then some ⟨expr⟩ else none := by
  rw [compile?, hparse]
  rfl

end Forms.Pattern
